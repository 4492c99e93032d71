import BeaconGateway.Document.Records
import BeaconGateway.Proofs.Json.Writing
import BeaconGateway.Proofs.Table.Requests
import BeaconGateway.Proofs.Table.Roster

/-!
# What a batch tells

The backend reads a batch as JSON, takes each member by its name and gives up if a name is
missing or stands twice. It finds in the document the header and, in their order, the records with
their addresses and their payloads as bytes. Nothing that a batch is meant to say is lost, so two
batches with one text say the same.

A record stands under the text of its address, so no name stands twice if no address does. The
table hands over no other lists (`ReportTable.Holds.nodup_drain`,
`ReportTable.Holds.nodup_history`).

## Main definitions

* `BatchContents` — what a batch says;
* `BatchContents.ofDocument?` — reading it;
* `BatchContents.ofRecords` — what the gateway means to say.

## Main results

* `BatchContents.ofDocument?_recordsDocument` — a batch is read back;
* `recordsDocument_render_tells` — its text tells what was meant.
-/

namespace BeaconGateway

/-! ### Reading an address -/

namespace Address

/-- The bytes in pairs of digits with colons between them. -/
def bytes? : List Char → Option (List UInt8)
  | [hi, lo] => Hex.decode? [hi, lo]
  | hi :: lo :: ':' :: rest => do
    let first ← Hex.decode? [hi, lo]
    let others ← bytes? rest
    return first ++ others
  | _ => none

/-- The address in a text such as `AA:BB:CC:DD:EE:FF`. -/
def ofText? (text : String) : Option Address :=
  bytes? text.toList >>= ofBytes?

theorem bytes?_encodeByte (b : UInt8) : bytes? (Hex.encodeByte .upper b) = some [b] :=
  Hex.decode?_encode .upper [b]

theorem bytes?_encodeByte_append (b : UInt8) (rest : List Char) :
    bytes? (Hex.encodeByte .upper b ++ ':' :: rest) = (bytes? rest).map (b :: ·) := by
  have hfirst : Hex.decode? (Hex.encodeByte .upper b) = some [b] := Hex.decode?_encode .upper [b]
  simp only [Hex.encodeByte] at hfirst
  simp only [Hex.encodeByte, List.cons_append, List.nil_append, bytes?, hfirst]
  cases bytes? rest <;> rfl

/-- **An address is read back.** -/
theorem ofText?_text (a : Address) : ofText? a.text = some a := by
  simp only [ofText?, text, String.toList_ofList, write, List.append_assoc, List.cons_append,
    bytes?_encodeByte_append, bytes?_encodeByte, Option.map_some]
  rfl

theorem text_injective : Function.Injective text := fun a b hsame ↦ by
  simpa [ofText?_text] using congrArg ofText? hsame

end Address

/-! ### Reading a document -/

namespace Json

/-- The members of an object, if no two have the same name. -/
def members? : Json → Option (List (String × Json))
  | .object members => if (members.map Prod.fst).Nodup then some members else none
  | _ => none

/-- A word of thirty-two bits. -/
def word? (j : Json) : Option UInt32 :=
  (j.nat? (UInt32.size - 1)).map UInt32.ofNat

/-- The strength of a signal. -/
def rssi? (j : Json) : Option Int8 :=
  (j.between? (-128) 127).map Int8.ofInt

theorem members?_object {members : List (String × Json)}
    (hdistinct : (members.map Prod.fst).Nodup) : members? (.object members) = some members :=
  if_pos hdistinct

/-- A number that is not too large is read back. -/
theorem nat?_nat {n largest : Nat} (hbound : n ≤ largest) : (nat n).nat? largest = some n := by
  have hinside : (0 : Int) ≤ Int.ofNat n ∧ Int.ofNat n ≤ (largest : Int) :=
    ⟨Int.natCast_nonneg _, Int.ofNat_le.2 hbound⟩
  rw [nat, nat?, between?, if_pos hinside]
  rfl

theorem word?_word (w : UInt32) : (Json.word w).word? = some w := by
  have hbound : w.toNat ≤ UInt32.size - 1 := by
    have := w.toNat_lt_size
    omega
  rw [word?, word, nat?_nat hbound]
  exact congrArg some UInt32.ofNat_toNat

theorem rssi?_number (rssi : Int8) : rssi? (.number rssi.toInt) = some rssi := by
  have hlow : -128 ≤ rssi.toInt := rssi.le_toInt
  have hhigh : rssi.toInt < 128 := rssi.toInt_lt
  rw [rssi?, between?, if_pos ⟨hlow, by omega⟩]
  exact congrArg some (Int8.ofInt_toInt rssi)

end Json

/-- The stamp of a record. -/
inductive Stamp where
  /-- Seconds since 1970. -/
  | time (seconds : UInt32)
  /-- A running number. -/
  | number (count : UInt32)
  deriving DecidableEq

/-- The stamp in a record: the name under which it stands tells what it is. -/
def Stamp.ofMembers? (members : List (String × Json)) : Option Stamp :=
  match members.lookup "timestamp", members.lookup "counter" with
  | some seconds, none => seconds.word?.map .time
  | none, some count => count.word?.map .number
  | _, _ => none

/-- What a batch says of a record. -/
structure TagContents where
  /-- The device that was seen. -/
  address : Address
  /-- The strength of the signal. -/
  rssi : Int8
  /-- When it was seen. -/
  stamp : Stamp
  /-- The bytes of the advertisement. -/
  payload : List UInt8
  deriving DecidableEq

/-- Read a record under its name. -/
def TagContents.ofMember? (member : String × Json) : Option TagContents := do
  let address ← Address.ofText? member.1
  let members ← member.2.members?
  let rssi ← members.lookup "rssi" >>= Json.rssi?
  let stamp ← Stamp.ofMembers? members
  let data ← members.lookup "data" >>= Json.string?
  let payload ← Hex.decode? data.toList
  return { address, rssi, stamp, payload }

/-- What a batch says. -/
structure BatchContents where
  /-- Where the gateway stands. -/
  coordinates : String
  /-- The gateway's address as text. -/
  gateway : String
  /-- The number of the batch. -/
  nonce : Option UInt32
  /-- The gateway's time. -/
  timestamp : Option UInt32
  /-- The records in order. -/
  tags : List TagContents
  deriving DecidableEq

namespace BatchContents

/-- **Read a batch.** -/
def ofDocument? (j : Json) : Option BatchContents := do
  let document ← j.members?
  let data ← document.lookup "data" >>= Json.members?
  let coordinates ← data.lookup "coordinates" >>= Json.string?
  let gateway ← data.lookup "gw_mac" >>= Json.string?
  let nonce ← (data.lookup "nonce").mapM Json.word?
  let timestamp ← (data.lookup "timestamp").mapM Json.word?
  let members ← data.lookup "tags" >>= Json.members?
  let tags ← members.mapM TagContents.ofMember?
  return { coordinates, gateway, nonce, timestamp, tags }

end BatchContents

/-! ### What is meant -/

/-- The stamp of a report, which is a time or a running number. -/
def Stamp.ofReport (useTimestamps : Bool) (r : Report) : Stamp :=
  if useTimestamps then .time r.timestamp else .number r.timestamp

/-- What a batch is meant to say of a report. -/
def TagContents.ofReport (useTimestamps : Bool) (r : Report) : TagContents where
  address := r.address
  rssi := r.rssi
  stamp := .ofReport useTimestamps r
  payload := r.payload.bytes

/-- What a batch is meant to say. -/
def BatchContents.ofRecords (h : RecordsHeader) (records : List Report) : BatchContents where
  coordinates := h.coordinates
  gateway := h.gateway
  nonce := h.nonce
  timestamp := h.shownTime
  tags := records.map (.ofReport h.useTimestamps)

/-! ### Batches are read back -/

/-- The digits of a payload show all of it. -/
theorem decode?_payloadText (payload : Payload) :
    Hex.decode? (payloadText payload.bytes).toList = some payload.bytes := by
  rw [payloadText, List.take_of_length_le payload.fits, Hex.upper, String.toList_ofList]
  exact Hex.decode?_encode .upper payload.bytes

/-- **A record is read back.** -/
theorem TagContents.ofMember?_tagDocument (useTimestamps : Bool) (r : Report) :
    ofMember? (r.address.text, tagDocument useTimestamps r) =
      some (.ofReport useTimestamps r) := by
  cases useTimestamps <;>
    simp [ofMember?, tagDocument, Address.ofText?_text, Json.members?, Json.rssi?_number,
      Stamp.ofMembers?, Json.word?_word, Json.string?, decode?_payloadText, ofReport,
      Stamp.ofReport, List.lookup_cons]

/-- **A batch is read back**, if no two of its records have the same address. -/
theorem BatchContents.ofDocument?_recordsDocument (h : RecordsHeader) {records : List Report}
    (hdistinct : (records.map Report.address).Nodup) :
    ofDocument? (recordsDocument h records) = some (ofRecords h records) := by
  have htags : (records.map fun r ↦ (r.address.text, tagDocument h.useTimestamps r)).mapM
      TagContents.ofMember? = some (records.map (.ofReport h.useTimestamps)) := by
    induction records with
    | nil => rfl
    | cons r rest ih =>
      rw [List.map_cons, List.mapM_cons, ih (List.nodup_cons.1 hdistinct).2,
        TagContents.ofMember?_tagDocument]
      rfl
  have hmembers : (Json.object (records.map fun r ↦
      (r.address.text, tagDocument h.useTimestamps r))).members? =
        some (records.map fun r ↦ (r.address.text, tagDocument h.useTimestamps r)) := by
    apply Json.members?_object
    have haddresses := hdistinct.map Address.text_injective
    rwa [List.map_map] at haddresses ⊢
  -- The time and the number may each be left out; every other name is there.
  simp only [ofDocument?, recordsDocument, ofRecords]
  generalize h.shownTime = time
  cases time <;> cases h.nonce <;>
    simp [Json.members?_object, Json.optional, List.lookup_cons, Json.string?, Json.word?_word,
      hmembers, htags]

/-! ### What the table hands over -/

namespace ReportTable.Holds

variable {n : Nat} {t : ReportTable n} {L : Layout n}

/-- A drain hands over no device twice. -/
theorem nodup_drain (hholds : t.Holds L) (capacity : Nat) :
    ((t.drain capacity).1.2.map Report.address).Nodup := by
  have hwaiting := hholds.wellFormed_roster.nodup_waiting
  rw [hholds.roster_eq] at hwaiting
  rw [(hholds.drain capacity).1, List.map_take, List.map_map]
  exact hwaiting.sublist (List.take_sublist ..)

/-- A history lists no device twice. -/
theorem nodup_history (hholds : t.Holds L) (now : UInt32) (maxAge : Option UInt32)
    (capacity : Nat) : ((t.history now maxAge capacity).map Report.address).Nodup := by
  rw [hholds.history_eq_roster, Roster.history]
  refine hholds.wellFormed_roster.distinct.sublist (List.Sublist.map _ ?_)
  exact (List.take_sublist ..).trans (List.takeWhile_sublist _)

end ReportTable.Holds

/-! ### The text of a batch -/

/-- **The text of a batch tells what was meant.** No two records have the same address, as in the
lists that drains and histories of a table hand over. The text is a text of one JSON value, which is
read as the coordinates and the address of the gateway, the number and the time if there are any,
and the records in their order. A batch with the same text was meant to say the same. -/
theorem recordsDocument_render_tells (h : RecordsHeader) (records : List Report)
    (hdistinct : (records.map Report.address).Nodup) :
    (∃ j, (∀ j', Json.Denotes (recordsDocument h records).render j' ↔ j' = j) ∧
      BatchContents.ofDocument? j = some (.ofRecords h records)) ∧
    (∀ (h' : RecordsHeader) (records' : List Report), (records'.map Report.address).Nodup →
      (recordsDocument h' records').render = (recordsDocument h records).render →
      BatchContents.ofRecords h' records' = .ofRecords h records) ∧
    ∀ (n : Nat) (requests : List TableRequest) (capacity : Nat),
      let t := (ReportTable.new : ReportTable n).after requests
      ((t.drain capacity).1.2.map Report.address).Nodup ∧
        ∀ now maxAge, ((t.history now maxAge capacity).map Report.address).Nodup := by
  have hread := BatchContents.ofDocument?_recordsDocument h hdistinct
  refine ⟨⟨recordsDocument h records, fun j' ↦ Json.denotes_render_iff, hread⟩, ?_, ?_⟩
  · intro h' records' hdistinct' hsame
    have hread' := BatchContents.ofDocument?_recordsDocument h' hdistinct'
    have hdocument : recordsDocument h' records' = recordsDocument h records :=
      Json.denotes_render_iff.1 (hsame ▸ Json.denotes_render (recordsDocument h' records'))
    rw [hdocument, hread] at hread'
    exact (Option.some.inj hread').symm
  · intro n requests capacity t
    obtain ⟨L, hholds⟩ := ReportTable.exists_holds_after requests
    exact ⟨hholds.nodup_drain capacity, fun now maxAge ↦ hholds.nodup_history now maxAge capacity⟩

/-- Coordinates with a quote, a backslash, a control character and a character beyond sixteen bits,
and two records, the first of them with a weak signal. -/
theorem recordsDocument_tells_odd_coordinates :
    let h : RecordsHeader := {
      coordinates := "60\"N \\ \x01 🌍", gateway := Address.simulated.text
      timestamp := some 1700000000, nonce := some 4294967295, useTimestamps := true }
    let records : List Report :=
      [{ Report.blank with
          timestamp := 1700000000, rssi := -128, payload := ⟨[0x02, 0xFF], by decide⟩ },
        { Report.blank with address := .simulated, rssi := 127 }]
    (records.map Report.address).Nodup ∧
      ∃ j, (∀ j', Json.Denotes (recordsDocument h records).render j' ↔ j' = j) ∧
        BatchContents.ofDocument? j = some {
          coordinates := "60\"N \\ \x01 🌍", gateway := "DE:AD:BE:EF:CA:FE"
          nonce := some 4294967295, timestamp := some 1700000000
          tags := [⟨.zero, -128, .time 1700000000, [0x02, 0xFF]⟩,
            ⟨.simulated, 127, .time 0, []⟩] } := by
  intro h records
  have hdistinct : (records.map Report.address).Nodup := by decide
  exact ⟨hdistinct, (recordsDocument_render_tells h records hdistinct).1⟩

end BeaconGateway

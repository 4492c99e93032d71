import BeaconGateway.Mqtt.Publisher
import BeaconGateway.Proofs.Document.Records
import BeaconGateway.Proofs.Outside
import Mathlib.Data.String.Basic

/-!
# What is published to the broker

A batch is published message by message, one for each record and in their order, until a message is
refused. Who refuses does not matter to the publisher: the client may, and the slot does while there
is no client in it. Between two messages the client may be taken out of the slot or put back.

A topic is the configured root followed by the address of the device. A root has at most 64 bytes
and an address 17, so a topic always fits; and two devices never share a topic under one root.

## Main definitions

* `Mqtt.Slot.throughNow` — messages go to the client that is in the slot at the time;
* `Mqtt.Publishes` — how a row of messages is published up to the first that is refused.

## Main results

* `Mqtt.recordTopic?_eq`, `Mqtt.topic_injective` — every device has a topic of its own;
* `Mqtt.Publisher.exists_publishBatch_recorded` — which messages are published, and in what order;
* `Mqtt.Publisher.publishBatch_over` — what an outside carries beside changes nothing;
* `Mqtt.Publisher.heard_publishBatch` — which of them the client hears;
* `Mqtt.Publisher.publishBatch_publishes` — a batch through a slot.
-/

namespace BeaconGateway

/-! ### Topics -/

theorem Hex.utf8Size_digit (letters : Hex.Letters) :
    ∀ d < 16, (Hex.digit letters d).utf8Size = 1 := by
  cases letters <;> decide

theorem Hex.utf8Len_encodeByte (letters : Hex.Letters) (b : UInt8) :
    String.utf8Len (Hex.encodeByte letters b) = 2 := by
  have hbyte : b.toNat < 256 := b.toNat_lt
  have hhigh := Hex.utf8Size_digit letters (b.toNat / 16) (by omega)
  have hlow := Hex.utf8Size_digit letters (b.toNat % 16) (by omega)
  simp only [Hex.encodeByte, String.utf8Len_cons, String.utf8Len_nil, hhigh, hlow]

/-- The text of an address has 17 bytes: six times two digits and five colons. -/
theorem Address.utf8ByteSize_text (a : Address) : a.text.utf8ByteSize = 17 := by
  have hcolon : Char.utf8Size ':' = 1 := by decide
  rw [Address.text, String.utf8ByteSize_ofList, Address.write]
  simp only [String.utf8Len_append, String.utf8Len_cons, Hex.utf8Len_encodeByte, hcolon]

namespace Mqtt

/-- **A topic fits** under a root of at most 64 bytes: it has at most 81. -/
theorem utf8ByteSize_topic_le {root : String} (hfits : root.utf8ByteSize ≤ 64) (device : Address) :
    (root ++ device.text).utf8ByteSize ≤ maxTopic := by
  rw [String.utf8ByteSize_append, Address.utf8ByteSize_text, maxTopic]
  omega

theorem recordTopic?_eq {root : String} (hfits : root.utf8ByteSize ≤ 64) (device : Address) :
    recordTopic? root device = some (root ++ device.text) :=
  if_pos (utf8ByteSize_topic_le hfits device)

/-- **Devices have topics of their own** under one root. -/
theorem topic_injective (root : String) :
    Function.Injective fun device : Address ↦ root ++ device.text := by
  intro a b hsame
  refine Address.text_injective (String.toList_inj.1 ?_)
  have hchars := congrArg String.toList hsame
  rw [String.toList_append, String.toList_append] at hchars
  exact List.append_cancel_left hchars

/-! ### Messages in order -/

/-- Messages go to the client that is in the slot at the time. -/
def Slot.throughNow {ω : Type} (slot : ω → Slot) (client : Client ω) : Client ω :=
  fun message outside ↦ (slot outside).through client message outside

/-- If a client lies over another one, so does a slot with it in. -/
theorem Slot.throughNow_liesOver {ω ω' : Type} {client : Client ω} {client' : Client ω'}
    {f : ω' → ω} (hlies : client'.LiesOver client f) (slot : ω → Slot) :
    (Slot.throughNow (fun o ↦ slot (f o)) client').LiesOver (Slot.throughNow slot client) f := by
  intro message o
  simp only [Slot.throughNow, Slot.through]
  split_ifs
  · exact hlies message o
  · rfl

/-- **How a row of messages is published**, with a log of those that were published and how each was
answered. -/
structure Publishes (messages : List Message) (log : List (Message × Except CommsError Unit))
    (delivered : Bool) : Prop where
  /-- The messages are published in order. -/
  inOrder : log.map Prod.fst <+: messages
  /-- After one that was refused no other is published. -/
  untilRefused : ∀ entry ∈ log.dropLast, entry.2 = .ok ()
  /-- The row is delivered if none was refused. -/
  delivered_iff : delivered = true ↔ ∀ entry ∈ log, entry.2 = .ok ()
  /-- If none was refused, all were published. -/
  all : delivered = true → log.map Prod.fst = messages

namespace Publishes

variable {messages : List Message} {log : List (Message × Except CommsError Unit)}
  {delivered : Bool}

theorem nil : Publishes [] [] true where
  inOrder := List.prefix_refl _
  untilRefused := by simp
  delivered_iff := by simp
  all _ := rfl

/-- A message that is refused is the last. -/
theorem refused (message : Message) (e : CommsError) (messages : List Message) :
    Publishes (message :: messages) [(message, .error e)] false where
  inOrder := ⟨messages, rfl⟩
  untilRefused := by simp
  delivered_iff := by simp
  all := by simp

/-- A message that is taken comes before the others. -/
theorem taken (message : Message) (hrest : Publishes messages log delivered) :
    Publishes (message :: messages) ((message, .ok ()) :: log) delivered where
  inOrder := List.cons_prefix_cons.2 ⟨rfl, hrest.inOrder⟩
  untilRefused := by
    cases log with
    | nil => simp
    | cons entry log =>
      rw [List.dropLast_cons_cons, List.forall_mem_cons]
      exact ⟨rfl, hrest.untilRefused⟩
  delivered_iff := by
    rw [List.forall_mem_cons, hrest.delivered_iff]
    exact (and_iff_right rfl).symm
  all hdelivered := by rw [List.map_cons, hrest.all hdelivered]

end Publishes

/-! ### Batches -/

namespace Publisher

variable {ω ω' : Type}

/-- The message of a record. -/
def message (p : Publisher) (unixTime : Option UInt32) (r : Report) : Message :=
  ⟨p.topicRoot.text ++ r.address.text, (recordDocument (p.header unixTime) r).render⟩

variable {p : Publisher} {client : Client ω} {unixTime : Option UInt32} {r : Report}
  {rest records : List Report} {o o' : ω}

theorem publish_eq : p.publish client unixTime r o = client (p.message unixTime r) o := by
  rw [publish, message?, recordTopic?_eq p.topicRoot.fits]
  rfl

theorem publishBatch_of_ok (hanswer : client (p.message unixTime r) o = (.ok (), o')) :
    p.publishBatch client unixTime (r :: rest) o = p.publishBatch client unixTime rest o' := by
  rw [publishBatch, publish_eq, hanswer]

theorem publishBatch_of_error {e : CommsError}
    (hanswer : client (p.message unixTime r) o = (.error e, o')) :
    p.publishBatch client unixTime (r :: rest) o = (false, o') := by
  rw [publishBatch, publish_eq, hanswer]

/-- What is noted of a message beside its answer. -/
theorem recorded_eq {message : Message} {answer : Except CommsError Unit}
    {earlier : List (Message × Except CommsError Unit)}
    (hanswered : client message o = (answer, o')) :
    client.recorded message (o, earlier) = (answer, o', earlier ++ [(message, answer)]) := by
  simp only [Ask.recorded, hanswered]

/-- **A batch is published message by message**, whatever the client answers. -/
theorem exists_publishBatch_recorded (p : Publisher) (client : Client ω)
    (unixTime : Option UInt32) (records : List Report) (o : ω)
    (earlier : List (Message × Except CommsError Unit)) :
    ∃ log, (p.publishBatch client.recorded unixTime records (o, earlier)).2.2 = earlier ++ log ∧
      Publishes (records.map (p.message unixTime)) log
        (p.publishBatch client.recorded unixTime records (o, earlier)).1 := by
  induction records generalizing o earlier with
  | nil => exact ⟨[], (List.append_nil _).symm, .nil⟩
  | cons r rest ih =>
    rcases hanswered : client (p.message unixTime r) o with ⟨e | ⟨⟩, o'⟩
    · rw [publishBatch_of_error (recorded_eq hanswered)]
      exact ⟨_, rfl, .refused _ e _⟩
    · obtain ⟨log, hmore, hpublishes⟩ := ih o' (earlier ++ [(p.message unixTime r, .ok ())])
      rw [publishBatch_of_ok (recorded_eq hanswered), hmore, List.append_assoc]
      exact ⟨_, rfl, hpublishes.taken _⟩

/-- **A batch ends alike** over an outside that carries more. -/
theorem publishBatch_over {client' : Client ω'} {f : ω' → ω} (hlies : client'.LiesOver client f)
    (p : Publisher) (unixTime : Option UInt32) (records : List Report) (o : ω') :
    ((p.publishBatch client' unixTime records o).1,
        f (p.publishBatch client' unixTime records o).2) =
      p.publishBatch client unixTime records (f o) := by
  induction records generalizing o with
  | nil => rfl
  | cons r rest ih =>
    -- both answer the first message alike
    have hfirst := hlies (p.message unixTime r) o
    rcases hanswer : client' (p.message unixTime r) o with ⟨e | ⟨⟩, o'⟩
    · rw [hanswer] at hfirst
      rw [publishBatch_of_error hanswer, publishBatch_of_error hfirst.symm]
    · rw [hanswer] at hfirst
      rw [publishBatch_of_ok hanswer, publishBatch_of_ok hfirst.symm, ih]

/-! ### Through a slot -/

/-- An empty slot refuses the first message. -/
theorem publishBatch_empty {slot : ω → Slot} (hempty : (slot o).filled = false)
    (hrecords : records ≠ []) :
    p.publishBatch (Slot.throughNow slot client) unixTime records o = (false, o) := by
  obtain ⟨r, rest, rfl⟩ := List.exists_cons_of_ne_nil hrecords
  refine publishBatch_of_error (e := .notConnected) ?_
  rw [Slot.throughNow, Slot.through, hempty]
  rfl

/-- **The client hears every message**, except for a last one that finds the slot empty. -/
theorem heard_publishBatch (p : Publisher) (slot : ω → Slot) (client : Client ω)
    (unixTime : Option UInt32) (records : List Report) (o : ω)
    (earlier : List (Message × Except CommsError Unit)) :
    let published := p.publishBatch
      (Slot.throughNow (fun o ↦ slot o.1) client.recorded).recorded unixTime records
        ((o, earlier), earlier)
    published.2.2 = published.2.1.2 ∨
      (slot published.2.1.1).filled = false ∧
        ∃ message, published.2.2 = published.2.1.2 ++ [(message, .error .notConnected)] := by
  induction records generalizing o earlier with
  | nil => exact .inl rfl
  | cons r rest ih =>
    cases hfilled : (slot o).filled with
    | false =>
      have hrefused : Slot.throughNow (fun o ↦ slot o.1) client.recorded (p.message unixTime r)
          (o, earlier) = (.error .notConnected, o, earlier) := by
        rw [Slot.throughNow, Slot.through, hfilled]
        rfl
      rw [publishBatch_of_error (recorded_eq hrefused)]
      exact .inr ⟨hfilled, _, rfl⟩
    | true =>
      rcases hanswered : client (p.message unixTime r) o with ⟨answer, o'⟩
      have hheard : Slot.throughNow (fun o ↦ slot o.1) client.recorded (p.message unixTime r)
          (o, earlier) = (answer, o', earlier ++ [(p.message unixTime r, answer)]) :=
        (if_pos hfilled).trans (recorded_eq hanswered)
      cases answer with
      | error e =>
        rw [publishBatch_of_error (recorded_eq hheard)]
        exact .inl rfl
      | ok taken =>
        rw [publishBatch_of_ok (recorded_eq hheard)]
        exact ih o' _

/-- **A batch through a slot.** Whatever the client behind the slot answers, and whether or not it
is in the slot at each message, one message is published for each record, in order, up to the first
that is refused; the batch is delivered exactly if none is. Its topic is the configured root
followed by the device's address, and its document that of the record. The client hears all that the
slot is given while it is in the slot. If the slot is empty from the start, nothing of a batch with
records is heard, and it is not delivered. Every topic fits, and no two devices share one. -/
theorem publishBatch_publishes (c : Config) (gateway : Address) (slot : ω → Slot)
    (client : Client ω) (unixTime : Option UInt32) (records : List Report) (outside : ω) :
    let header : RecordsHeader := {
      coordinates := c.coordinates.text
      gateway := gateway.text
      timestamp := unixTime
      nonce := none
      useTimestamps := c.time.useTimestamps }
    let messages := records.map fun r ↦
      Message.mk (c.mqtt.topicRoot.text ++ r.address.text) (recordDocument header r).render
    let published := (Publisher.new c gateway).publishBatch
      (Slot.throughNow (fun o ↦ slot o.1) client.recorded).recorded unixTime records
        ((outside, []), [])
    let delivered := published.1
    let outside' := published.2.1.1
    let heard := published.2.1.2
    let log := published.2.2
    Publishes messages log delivered ∧
    (Publisher.new c gateway).publishBatch (Slot.throughNow slot client) unixTime records outside =
      (delivered, outside') ∧
    (log = heard ∨ (slot outside').filled = false ∧
      ∃ message, log = heard ++ [(message, .error .notConnected)]) ∧
    ((slot outside).filled = false → records ≠ [] → delivered = false ∧ heard = []) ∧
    ∀ (root : ShortText) (device : Address),
      recordTopic? root.text device = some (root.text ++ device.text) ∧
      (root.text ++ device.text).utf8ByteSize ≤ maxTopic ∧
      ∀ other : Address, root.text ++ other.text = root.text ++ device.text → other = device := by
  intro header messages published delivered outside' heard log
  let through := Slot.throughNow (fun o ↦ slot o.1) client.recorded
  -- without the log the batch ends alike, and so it does without what the client heard
  have hunlogged : (Publisher.new c gateway).publishBatch through unixTime records (outside, []) =
      (delivered, outside', heard) :=
    (publishBatch_over (Ask.recorded_liesOver through) _ unixTime records ((outside, []), [])).symm
  have hunheard : (Publisher.new c gateway).publishBatch (Slot.throughNow slot client) unixTime
      records outside = (delivered, outside') := by
    have hlies := Slot.throughNow_liesOver (Ask.recorded_liesOver client) slot
    rw [← publishBatch_over hlies _ unixTime records (outside, []), hunlogged]
  refine ⟨?_, hunheard, heard_publishBatch _ slot client unixTime records outside [], ?_, ?_⟩
  · obtain ⟨answered, hlog, hpublishes⟩ :=
      exists_publishBatch_recorded (Publisher.new c gateway) through unixTime records
        (outside, []) []
    have hlog : log = answered := hlog
    rw [hlog]
    exact hpublishes
  · intro hempty hrecords
    have hrefused := hunlogged.symm.trans (publishBatch_empty hempty hrecords)
    exact ⟨congrArg Prod.fst hrefused, congrArg (fun o ↦ o.2.2) hrefused⟩
  · intro root device
    exact ⟨recordTopic?_eq root.fits device, utf8ByteSize_topic_le root.fits device,
      fun other hsame ↦ topic_injective root.text hsame⟩

/-- Nothing of a record is heard by a client that is not in the slot, although it would take it. -/
theorem publishBatch_publishes_nothing :
    let slot : Unit → Slot := fun _ ↦ .empty
    let client : Client Unit := fun _ o ↦ (.ok (), o)
    let published := (Publisher.new .default .zero).publishBatch
      (Slot.throughNow (fun o ↦ slot o.1) client.recorded).recorded none [Report.blank]
        (((), []), [])
    (slot ()).filled = false ∧ [Report.blank] ≠ [] ∧ published.1 = false ∧
      published.2.1.2 = [] := by
  intro slot client published
  have hrecords : [Report.blank] ≠ [] := List.cons_ne_nil _ _
  obtain ⟨-, -, -, hnothing, -⟩ :=
    publishBatch_publishes .default .zero slot client none [Report.blank] ()
  exact ⟨rfl, hrecords, hnothing rfl hrecords⟩

end Publisher

end Mqtt

end BeaconGateway

import BeaconGateway.Proofs.Config.Blob
import BeaconGateway.Storage

/-!
# What the store remembers

The configuration is one entry of a store that holds others as well, and it is loaded from the bytes
that stand there. The codec of the configuration is lawful, so these bytes are read to the end of
the configuration and no further: what follows is ignored, and where something is missing nothing is
loaded.

Whoever writes to the store under other names leaves the configuration alone. So what is loaded can
be told from the saves and erasures alone: it is what was last saved with success, unless it was
erased since (`lastSaved`). That the store always holds its bytes, and nothing if there is none, is
an invariant of each request (`Remembers.serve`).

## Main results

* `Storage.loadConfig_blob` — the stored form of a configuration, with bytes added or missing;
* `Storage.Remembers` — what the store holds after an exchange of requests and answers;
* `Storage.loadConfig_after` — what is loaded after any requests.
-/

namespace BeaconGateway

namespace Storage

/-! ### Bytes under names -/

theorem lookup_filter_ne {entries : List (String × List UInt8)} (gone wanted : String) :
    (entries.filter fun entry ↦ entry.1 != gone).lookup wanted =
      if wanted = gone then none else entries.lookup wanted := by
  induction entries with
  | nil => split_ifs <;> rfl
  | cons entry rest ih =>
    obtain ⟨other, bytes⟩ := entry
    by_cases hsame : other = gone
    · subst hsame
      rw [List.filter_cons_of_neg (by simp), ih]
      split_ifs with hfound
      · rfl
      · rw [List.lookup_cons, beq_false_of_ne hfound]
    · rw [List.filter_cons_of_pos (by simpa using hsame), List.lookup_cons, List.lookup_cons, ih]
      by_cases hfound : wanted = other
      · subst hfound
        rw [beq_self_eq_true]
        exact (if_neg hsame).symm
      · rw [beq_false_of_ne hfound]

theorem get?_delete (s : Storage) (space key space' key' : String) :
    (s.delete space key).get? space' key' =
      if name space' key' = name space key then none else s.get? space' key' :=
  lookup_filter_ne _ _

theorem get?_write (s : Storage) (space key : String) (bytes : List UInt8) (space' key' : String) :
    (s.write space key bytes).get? space' key' =
      if name space' key' = name space key then some bytes else s.get? space' key' := by
  rw [get?, write, List.lookup_cons]
  by_cases hsame : name space' key' = name space key
  · rw [if_pos hsame, beq_iff_eq.2 hsame]
  · rw [if_neg hsame, beq_false_of_ne hsame]
    exact (get?_delete s space key space' key').trans (if_neg hsame)

/-! ### The stored form of a configuration -/

/-- What is loaded depends on the bytes that stand at the place of the configuration. -/
theorem loadConfig_write (s : Storage) (bytes : List UInt8) :
    (s.write configSpace configKey bytes).loadConfig =
      (Config.ofBlob? bytes).elim (.error .corrupted) .ok := by
  rw [loadConfig, get?_write, if_pos rfl]
  dsimp only
  cases Config.ofBlob? bytes <;> rfl

theorem ofBlob?_append (c : Config) (rest : List UInt8) :
    Config.ofBlob? (c.toBlob ++ rest) = some c := by
  rw [Config.ofBlob?, Config.toBlob, Config.lawful_codec.read?_write, Option.map_some]

/-- **A stored configuration is read to its end and no further.** Its stored form is the row of its
fields; with any bytes behind it the configuration is loaded, and with bytes missing at its end, be
it all of them, the entry is corrupted. So no stored form begins another one, and none is that of
two configurations. -/
theorem loadConfig_blob (s : Storage) (c : Config) :
    c.toBlob = c.fields.flatMap Config.Field.bytes ∧
      (∀ rest, (s.write configSpace configKey (c.toBlob ++ rest)).loadConfig = .ok c) ∧
      (∀ part, part <+: c.toBlob → part ≠ c.toBlob →
        (s.write configSpace configKey part).loadConfig = .error .corrupted) ∧
      ∀ d : Config, c.toBlob <+: d.toBlob → c = d := by
  refine ⟨c.toBlob_eq, fun rest ↦ ?_, fun part hbegins hshort ↦ ?_, fun d ↦ ?_⟩
  · rw [loadConfig_write, ofBlob?_append, Option.elim_some]
  · have hnothing : Config.ofBlob? part = none := by
      rw [Config.ofBlob?, Config.lawful_codec.read?_eq_none hbegins hshort, Option.map_none]
    rw [loadConfig_write, hnothing, Option.elim_none]
  · exact Config.lawful_codec.eq_of_write_prefix

/-! ### Requests -/

/-- What is asked of a store. -/
inductive Request where
  /-- Check a configuration and store it. -/
  | save (c : Config)
  /-- Load the stored configuration. -/
  | load
  /-- Forget the stored configuration. -/
  | erase
  /-- Put bytes under a name. -/
  | write (space key : String) (bytes : List UInt8)
  /-- Remove a name. -/
  | delete (space key : String)
  /-- Read at most `room` bytes. -/
  | read (space key : String) (room : Nat)
  /-- Ask whether a name is there. -/
  | contains (space key : String)

/-- What is answered. -/
inductive Answer where
  /-- Whether a configuration was stored. -/
  | save (result : Except ConfigError Unit)
  /-- The stored configuration. -/
  | load (result : Except ConfigError Config)
  /-- It is done. -/
  | done
  /-- The bytes that were read. -/
  | read (result : Except StorageError (List UInt8))
  /-- Whether a name is there. -/
  | contains (there : Bool)

/-- A request that does not touch the place of the configuration behind its back. -/
def Request.Spares : Request → Prop
  | .write space key _ | .delete space key => name space key ≠ name configSpace configKey
  | _ => True

/-- Serve one request. -/
def serve (s : Storage) : Request → Answer × Storage
  | .save c => (.save (s.saveConfig c).1, (s.saveConfig c).2)
  | .load => (.load s.loadConfig, s)
  | .erase => (.done, s.eraseConfig)
  | .write space key bytes => (.done, s.write space key bytes)
  | .delete space key => (.done, s.delete space key)
  | .read space key room => (.read (s.read space key room), s)
  | .contains space key => (.contains (s.contains space key), s)

/-- The store after requests. -/
def after (s : Storage) (requests : List Request) : Storage :=
  requests.foldl (fun s request ↦ (s.serve request).2) s

/-- Requests with their answers. -/
def exchanges (s : Storage) : List Request → List (Request × Answer)
  | [] => []
  | request :: rest => (request, (s.serve request).1) :: exchanges (s.serve request).2 rest

theorem exchanges_append (s : Storage) (before rest : List Request) :
    s.exchanges (before ++ rest) = s.exchanges before ++ (s.after before).exchanges rest := by
  induction before generalizing s with
  | nil => rfl
  | cons request before ih => exact congrArg (List.cons _) (ih _)

/-- A refused configuration leaves no trace. -/
theorem saveConfig_of_invalid {c : Config} {reason : ConfigError}
    (hinvalid : c.validate = .error reason) (s : Storage) :
    s.saveConfig c = (.error reason, s) := by
  rw [saveConfig, hinvalid]

theorem saveConfig_of_valid {c : Config} (hvalid : c.validate = .ok ()) (s : Storage) :
    s.saveConfig c = (.ok (), s.write configSpace configKey c.toBlob) := by
  rw [saveConfig, hvalid]

/-! ### The last save -/

/-- The configuration that an exchange has stored. -/
def saved? : Request × Answer → Option Config
  | (.save c, .save (.ok ())) => some c
  | _ => none

/-- Whether an exchange has erased the configuration. -/
def erases : Request × Answer → Bool
  | (.erase, _) => true
  | _ => false

/-- The configuration of the last save that succeeded, among what came since the last erasure. -/
def lastSaved (exchanged : List (Request × Answer)) : Option Config :=
  (exchanged.reverse.takeWhile fun x ↦ !erases x).findSome? saved?

theorem lastSaved_concat (exchanged : List (Request × Answer)) (x : Request × Answer) :
    lastSaved (exchanged ++ [x]) =
      if erases x then none else (saved? x).or (lastSaved exchanged) := by
  rw [lastSaved, List.reverse_append, List.reverse_singleton, List.singleton_append,
    List.takeWhile_cons]
  cases erases x with
  | true => rfl
  | false =>
    show List.findSome? saved? (x :: _) = _
    rw [List.findSome?_cons]
    cases saved? x <;> rfl

/-- **What the store remembers** of an exchange: the bytes of the last configuration saved, which is
valid. -/
structure Remembers (s : Storage) (exchanged : List (Request × Answer)) : Prop where
  /-- At the place of the configuration stand its bytes, or none. -/
  stored : s.get? configSpace configKey = (lastSaved exchanged).map Config.toBlob
  /-- It is valid. -/
  valid : ∀ c, lastSaved exchanged = some c → c.validate = .ok ()

theorem remembers_empty : empty.Remembers [] where
  stored := rfl
  valid _ hsaved := nomatch hsaved

namespace Remembers

variable {s : Storage} {exchanged : List (Request × Answer)}

/-- What neither saves nor erases changes nothing. -/
theorem concat_of_idle (hremembers : s.Remembers exchanged) {s' : Storage} {x : Request × Answer}
    (hsame : s'.get? configSpace configKey = s.get? configSpace configKey)
    (hkeeps : erases x = false) (hsaves : saved? x = none) : s'.Remembers (exchanged ++ [x]) := by
  have hlast : lastSaved (exchanged ++ [x]) = lastSaved exchanged := by
    rw [lastSaved_concat, hkeeps, hsaves]
    rfl
  exact ⟨hsame.trans (hlast ▸ hremembers.stored), hlast ▸ hremembers.valid⟩

/-- **One request** that spares the place of the configuration. -/
theorem serve (hremembers : s.Remembers exchanged) {request : Request} (hspares : request.Spares) :
    (s.serve request).2.Remembers (exchanged ++ [(request, (s.serve request).1)]) := by
  -- only to save and to erase touch the place, and the others are spared by what they name
  cases request with
  | save c =>
    rw [Storage.serve]
    rcases hchecked : c.validate with reason | ⟨⟩
    · rw [saveConfig_of_invalid hchecked]
      exact hremembers.concat_of_idle rfl rfl rfl
    · rw [saveConfig_of_valid hchecked]
      have hlast : lastSaved (exchanged ++ [(.save c, .save (.ok ()))]) = some c :=
        lastSaved_concat _ _
      refine ⟨?_, fun d hsaved ↦ ?_⟩
      · rw [get?_write, if_pos rfl, hlast, Option.map_some]
      · rw [hlast, Option.some.injEq] at hsaved
        exact hsaved ▸ hchecked
  | erase =>
    rw [Storage.serve]
    have hlast : lastSaved (exchanged ++ [(.erase, .done)]) = none := lastSaved_concat _ _
    refine ⟨?_, fun c hsaved ↦ ?_⟩
    · rw [eraseConfig, get?_delete, if_pos rfl, hlast, Option.map_none]
    · rw [hlast] at hsaved
      cases hsaved
  | write space key bytes =>
    exact hremembers.concat_of_idle
      ((get?_write s space key bytes _ _).trans (if_neg (Ne.symm hspares))) rfl rfl
  | delete space key =>
    exact hremembers.concat_of_idle
      ((get?_delete s space key _ _).trans (if_neg (Ne.symm hspares))) rfl rfl
  | load | read | contains => exact hremembers.concat_of_idle rfl rfl rfl

/-- **Any requests** that spare the place of the configuration. -/
theorem after (hremembers : s.Remembers exchanged) {requests : List Request}
    (hspares : ∀ request ∈ requests, request.Spares) :
    (s.after requests).Remembers (exchanged ++ s.exchanges requests) := by
  induction requests generalizing s exchanged with
  | nil =>
    rw [exchanges, List.append_nil]
    exact hremembers
  | cons request rest ih =>
    obtain ⟨hfirst, hspares⟩ := List.forall_mem_cons.1 hspares
    have hlater := ih (hremembers.serve hfirst) hspares
    rwa [List.append_assoc] at hlater

/-- What is loaded is what the store remembers. -/
theorem loadConfig_eq (hremembers : s.Remembers exchanged) :
    s.loadConfig = (lastSaved exchanged).elim (.error .notFound) .ok := by
  rw [loadConfig, hremembers.stored]
  cases lastSaved exchanged with
  | none => rfl
  | some c =>
    have hread : Config.ofBlob? c.toBlob = some c := by
      simpa only [List.append_nil] using ofBlob?_append c []
    simp only [Option.map_some, hread, Option.elim_some]

end Remembers

/-- **What is loaded** is the configuration of the last save that succeeded since the last erasure,
and it is valid; without one nothing is found. This holds after every run of a new store in which
the place of the configuration is not written or removed under its name by others. A save that is
refused leaves no trace: each later request is answered as if it had not been tried. -/
theorem loadConfig_after {requests : List Request}
    (hspares : ∀ request ∈ requests, request.Spares) :
    let s := empty.after requests
    s.loadConfig = (lastSaved (empty.exchanges requests)).elim (.error .notFound) .ok ∧
      (∀ c, s.loadConfig = .ok c → c.validate = .ok ()) ∧
      ∀ before c rest reason, requests = before ++ .save c :: rest →
        c.validate = .error reason →
          ∃ since,
            empty.exchanges requests =
              empty.exchanges before ++ (.save c, .save (.error reason)) :: since ∧
            empty.exchanges (before ++ rest) = empty.exchanges before ++ since := by
  intro s
  have hremembers : s.Remembers (empty.exchanges requests) := remembers_empty.after hspares
  refine ⟨hremembers.loadConfig_eq, fun c hloaded ↦ ?_, ?_⟩
  · rw [hremembers.loadConfig_eq] at hloaded
    cases hlast : lastSaved (empty.exchanges requests) with
    | none =>
      rw [hlast] at hloaded
      cases hloaded
    | some d =>
      rw [hlast] at hloaded
      obtain rfl : d = c := Except.ok.inj hloaded
      exact hremembers.valid d hlast
  · rintro before c rest reason rfl hinvalid
    refine ⟨(empty.after before).exchanges rest, ?_, exchanges_append _ _ _⟩
    have hrefused := saveConfig_of_invalid hinvalid (empty.after before)
    rw [exchanges_append, exchanges, Storage.serve, hrefused]

/-- The default configuration is saved, another entry written, and a configuration with a period of
zero refused: the default configuration is loaded. -/
theorem loadConfig_after_refusal :
    let c := Config.default
    let faulty : Config := { c with relay.retransmitPeriod := 0 }
    let requests : List Request := [.save c, .write "gw_cfg" "backup" [1], .save faulty]
    (∀ request ∈ requests, request.Spares) ∧ (empty.after requests).loadConfig = .ok c := by
  intro c faulty requests
  have hspares : ∀ request ∈ requests, request.Spares := by
    simp only [requests, List.forall_mem_cons]
    exact ⟨trivial, by show name _ _ ≠ name _ _; decide, trivial,
      List.forall_mem_nil _⟩
  have hsound : c.violation? = none := by decide
  have hfault : faulty.violation? = some .retransmitPeriodOutOfRange := by decide
  have hvalid : c.validate = .ok () := Config.validate_eq_ok_iff.2 hsound
  have hinvalid : faulty.validate =
      .error (.validationFailed Config.Violation.retransmitPeriodOutOfRange.message) := by
    rw [Config.validate, hfault]
  have hlast : lastSaved (empty.exchanges requests) = some c := by
    simp only [requests, exchanges, serve, saveConfig_of_valid hvalid,
      saveConfig_of_invalid hinvalid]
    rfl
  refine ⟨hspares, ?_⟩
  rw [(loadConfig_after hspares).1, hlast]
  rfl

end Storage

end BeaconGateway

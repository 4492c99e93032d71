import BeaconGateway.Proofs.Relay.Recording

/-!
# A diary of the relay

The relay's task begins, handles signals and ends. Of each such act the diary says how the network
was, what the relay asked and whether it saw the network up afterwards. Between two acts everything
that the relay touches may change in any way, and so may the outside, so that a law of all diaries
holds for every order of signals, answers and links.

## Main definitions

* `Relay.Act` — what the task does;
* `Relay.System.asks` — what it asks meanwhile;
* `Relay.Diary.entries` — the diary of a course.

## Main results

* `Relay.Diary.exists_of_entries_eq` — an entry is about the relay as the turns before it left it;
* `Relay.Diary.follow_wake` — a wake-up is a course.
-/

namespace BeaconGateway.Relay

variable {ω ω' : Type} {f : ω' → ω} {contact : Contact ω} {contact' : Contact ω'}

/-- What the task of the relay does. -/
inductive Act where
  /-- It begins. -/
  | start
  /-- It handles a signal. -/
  | handle (signal : RelaySignal)
  /-- It ends. -/
  | finish
  deriving DecidableEq

namespace System

/-- One act. -/
def act (contact : Contact ω) (s : System ω) : Act → System ω
  | .start => s.start contact
  | .handle signal => s.handle contact signal
  | .finish => s.finish contact

/-- The relay does the same over an outside that carries more. -/
theorem map_act (hlies : contact'.LiesOver contact f) (s : System ω') (a : Act) :
    (s.act contact' a).map f = (s.map f).act contact a := by
  cases a with
  | start =>
    have hbegun := map_noteDelivery hlies (s.ask contact' (.watchdog .register)).2
    rw [map_ask_snd hlies] at hbegun
    exact congrArg (fun s : System ω ↦ ({ s with
      relay.timers :=
        s.relay.timers.startAll s.relay.config.statistics.enabled } : System ω))
      hbegun
  | handle signal => exact map_handle hlies s signal
  | finish =>
    have hended := map_ask_snd hlies (.watchdog .unregister) s
    exact congrArg (fun s : System ω ↦ ({ s with
      relay.timers := s.relay.timers.stopAll
      mailbox := s.mailbox.unregister } : System ω)) hended

/-! ### What is asked -/

/-- What was asked up to now, as the record shows. -/
def asked (s : System (ω × List (Call × Bool))) : List Call :=
  s.outside.2.map Prod.fst

/-- What the relay asks in one act, in order. -/
def asks (contact : Contact ω) (s : System ω) (a : Act) : List Call :=
  (s.recording.act contact.recorded a).asked

/-- The record is that of the relay's own act. -/
theorem recording_act (contact : Contact ω) (s : System ω) (a : Act) :
    (s.recording.act contact.recorded a).map Prod.fst = s.act contact a :=
  map_act contact.recorded_liesOver s.recording a

theorem relay_recording_act (contact : Contact ω) (s : System ω) (a : Act) :
    (s.recording.act contact.recorded a).relay = (s.act contact a).relay :=
  congrArg System.relay (recording_act contact s a)

theorem asked_ask (call : Call) (s : System (ω × List (Call × Bool))) :
    (s.ask contact.recorded call).2.asked = s.asked ++ [call] :=
  List.map_append

/-- **A delivery asks one question**, and of the relay it changes the time of the last delivery
alone. -/
theorem exists_deliver (contact : Contact ω) (call : Call)
    (s : System (ω × List (Call × Bool))) :
    ∃ quietSince, (s.deliver contact.recorded call).asked = s.asked ++ [call] ∧
      (s.deliver contact.recorded call).relay = { s.relay with quietSince } := by
  have hasked : (s.ask contact.recorded call).2.asked = s.asked ++ [call] := asked_ask call s
  have hsame : (s.ask contact.recorded call).2.relay = s.relay := rfl
  rcases hanswer : s.ask contact.recorded call with ⟨done, s'⟩
  rw [hanswer] at hasked hsame
  rw [deliver, hanswer, ← hsame]
  cases done with
  | true => exact ⟨_, hasked, rfl⟩
  | false => exact ⟨_, hasked, rfl⟩

end System

/-! ### The diary -/

namespace Diary

/-- What happens around the relay. -/
inductive Turn (ω : Type) where
  /-- It acts. -/
  | act (a : Act)
  /-- Meanwhile all that it touches has become this. -/
  | meanwhile (table : ReportTable gatewayCapacity) (net : NetworkStatus) (historyServed : Bool)
    (scanner : Option Address) (mailbox : Mailbox RelaySignal) (outside : ω)

/-- An entry of the diary. -/
structure Entry where
  /-- What the relay did. -/
  act : Act
  /-- How the network was. -/
  net : NetworkStatus
  /-- What the relay asked, in order. -/
  calls : List Call
  /-- Whether it saw the network up afterwards. -/
  connected : Bool

/-- The relay after a turn. -/
def turn (contact : Contact ω) (s : System ω) : Turn ω → System ω
  | .act a => s.act contact a
  | .meanwhile table net historyServed scanner mailbox outside =>
    { s with table, net, historyServed, scanner, mailbox, outside }

/-- The relay after turns in order. -/
def follow (contact : Contact ω) (s : System ω) (turns : List (Turn ω)) : System ω :=
  turns.foldl (turn contact) s

/-- What the diary says of an act. -/
def entry (contact : Contact ω) (s : System ω) (a : Act) : Entry where
  act := a
  net := s.net
  calls := s.asks contact a
  connected := (s.act contact a).relay.connected

/-- **The diary of a course.** -/
def entries (contact : Contact ω) : System ω → List (Turn ω) → List Entry
  | _, [] => []
  | s, .act a :: rest => entry contact s a :: entries contact (s.act contact a) rest
  | s, .meanwhile table net historyServed scanner mailbox outside :: rest =>
    entries contact { s with table, net, historyServed, scanner, mailbox, outside } rest

/-- What the relay asked in a course, in order. -/
def calls (contact : Contact ω) (s : System ω) (turns : List (Turn ω)) : List Call :=
  (entries contact s turns).flatMap Entry.calls

theorem follow_append (contact : Contact ω) (s : System ω) (turns more : List (Turn ω)) :
    follow contact s (turns ++ more) = follow contact (follow contact s turns) more :=
  List.foldl_append

theorem entries_append (contact : Contact ω) (s : System ω) (turns more : List (Turn ω)) :
    entries contact s (turns ++ more) =
      entries contact s turns ++ entries contact (follow contact s turns) more := by
  induction turns generalizing s with
  | nil => rfl
  | cons t rest ih =>
    cases t with
    | act a => exact congrArg (List.cons _) (ih _)
    | meanwhile => exact ih _

/-- **What the diary says of an act** is said of the relay as the turns before it left it. -/
theorem exists_of_entries_eq {s : System ω} {turns : List (Turn ω)} {before after : List Entry}
    {e : Entry} (hsplit : entries contact s turns = before ++ e :: after) :
    ∃ earlier a later, turns = earlier ++ .act a :: later ∧ entries contact s earlier = before ∧
      e = entry contact (follow contact s earlier) a := by
  induction turns generalizing s before with
  | nil => exact absurd hsplit.symm (List.append_ne_nil_of_right_ne_nil _ (List.cons_ne_nil _ _))
  | cons t rest ih =>
    cases t with
    | meanwhile table net historyServed scanner mailbox outside =>
      obtain ⟨earlier, a, later, rfl, rfl, hsaid⟩ := ih hsplit
      exact ⟨.meanwhile table net historyServed scanner mailbox outside :: earlier, a, later, rfl,
        rfl, hsaid⟩
    | act a =>
      cases before with
      | nil => exact ⟨[], a, rest, rfl, rfl, (List.cons.inj hsplit).1.symm⟩
      | cons first before =>
        obtain ⟨rfl, hothers⟩ := List.cons.inj hsplit
        obtain ⟨earlier, b, later, rfl, rfl, hsaid⟩ := ih hothers
        exact ⟨.act a :: earlier, b, later, rfl, rfl, hsaid⟩

/-- **A wake-up is a course**: the signals that were pending are handled one after another. -/
theorem follow_wake (contact : Contact ω) (s : System ω) :
    follow contact s (.meanwhile s.table s.net s.historyServed s.scanner s.mailbox.takeAll.2
      s.outside :: s.mailbox.pending.toList.map fun signal ↦ .act (.handle signal)) =
        (s.wake contact).2 := by
  show (s.mailbox.pending.toList.map _).foldl _ _ = System.handleAll contact _ s.mailbox.pending
  rw [List.foldl_map]
  rfl

/-- The network comes up, a status report is due, the network is lost and comes up again. -/
def loss : List (Turn Nat) :=
  [.act .start,
    .meanwhile .new (NetworkStatus.down.set NetworkStatus.wifi) false none .new 0,
    .act (.handle .retransmit), .act (.handle .sendStatistics),
    .meanwhile .new .down false none .new 0, .act (.handle .retransmit),
    .meanwhile .new (NetworkStatus.down.set NetworkStatus.wifi) false none .new 0,
    .act (.handle .retransmit)]

end Diary

end BeaconGateway.Relay

import BeaconGateway.Wire.Decoder
import Mathlib.Data.List.Basic

/-!
# What the decoder delivers

The decoder is fed any bytes at all, and is reset at any time. What it delivers is still a frame
that was sent, and the last bytes of the stream are that frame.

The bytes of the frame in progress are written in the state of the decoder (`State.taken`), and one
invariant says that the stream ends with them (`after_taken_suffix`). It holds from any point of the
stream on at which the decoder has taken nothing yet. After a delivery the decoder hunts, so the
bytes of the next frame come after the last byte of this one: the invariant, started there, is also
what keeps the frames apart.

## Main results

* `Decoder.delivered_suffix` — a delivered body makes up, with its frame, the end of the inputs;
* `Decoder.delivered_apart` — the frame of a later delivery lies behind an earlier one;
* `Decoder.answers_reset` — behind a reset a decoder answers as a new one does.
-/

namespace BeaconGateway.Decoder

variable {d : Decoder} {body : List UInt8}

/-! ### Inputs and answers -/

/-- What happens to a decoder. -/
inductive Input where
  /-- A byte arrives. -/
  | byte (value : UInt8)
  /-- The frame in progress is dropped. -/
  | reset
  deriving DecidableEq

/-- One input, with the body that it completes if it completes one. -/
def step (d : Decoder) : Input → Decoder × Option (List UInt8)
  | .byte value => d.push value
  | .reset => (d.reset, none)

/-- The decoder after inputs in order. -/
def after (d : Decoder) (inputs : List Input) : Decoder :=
  inputs.foldl (fun d input ↦ (d.step input).1) d

/-- For each input the body that it completes, if it completes one. -/
def answers (d : Decoder) : List Input → List (Option (List UInt8))
  | [] => []
  | input :: rest => (d.step input).2 :: answers (d.step input).1 rest

/-- The body that the last of some inputs to a new decoder completes, if it completes one. -/
def delivered (inputs : List Input) : Option (List UInt8) :=
  (new.answers inputs).getLast?.join

theorem after_append (d : Decoder) (before rest : List Input) :
    d.after (before ++ rest) = (d.after before).after rest :=
  List.foldl_append

theorem answers_append (d : Decoder) (before rest : List Input) :
    d.answers (before ++ rest) = d.answers before ++ (d.after before).answers rest := by
  induction before generalizing d with
  | nil => rfl
  | cons input before ih => exact congrArg (List.cons _) (ih _)

theorem delivered_concat (before : List Input) (input : Input) :
    delivered (before ++ [input]) = ((new.after before).step input).2 := by
  rw [delivered, answers_append, answers, answers, List.getLast?_concat, Option.join_some]

/-- What is delivered is delivered by a last input. -/
theorem exists_concat_of_delivered {inputs : List Input} (h : delivered inputs = some body) :
    ∃ before input, inputs = before ++ [input] ∧
      ((new.after before).step input).2 = some body := by
  rcases List.eq_nil_or_concat' inputs with rfl | ⟨before, input, rfl⟩
  · cases h
  · exact ⟨before, input, rfl, delivered_concat before input ▸ h⟩

/-! ### The frame in progress -/

/-- The bytes of the frame in progress. -/
def State.taken : State → List UInt8
  | .hunting => []
  | .length => [Frame.start]
  | .body size bytes => Frame.start :: size :: bytes
  | .checksum size bytes => Frame.start :: size :: bytes
  | .checksumHigh size bytes low => Frame.start :: size :: (bytes ++ [low])
  | .closing size bytes crc =>
    Frame.start :: size :: (bytes ++ [Checksum.lowByte crc, Checksum.highByte crc])

/-- As much of the body has come as there should have. -/
def State.Fits : State → Prop
  | .hunting | .length => True
  | .body size bytes => bytes.length < size.toNat
  | .checksum size bytes | .checksumHigh size bytes _ | .closing size bytes _ =>
    bytes ≠ [] ∧ bytes.length = size.toNat

theorem fits_push (h : d.state.Fits) (byte : UInt8) : (d.push byte).1.state.Fits := by
  obtain ⟨state, stats⟩ := d
  -- a frame in progress has room for what it announced, and no state leaves that behind
  cases state with
  | hunting =>
    simp only [push]
    split <;> trivial
  | length =>
    simp only [push]
    split
    case isTrue => trivial
    case isFalse hbyte =>
      exact Nat.pos_of_ne_zero fun hzero ↦ hbyte (UInt8.toNat_inj.1 hzero)
  | body length body =>
    have hlt : body.length < length.toNat := h
    simp only [push]
    split
    case isTrue hfull => exact ⟨List.append_ne_nil_of_right_ne_nil _ (List.cons_ne_nil _ _), hfull⟩
    case isFalse hmore =>
      rw [List.length_append, List.length_singleton] at hmore
      show (body ++ [byte]).length < length.toNat
      rw [List.length_append, List.length_singleton]
      omega
  | checksum length body => exact h
  | checksumHigh length body low => exact h
  | closing length body crc =>
    simp only [push, close]
    split
    case isTrue => dsimp only; split <;> trivial
    case isFalse => split <;> trivial

/-- **The frame in progress grows by the byte**, or begins with it, or is given up. -/
theorem taken_push (d : Decoder) (byte : UInt8) :
    (d.push byte).1.state.taken <:+ d.state.taken ++ [byte] := by
  obtain ⟨state, stats⟩ := d
  cases state with
  | hunting =>
    simp only [push]
    split
    case isTrue hbyte => exact hbyte ▸ List.suffix_rfl
    case isFalse => exact List.nil_suffix
  | length =>
    simp only [push]
    split
    case isTrue => exact List.nil_suffix
    case isFalse => exact List.suffix_rfl
  | body length body =>
    simp only [push]
    split <;> exact List.suffix_rfl
  | checksum length body => exact List.suffix_rfl
  | checksumHigh length body low =>
    simp only [push, State.taken, Checksum.lowByte_ofPair, Checksum.highByte_ofPair]
    simp
  | closing length body crc =>
    simp only [push, close]
    split
    case isTrue =>
      dsimp only
      split
      case isTrue hbyte => exact hbyte ▸ List.suffix_append ..
      case isFalse => exact List.nil_suffix
    case isFalse => split <;> exact List.nil_suffix

/-- **A body is delivered** by the end byte of its frame. -/
theorem push_eq_some (h : d.state.Fits) {byte : UInt8} (hbody : (d.push byte).2 = some body) :
    body ≠ [] ∧ body.length ≤ Frame.maxBody ∧ d.state.taken ++ [byte] = Frame.ofBody body ∧
      (d.push byte).1.state = .hunting := by
  obtain ⟨state, stats⟩ := d
  -- a body is complete at the closing byte alone
  cases state with
  | hunting => cases hbody
  | length =>
    simp only [push] at hbody
    split at hbody <;> cases hbody
  | body length body' => cases hbody
  | checksum length body' => cases hbody
  | checksumHigh length body' low => cases hbody
  | closing length body' crc =>
    simp only [push, close] at hbody ⊢
    split at hbody
    case isTrue => cases hbody
    case isFalse hstop =>
      split at hbody
      case isTrue => cases hbody
      case isFalse hcrc =>
        obtain rfl : body' = body := Option.some.inj hbody
        obtain ⟨hne, hlength⟩ : body' ≠ [] ∧ body'.length = length.toNat := h
        have hlt : length.toNat < 256 := length.toNat_lt
        have hbyte : UInt8.ofNat body'.length = length := hlength ▸ UInt8.ofNat_toNat
        rw [not_not] at hstop hcrc
        subst hstop hcrc
        refine ⟨hne, Nat.le_of_lt_succ (hlength ▸ hlt), ?_, ?_⟩
        · simp [State.taken, Frame.ofBody, Frame.checksum, hbyte]
        · simp

/-! ### The stream ends with the frame in progress -/

/-- One step of the invariant: the inputs so far end with the bytes of the frame in progress. -/
theorem step_taken_suffix {seen : List Input} (h : d.state.taken.map .byte <:+ seen)
    (input : Input) : (d.step input).1.state.taken.map .byte <:+ seen ++ [input] := by
  cases input with
  | byte value =>
    obtain ⟨skipped, rfl⟩ := h
    have hpush := (taken_push d value).map Input.byte
    rw [List.map_append, List.map_singleton] at hpush
    rw [List.append_assoc]
    exact hpush.trans (List.suffix_append ..)
  | reset => exact List.nil_suffix

theorem fits_step (h : d.state.Fits) (input : Input) : (d.step input).1.state.Fits := by
  cases input with
  | byte value => exact fits_push h value
  | reset => trivial

theorem fits_after (h : d.state.Fits) (inputs : List Input) : (d.after inputs).state.Fits := by
  induction inputs generalizing d with
  | nil => exact h
  | cons input rest ih => exact ih (fits_step h input)

/-- **The stream ends with the frame in progress**, after any inputs. -/
theorem after_taken_suffix {seen : List Input} (h : d.state.taken.map .byte <:+ seen)
    (inputs : List Input) :
    (d.after inputs).state.taken.map .byte <:+ seen ++ inputs := by
  induction inputs generalizing d seen with
  | nil => exact (List.append_nil seen).symm ▸ h
  | cons input rest ih =>
    have hstep := ih (step_taken_suffix h input)
    rwa [List.append_assoc, List.singleton_append] at hstep

/-! ### Deliveries -/

/-- A body is delivered by a byte, at the end of its frame. -/
theorem step_eq_some (h : d.state.Fits) {input : Input}
    (hbody : (d.step input).2 = some body) :
    body ≠ [] ∧ body.length ≤ Frame.maxBody ∧
      d.state.taken.map .byte ++ [input] = (Frame.ofBody body).map .byte ∧
      (d.step input).1.state = .hunting := by
  cases input with
  | byte value =>
    obtain ⟨hne, hlength, htaken, hstate⟩ := push_eq_some h hbody
    refine ⟨hne, hlength, ?_, hstate⟩
    rw [← htaken, List.map_append, List.map_singleton]
  | reset => cases hbody

/-- **A delivery from a hunting decoder on**: the inputs since then end with the frame. -/
theorem suffix_of_hunting (h : d.state = .hunting) {before : List Input} {input : Input}
    (hbody : ((d.after before).step input).2 = some body) :
    body ≠ [] ∧ body.length ≤ Frame.maxBody ∧
      (Frame.ofBody body).map .byte <:+ before ++ [input] := by
  have hfits : d.state.Fits := h ▸ trivial
  have htaken : d.state.taken.map Input.byte <:+ [] := h ▸ List.suffix_rfl
  obtain ⟨hne, hlength, hframe, -⟩ := step_eq_some (fits_after hfits before) hbody
  obtain ⟨skipped, hskipped⟩ := after_taken_suffix htaken before
  refine ⟨hne, hlength, skipped, ?_⟩
  rw [← hframe, ← List.append_assoc, hskipped, List.nil_append]

/-- **A delivered body** makes up, with its frame, the end of the inputs. -/
theorem delivered_suffix {inputs : List Input} (h : delivered inputs = some body) :
    body ≠ [] ∧ body.length ≤ Frame.maxBody ∧ (Frame.ofBody body).map .byte <:+ inputs := by
  obtain ⟨before, input, rfl, hbody⟩ := exists_concat_of_delivered h
  exact suffix_of_hunting rfl hbody

/-- A decoder that has just delivered a body hunts. -/
theorem state_after_delivered {inputs : List Input} (h : delivered inputs = some body) :
    (new.after inputs).state = .hunting := by
  obtain ⟨before, input, rfl, hbody⟩ := exists_concat_of_delivered h
  have hnew : new.state.Fits := trivial
  obtain ⟨-, -, -, hstate⟩ := step_eq_some (fits_after hnew before) hbody
  rw [after_append]
  exact hstate

/-- **Deliveries do not overlap**: the frame of the later one lies behind the earlier one. -/
theorem delivered_apart {earlier later : List Input} (hlater : later ≠ []) {next : List UInt8}
    (h : delivered earlier = some body) (hnext : delivered (earlier ++ later) = some next) :
    (Frame.ofBody next).map .byte <:+ later := by
  obtain ⟨between, input, rfl⟩ := (List.eq_nil_or_concat' later).resolve_left hlater
  rw [← List.append_assoc, delivered_concat, after_append] at hnext
  exact (suffix_of_hunting (state_after_delivered h) hnext).2.2

/-! ### Resets -/

/-- What a decoder delivers does not depend on its counters. -/
theorem push_stats (state : State) (stats stats' : Stats) (byte : UInt8) :
    (push ⟨state, stats⟩ byte).1.state = (push ⟨state, stats'⟩ byte).1.state ∧
      (push ⟨state, stats⟩ byte).2 = (push ⟨state, stats'⟩ byte).2 := by
  cases state with
  | hunting => by_cases hbyte : byte = Frame.start <;> simp [push, hbyte]
  | length => by_cases hbyte : byte = 0 <;> simp [push, hbyte]
  | body | checksum | checksumHigh => exact ⟨rfl, rfl⟩
  | closing =>
    simp only [push, close]
    split
    case isTrue => exact ⟨rfl, rfl⟩
    case isFalse => split <;> exact ⟨rfl, rfl⟩

theorem answers_of_state_eq {d' : Decoder} (h : d.state = d'.state) (inputs : List Input) :
    d.answers inputs = d'.answers inputs := by
  induction inputs generalizing d d' with
  | nil => rfl
  | cons input rest ih =>
    obtain ⟨state, stats⟩ := d
    obtain ⟨state', stats'⟩ := d'
    obtain rfl : state = state' := h
    have hstep : (step ⟨state, stats⟩ input).1.state = (step ⟨state, stats'⟩ input).1.state ∧
        (step ⟨state, stats⟩ input).2 = (step ⟨state, stats'⟩ input).2 := by
      cases input with
      | byte value => exact push_stats state stats stats' value
      | reset => exact ⟨rfl, rfl⟩
    rw [answers, answers, hstep.2, ih hstep.1]

/-- **Behind a reset** a decoder answers as a new one does. -/
theorem answers_reset (d : Decoder) (before rest : List Input) :
    d.answers (before ++ .reset :: rest) = d.answers before ++ none :: new.answers rest := by
  have hstate : (d.after before).reset.state = new.state := rfl
  rw [answers_append, answers, ← answers_of_state_eq hstate rest]
  rfl

end BeaconGateway.Decoder

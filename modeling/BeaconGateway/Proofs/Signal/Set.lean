import BeaconGateway.Signal.Mailbox
import Mathlib.Data.List.Nodup
import Mathlib.Data.Nat.Bitwise
import Mathlib.Tactic.SplitIfs

/-!
# What is in a set of signals

A signal is in a set exactly when the bit with its number is set, and no two signals share a
number. So a set behaves as one: it contains what was inserted and what it contained before.

A set keeps no count and no order. A signal that is sent twice before it is taken is there once, and
signals are taken in the order of their numbers, whichever was sent first.

## Main results

* `SignalSet.contains_eq_hasBit` — membership is a bit test;
* `SignalSet.hasBit_insert` — the bits after an insertion;
* `SignalSet.contains_insert` — membership after an insertion;
* `Mailbox.pending_send` — what is pending after a signal was sent;
* `Mailbox.isPending_send_of_ne` — a signal sent says nothing about another one;
* `Mailbox.isPending_sendAll` — what is pending after several were sent.
-/

namespace BeaconGateway

variable {σ : Type} [SignalKind σ]

/-- No two signals share a number. -/
theorem SignalKind.index_injective : Function.Injective (SignalKind.index : σ → Nat) := by
  intro s t hsame
  have hdistinct : ((SignalKind.all (σ := σ)).map SignalKind.index).Nodup :=
    SignalKind.ascending.imp fun hbelow ↦ Nat.ne_of_lt hbelow
  exact List.inj_on_of_nodup_map hdistinct (SignalKind.mem_all s) (SignalKind.mem_all t) hsame

namespace SignalSet

/-! ### Bits -/

theorem toNat_mask (s : σ) : (mask s).toNat = 2 ^ SignalKind.index s := by
  have hsmall : SignalKind.index s < 32 := SignalKind.index_lt s
  have hfits : 2 ^ SignalKind.index s < 2 ^ 32 := Nat.pow_lt_pow_right (by omega) hsmall
  have hword : SignalKind.index s < 2 ^ 32 := by omega
  rw [mask, UInt32.toNat_shiftLeft, UInt32.toNat_ofNat', Nat.mod_eq_of_lt hword,
    Nat.mod_eq_of_lt hsmall, UInt32.toNat_one, Nat.one_shiftLeft, Nat.mod_eq_of_lt hfits]

/-- Whether a bit is set, be it that of a signal or of none. -/
def hasBit (set : SignalSet σ) (n : Nat) : Bool :=
  set.bits.toNat.testBit n

omit [SignalKind σ] in
@[simp] theorem hasBit_empty (n : Nat) : (empty : SignalSet σ).hasBit n = false := by
  simp [hasBit, empty]

/-- An insertion sets one bit. -/
theorem hasBit_insert (set : SignalSet σ) (s : σ) (n : Nat) :
    (set.insert s).hasBit n = (set.hasBit n || decide (SignalKind.index s = n)) := by
  rw [hasBit, insert, UInt32.toNat_or, toNat_mask, Nat.testBit_or, Nat.testBit_two_pow, hasBit]

/-- **Membership is a bit test.** -/
theorem contains_eq_hasBit (set : SignalSet σ) (s : σ) :
    set.contains s = set.hasBit (SignalKind.index s) := by
  have hmeet : (set.bits &&& mask s).toNat =
      (set.bits.toNat.testBit (SignalKind.index s)).toNat * 2 ^ SignalKind.index s := by
    rw [UInt32.toNat_and, toNat_mask, Nat.and_two_pow]
  cases hbit : set.bits.toNat.testBit (SignalKind.index s) <;>
    simp [contains, hasBit, ← UInt32.toNat_inj, hmeet, hbit]

/-! ### Membership -/

@[simp] theorem contains_empty (s : σ) : (empty : SignalSet σ).contains s = false := by
  rw [contains_eq_hasBit, hasBit_empty]

omit [SignalKind σ] in
theorem isEmpty_iff {set : SignalSet σ} : set.isEmpty = true ↔ set = empty := by
  rw [isEmpty, beq_iff_eq]
  exact ⟨fun hnone ↦ congrArg SignalSet.mk hnone, fun hnone ↦ congrArg SignalSet.bits hnone⟩

theorem contains_insert [DecidableEq σ] (set : SignalSet σ) (s t : σ) :
    (set.insert s).contains t = (set.contains t || decide (s = t)) := by
  rw [contains_eq_hasBit, contains_eq_hasBit, hasBit_insert,
    decide_eq_decide.2 SignalKind.index_injective.eq_iff]

theorem mem_toList {set : SignalSet σ} {s : σ} : s ∈ set.toList ↔ set.contains s = true := by
  simp [toList, SignalKind.mem_all]

end SignalSet

/-! ### Pending signals -/

namespace Mailbox

@[simp] theorem registered_send (m : Mailbox σ) (s : σ) :
    (m.send s).2.registered = m.registered := by
  rw [send]
  split <;> rfl

/-- **A registered task has what it was sent pending**, with what it had before. -/
theorem pending_send {m : Mailbox σ} (hregistered : m.registered = true) (s : σ) :
    (m.send s).2.pending = m.pending.insert s := by
  rw [send, if_pos hregistered]
  rfl

/-- **A signal sent says nothing about another one**, whether a task is registered or not. -/
theorem isPending_send_of_ne [DecidableEq σ] (m : Mailbox σ) {s t : σ} (hother : s ≠ t) :
    (m.send s).2.isPending t = m.isPending t := by
  rw [send]
  split_ifs
  · simp [isPending, mark, ring, SignalSet.contains_insert, hother]
  · rfl

theorem sendAll_concat (m : Mailbox σ) (signals : List σ) (s : σ) :
    m.sendAll (signals ++ [s]) = ((m.sendAll signals).send s).2 :=
  List.foldl_concat _ _ _ _

@[simp] theorem registered_sendAll (m : Mailbox σ) (signals : List σ) :
    (m.sendAll signals).registered = m.registered := by
  rw [sendAll]
  induction signals generalizing m with
  | nil => rfl
  | cons s rest ih => rw [List.foldl_cons, ih, registered_send]

/-- **A registered task has all that it was sent pending**, with what it had before. -/
theorem isPending_sendAll [DecidableEq σ] {m : Mailbox σ} (hregistered : m.registered = true)
    (signals : List σ) (t : σ) :
    (m.sendAll signals).isPending t = (m.isPending t || decide (t ∈ signals)) := by
  rw [sendAll]
  induction signals generalizing m with
  | nil => simp
  | cons s rest ih =>
    have hfirst : (m.send s).2.isPending t = (m.isPending t || decide (t = s)) := by
      rw [isPending, pending_send hregistered, SignalSet.contains_insert, isPending]
      simp only [eq_comm]
    rw [List.foldl_cons, ih ((registered_send m s).trans hregistered), hfirst, Bool.or_assoc,
      ← Bool.decide_or]
    simp only [List.mem_cons]

end Mailbox

end BeaconGateway

import Mathlib.Data.List.Basic
import Mathlib.Tactic.SplitIfs

/-!
# Lists

Facts about lists of anything, and about the extremes of lists of words, which the theory of the
gateway needs and the library does not have. They are kept here, apart from the modules that use
them, because none of them says anything about a gateway: the answer to a query is a beginning of a
list, the order of the slots is a list without repetition, the news of a link come in turn, and a
window of free memory has a least sample and a largest one.

## Main definitions

* `alternating` — two things in turn.

## Main results

* `takeWhile_eq_filter` — a beginning is all there is, if what is wanted stands in front;
* `eraseDups_filter` — repetitions may be erased before or after a choice;
* `split_concat` — where an element of a list with one more at its end stands;
* `foldl_max_lt_iff` — what it means that the largest word of a list is under a limit.
-/

namespace BeaconGateway

variable {α : Type}

/-! ### Beginnings and choices -/

/-- If nothing is to be had behind what is not, the beginning is all there is. -/
theorem takeWhile_eq_filter {p : α → Bool} {xs : List α}
    (hdown : xs.Pairwise fun x y ↦ p y = true → p x = true) : xs.takeWhile p = xs.filter p := by
  induction xs with
  | nil => rfl
  | cons x rest ih =>
    obtain ⟨hfirst, hdown⟩ := List.pairwise_cons.1 hdown
    by_cases hx : p x = true
    · rw [List.takeWhile_cons_of_pos hx, List.filter_cons_of_pos hx, ih hdown]
    · have hrest : rest.filter p = [] := List.filter_eq_nil_iff.2 fun y hy ↦ mt (hfirst y hy) hx
      rw [List.takeWhile_cons_of_neg hx, List.filter_cons_of_neg hx, hrest]

/-- Repetitions may be erased before or after a choice. -/
theorem eraseDups_filter [BEq α] [LawfulBEq α] (p : α → Bool) (xs : List α) :
    (xs.filter p).eraseDups = xs.eraseDups.filter p := by
  match xs with
  | [] => rfl
  | x :: xs =>
    have hlength : (xs.filter fun y ↦ !y == x).length < xs.length + 1 :=
      Nat.lt_succ_of_le (List.length_filter_le _ xs)
    have ih := eraseDups_filter p (xs.filter fun y ↦ !y == x)
    -- `eraseDups` goes on with the list without `x`, so the induction is on the length
    rw [List.eraseDups_cons, List.filter_cons, List.filter_cons, ← ih]
    by_cases hx : p x = true
    · rw [if_pos hx, if_pos hx, List.eraseDups_cons, List.filter_comm]
    · rw [if_neg hx, if_neg hx, List.filter_filter]
      congr 1
      refine List.filter_congr fun y _ ↦ ?_
      by_cases hy : y = x
      · subst hy
        simp [hx]
      · simp [hy]
termination_by xs.length

/-- Two things in turn, so many in all. -/
def alternating (first second : α) : Nat → List α
  | 0 => []
  | n + 1 => first :: alternating second first n

/-! ### The end of a list -/

/-- An element of a list with one more at its end is this last one, or was there before. -/
theorem split_concat {xs before since : List α} {x last : α}
    (hsplit : xs ++ [last] = before ++ x :: since) :
    (since = [] ∧ xs = before ∧ last = x) ∨
      ∃ earlier, since = earlier ++ [last] ∧ xs = before ++ x :: earlier := by
  obtain rfl | ⟨earlier, other, rfl⟩ := since.eq_nil_or_concat'
  · obtain ⟨rfl, hlast⟩ := List.append_inj' hsplit rfl
    exact .inl ⟨rfl, rfl, List.singleton_inj.1 hlast⟩
  · rw [← List.cons_append, ← List.append_assoc] at hsplit
    obtain ⟨rfl, hlast⟩ := List.append_inj' hsplit rfl
    obtain rfl := List.singleton_inj.1 hlast
    exact .inr ⟨earlier, rfl, rfl⟩

/-! ### Extremes of words -/

theorem min_eq_ite (a b : UInt32) : Min.min a b = if b < a then b else a := by
  show (if a ≤ b then a else b) = _
  split_ifs with hle hlt hlt
  · exact absurd hlt (UInt32.not_lt.2 hle)
  · rfl
  · rfl
  · exact absurd (UInt32.not_lt.1 hlt) hle

theorem max_eq_ite (a b : UInt32) : Max.max a b = if a < b then b else a := by
  show (if a ≤ b then b else a) = _
  split_ifs with hle hlt hlt
  · rfl
  · exact UInt32.le_antisymm (UInt32.not_lt.1 hlt) hle
  · exact absurd (UInt32.le_of_lt hlt) hle
  · rfl

/-- The largest word of a list is under a limit if each word is, and the one begun with. -/
theorem foldl_max_lt_iff (top limit : UInt32) (words : List UInt32) :
    words.foldl Max.max top < limit ↔ top < limit ∧ ∀ word ∈ words, word < limit := by
  induction words generalizing top with
  | nil => simp
  | cons first rest ih =>
    have hboth : Max.max top first < limit ↔ top < limit ∧ first < limit := by
      rw [max_eq_ite]
      split_ifs with hlt
      · exact ⟨fun hfirst ↦ ⟨UInt32.lt_trans hlt hfirst, hfirst⟩, And.right⟩
      · exact ⟨fun htop ↦ ⟨htop, UInt32.lt_of_le_of_lt (UInt32.not_lt.1 hlt) htop⟩, And.left⟩
    rw [List.foldl_cons, ih, hboth, List.forall_mem_cons, and_assoc]

end BeaconGateway

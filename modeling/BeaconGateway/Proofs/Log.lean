import BeaconGateway.Proofs.Lists
import Mathlib.Data.List.Induction

/-!
# Logs

A log grows at its end. What is said of it looks back from there: how each entry follows from those
before it, and which entries still count because no later one ended them.

Both are used of several logs: of the calls and signals of a timer, of the traffic of a mailbox, and
of what a client posts. What is said of a run there is that its log is good in one of these senses,
and a step is shown to keep it by the law for one more entry.

## Main definitions

* `Log.Each` — each entry follows from those before it;
* `Log.Lasts` — no entry after this one ends it.

## Main results

* `Log.each_concat`, `Log.lasts_concat` — what one more entry makes of both.
-/

namespace BeaconGateway

namespace Log

variable {α : Type} {P : List α → α → Prop} {ends ends' : α → Bool} {log before since : List α}
  {entry entry' last : α}

/-! ### Each entry -/

/-- **Each entry** follows from those before it. -/
def Each (P : List α → α → Prop) (log : List α) : Prop :=
  ∀ before entry since, log = before ++ entry :: since → P before entry

theorem each_nil : Each P [] := by
  intro before entry since hsplit
  exact absurd hsplit (by simp)

theorem each_concat : Each P (log ++ [last]) ↔ Each P log ∧ P log last := by
  constructor
  · intro heach
    refine ⟨fun before entry since hsplit ↦ ?_, heach log last [] rfl⟩
    exact heach before entry (since ++ [last]) (by simp [hsplit])
  · rintro ⟨heach, hfollows⟩ before entry since hsplit
    obtain ⟨-, rfl, rfl⟩ | ⟨earlier, -, hsplit⟩ := split_concat hsplit
    · exact hfollows
    · exact heach before entry earlier hsplit

/-! ### Entries that last -/

/-- **An entry lasts**: it stands in the log, and no later one ends it. -/
def Lasts (ends : α → Bool) (log : List α) (entry : α) : Prop :=
  ∃ earlier later, log = earlier ++ entry :: later ∧ ∀ x ∈ later, ends x = false

theorem not_lasts_nil : ¬ Lasts ends [] entry := by
  rintro ⟨earlier, later, hsplit, -⟩
  exact absurd hsplit (by simp)

/-- **After one more entry** this one lasts, and what it does not end. -/
theorem lasts_concat :
    Lasts ends (log ++ [last]) entry ↔ entry = last ∨ ends last = false ∧ Lasts ends log entry := by
  constructor
  · rintro ⟨earlier, later, hsplit, hnone⟩
    obtain ⟨-, -, rfl⟩ | ⟨later, rfl, rfl⟩ := split_concat hsplit
    · exact .inl rfl
    · rw [List.forall_mem_append, List.forall_mem_singleton] at hnone
      exact .inr ⟨hnone.2, earlier, later, rfl, hnone.1⟩
  · rintro (rfl | ⟨hstays, earlier, later, rfl, hnone⟩)
    · exact ⟨log, [], rfl, by simp⟩
    · refine ⟨earlier, later ++ [last], by simp, ?_⟩
      rw [List.forall_mem_append, List.forall_mem_singleton]
      exact ⟨hnone, hstays⟩

theorem Lasts.mono (hlasts : Lasts ends log entry)
    (hfewer : ∀ x, ends x = false → ends' x = false) : Lasts ends' log entry := by
  obtain ⟨earlier, later, hsplit, hnone⟩ := hlasts
  exact ⟨earlier, later, hsplit, fun x hmem ↦ hfewer x (hnone x hmem)⟩

theorem Lasts.mem (hlasts : Lasts ends log entry) : entry ∈ log := by
  obtain ⟨earlier, later, rfl, -⟩ := hlasts
  simp

/-- What lasts after an entry that ends it came later. -/
theorem Lasts.mem_since (hlasts : Lasts ends (before ++ last :: since) entry)
    (hended : ends last = true) (hother : entry ≠ last) : entry ∈ since := by
  induction since using List.reverseRecOn with
  | nil =>
    obtain hsame | ⟨hstays, -⟩ := lasts_concat.1 hlasts
    · exact absurd hsame hother
    · exact absurd (hended.symm.trans hstays) (by simp)
  | append_singleton since x ih =>
    rw [← List.cons_append, ← List.append_assoc] at hlasts
    obtain rfl | ⟨-, hlasts⟩ := lasts_concat.1 hlasts
    · simp
    · exact List.mem_append_left _ (ih hlasts)

/-- Of the entries that end each other only one lasts. -/
theorem Lasts.unique (hlasts : Lasts ends log entry) (hlasts' : Lasts ends log entry')
    (hended : ends entry = true) (hended' : ends entry' = true) : entry = entry' := by
  induction log using List.reverseRecOn with
  | nil => exact absurd hlasts not_lasts_nil
  | append_singleton log last ih =>
    obtain rfl | ⟨hstays, hbefore⟩ := lasts_concat.1 hlasts
    · obtain rfl | ⟨hstays', -⟩ := lasts_concat.1 hlasts'
      · rfl
      · exact absurd (hended.symm.trans hstays') (by simp)
    · obtain rfl | ⟨-, hbefore'⟩ := lasts_concat.1 hlasts'
      · exact absurd (hended'.symm.trans hstays) (by simp)
      · exact ih hbefore hbefore'

/-- **An entry lasts, or the first of those that end it comes later.** -/
theorem lasts_or_ended (ends : α → Bool) (hsplit : log = before ++ entry :: since) :
    Lasts ends log entry ∨
      ∃ between x later, since = between ++ x :: later ∧ ends x = true ∧
        ∀ y ∈ between, ends y = false := by
  cases hfirst : since.find? ends with
  | none => exact .inl ⟨before, since, hsplit, by simpa using hfirst⟩
  | some x =>
    obtain ⟨hended, between, later, rfl, hnone⟩ := List.find?_eq_some_iff_append.1 hfirst
    exact .inr ⟨between, x, later, rfl, hended, by simpa using hnone⟩

end Log

end BeaconGateway

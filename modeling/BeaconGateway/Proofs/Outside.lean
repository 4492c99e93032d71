import BeaconGateway.Outside
import Mathlib.Logic.Relation

/-!
# What is asked of the outside

A task changes the outside only by asking. If all that it asks is of one kind, then the outside that
it leaves behind is reached from the one that it found by questions of that kind alone. From this
follows whatever such questions cannot change, and what a record of them can hold.

What a task asks is seen by giving it an outside that also keeps a record. Such an outside lies over
the plain one: it gives the same answers, and what it carries beside them is not seen by the task.
So a task does the same over both, and the record is that of its own run. Each task proves this for
its own steps; that an outside with a record lies over the one without is proved here once, for all
of them.

## Main definitions

* `Ask.Reaches` — one outside is reached from another by questions of a kind;
* `Ask.LiesOver` — an outside that carries more than another, and answers the same;
* `Task` — what stands over an outside, with `Task.map`, `Task.asks` and `Task.recording`.

## Main results

* `Ask.Reaches.preserves` — what such questions keep is kept;
* `Ask.Reaches.record` — the record of such questions holds no others;
* `Ask.recorded_liesOver` — an outside with a record lies over the one without;
* `Task.map_asks` — a task asks the same over an outside that carries more.
-/

namespace BeaconGateway

namespace Ask

variable {κ α ω ω' : Type} {ask : Ask κ α ω} {asked asked' : κ → Prop} {o o' o'' : ω}

/-! ### Questions of a kind -/

/-- One outside is reached from another by questions of a kind. -/
def Reaches (ask : Ask κ α ω) (asked : κ → Prop) : ω → ω → Prop :=
  Relation.ReflTransGen fun o o' ↦ ∃ question, asked question ∧ (ask question o).2 = o'

namespace Reaches

theorem refl (o : ω) : ask.Reaches asked o o :=
  Relation.ReflTransGen.refl

theorem trans (hfirst : ask.Reaches asked o o') (hsecond : ask.Reaches asked o' o'') :
    ask.Reaches asked o o'' :=
  Relation.ReflTransGen.trans hfirst hsecond

theorem single {question : κ} (hkind : asked question) (o : ω) :
    ask.Reaches asked o (ask question o).2 :=
  Relation.ReflTransGen.single ⟨question, hkind, rfl⟩

theorem mono (hwider : ∀ question, asked question → asked' question)
    (hreaches : ask.Reaches asked o o') : ask.Reaches asked' o o' :=
  Relation.ReflTransGen.mono
    (fun _ _ ⟨question, hkind, hanswer⟩ ↦ ⟨question, hwider question hkind, hanswer⟩) _ _ hreaches

/-- **What questions of a kind keep is kept** by any number of them. -/
theorem preserves {P : ω → Prop} (hreaches : ask.Reaches asked o o')
    (hkeeps : ∀ question o, asked question → P o → P (ask question o).2) (hstart : P o) : P o' := by
  induction hreaches with
  | refl => exact hstart
  | tail _ hlast ih =>
    obtain ⟨question, hkind, rfl⟩ := hlast
    exact hkeeps question _ hkind ih

/-- **The record of questions of a kind holds no others**, beside what it held before. -/
theorem record {o o' : ω × List (κ × α)} (hreaches : ask.recorded.Reaches asked o o') :
    ∀ entry ∈ o'.2, entry ∈ o.2 ∨ asked entry.1 := by
  apply hreaches.preserves (P := fun p ↦ ∀ entry ∈ p.2, entry ∈ o.2 ∨ asked entry.1)
  · intro question p hkind hheld entry hmem
    obtain hmem | rfl : entry ∈ p.2 ∨ entry = (question, (ask question p.1).1) := by
      simpa [recorded] using hmem
    · exact hheld entry hmem
    · exact .inr hkind
  · exact fun entry hmem ↦ .inl hmem

end Reaches

/-! ### Outsides that carry more -/

/-- **An outside carries more than another** and answers the same, where `f` forgets what it
carries: the answers agree, and so does what they leave behind. -/
def LiesOver (ask' : Ask κ α ω') (ask : Ask κ α ω) (f : ω' → ω) : Prop :=
  ∀ question o, ((ask' question o).1, f (ask' question o).2) = ask question (f o)

/-- An outside with a record lies over the one without. -/
theorem recorded_liesOver (ask : Ask κ α ω) : ask.recorded.LiesOver ask Prod.fst :=
  fun _ _ ↦ rfl

end Ask

/-! ### Tasks -/

/-- A task stands over an outside, and could stand over another one. -/
class Task (S : Type → Type) where
  /-- The outside of a task. -/
  outside {ω : Type} : S ω → ω
  /-- The same task over another outside. -/
  onto {ω ω' : Type} : S ω → ω' → S ω'
  /-- It stands over the outside that it was put onto. -/
  outside_onto {ω ω' : Type} (s : S ω) (o : ω') : outside (onto s o) = o
  /-- It does not remember which one it stood over before. -/
  onto_onto {ω ω' ω'' : Type} (s : S ω) (o : ω') (o' : ω'') : onto (onto s o) o' = onto s o'

namespace Task

variable {S : Type → Type} [Task S] {κ α ω ω' : Type} {f : ω' → ω} {ask : Ask κ α ω}
  {ask' : Ask κ α ω'}

/-- The same task, seen over a plainer outside. -/
def map (f : ω' → ω) (s : S ω') : S ω :=
  onto s (f (outside s))

/-- A task asks a question of its outside. -/
def asks (ask : Ask κ α ω) (question : κ) (s : S ω) : α × S ω :=
  let (answer, o) := ask question (outside s)
  (answer, onto s o)

/-- A task with an empty record beside its outside. -/
def recording (s : S ω) : S (ω × List (κ × α)) :=
  onto s (outside s, [])

/-- **A task asks the same** over an outside that carries more. -/
theorem map_asks (hlies : ask'.LiesOver ask f) (question : κ) (s : S ω') :
    ((asks ask' question s).1, map f (asks ask' question s).2) = asks ask question (map f s) := by
  have hanswer := hlies question (outside s)
  simp only [asks, map, outside_onto, onto_onto, ← hanswer]

/-- A choice between two tasks over an outside that carries more is the choice over the plainer one,
if each of the two is. -/
theorem map_ite {p : Prop} [Decidable p] {a b : S ω'} {a' b' : S ω} (hyes : map f a = a')
    (hno : map f b = b') : map f (if p then a else b) = if p then a' else b' := by
  rw [apply_ite (map f), hyes, hno]

end Task

end BeaconGateway

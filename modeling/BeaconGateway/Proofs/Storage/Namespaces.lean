import BeaconGateway.Proofs.Storage
import Mathlib.Data.List.Induction
import Mathlib.Data.Set.Pairwise.Basic
import Mathlib.Tactic.SplitIfs

/-!
# Namespaces in the store

A key belongs to a namespace, and callers take the pair of both for one place. The store knows only
one name for the pair, with `::` between its parts, and it does not mark where the key begins. So
two pairs have one name if the separator of the one is found inside a part of the other: the
namespace `a` with the key `b::c`, and the namespace `a::b` with the key `c`. Such pairs clash, and
what is written to one place is read from the other.

Nothing else is shared. Over pairs of which no two clash the store is a map from pairs to bytes: a
place holds what was last written to it, unless it was removed since, and requests for one place
leave the others.

## Main results

* `Storage.name_eq_name_iff` — when two pairs have one name;
* `Storage.get?_after` — what the store holds after any requests;
* `Storage.answers_by_pair_iff` — over which pairs the store is a map;
* `Storage.read_through_clash` — bytes that are read where they were not written.
-/

namespace BeaconGateway.Storage

/-! ### Pairs under one name -/

/-- **Two pairs clash** if the separator of the first is found inside the namespace of the second,
and that of the second inside the key of the first; or if the two separators overlap. -/
def Clashes (p q : String × String) : Prop :=
  (∃ middle, q.1 = p.1 ++ "::" ++ middle ∧ p.2 = middle ++ "::" ++ q.2) ∨
    (q.1 = p.1 ++ ":" ∧ p.2 = ":" ++ q.2)

theorem name_eq_of_clashes {p q : String × String} (hclashes : Clashes p q) :
    name p.1 p.2 = name q.1 q.2 := by
  rw [name, name]
  obtain ⟨middle, hspace, hkey⟩ | ⟨hspace, hkey⟩ := hclashes
  · rw [hspace, hkey]
    simp only [String.append_assoc]
  · rw [hspace, hkey, String.append_assoc, String.append_assoc, String.append_assoc]
    rfl

/-- The part by which the second namespace is longer says how the pairs clash. -/
theorem eq_or_clashes_of_shift {p q : String × String} {shift : List Char}
    (hspace : q.1.toList = p.1.toList ++ shift)
    (hkey : ':' :: ':' :: p.2.toList = shift ++ ':' :: ':' :: q.2.toList) :
    p = q ∨ Clashes p q := by
  obtain _ | ⟨colon, _ | ⟨colon', middle⟩⟩ := shift
  · -- the separators stand at one place
    simp only [List.nil_append, List.cons.injEq, true_and] at hkey
    rw [List.append_nil] at hspace
    exact .inl (Prod.ext (String.toList_inj.1 hspace.symm) (String.toList_inj.1 hkey))
  · -- they overlap
    simp only [List.singleton_append, List.cons.injEq] at hkey
    obtain ⟨rfl, -, hkey⟩ := hkey
    refine .inr (.inr ⟨?_, ?_⟩)
    · exact String.toList_inj.1 (by simpa using hspace)
    · exact String.toList_inj.1 (by simpa using hkey)
  · -- the second stands behind the first
    simp only [List.cons_append, List.cons.injEq] at hkey
    obtain ⟨rfl, rfl, hkey⟩ := hkey
    refine .inr (.inl ⟨.ofList middle, ?_, ?_⟩)
    · exact String.toList_inj.1 (by simpa using hspace)
    · exact String.toList_inj.1 (by simpa using hkey)

/-- **Two pairs have one name** exactly if they are the same or clash. -/
theorem name_eq_name_iff (p q : String × String) :
    name p.1 p.2 = name q.1 q.2 ↔ p = q ∨ Clashes p q ∨ Clashes q p := by
  constructor
  · intro hsame
    have hspelled : p.1.toList ++ ':' :: ':' :: p.2.toList =
        q.1.toList ++ ':' :: ':' :: q.2.toList := by
      simpa [name] using congrArg String.toList hsame
    obtain ⟨shift, hspace, hkey⟩ | ⟨shift, hspace, hkey⟩ := List.append_eq_append_iff.1 hspelled
    · exact (eq_or_clashes_of_shift hspace hkey).imp id .inl
    · exact (eq_or_clashes_of_shift hspace hkey).imp Eq.symm .inr
  · rintro (rfl | hclashes | hclashes)
    · rfl
    · exact name_eq_of_clashes hclashes
    · exact (name_eq_of_clashes hclashes).symm

/-! ### What requests leave at a place -/

/-- The place of the configuration. -/
def configPlace : String × String :=
  (configSpace, configKey)

/-- The place that a request is about. -/
def Request.place : Request → String × String
  | .save _ | .load | .erase => configPlace
  | .write space key _ | .delete space key | .read space key _ | .contains space key => (space, key)

/-- What a request leaves at its place, if it leaves anything else than what was there. -/
def Request.leaves? : Request → Option (Option (List UInt8))
  | .save c => if c.violation? = none then some (some c.toBlob) else none
  | .write _ _ bytes => some (some bytes)
  | .delete _ _ | .erase => some none
  | .load | .read _ _ _ | .contains _ _ => none

/-- **What was last left** by those of some requests that are about a place. -/
def lastLeft (here : String × String → Bool) (requests : List Request) : Option (List UInt8) :=
  ((requests.reverse.filter fun request ↦ here request.place).findSome? Request.leaves?).getD none

theorem lastLeft_concat (here : String × String → Bool) (requests : List Request)
    (request : Request) :
    lastLeft here (requests ++ [request]) =
      if here request.place then request.leaves?.getD (lastLeft here requests)
      else lastLeft here requests := by
  rw [lastLeft, List.reverse_append, List.reverse_singleton, List.singleton_append,
    List.filter_cons]
  split_ifs
  · rw [List.findSome?_cons]
    cases request.leaves? <;> rfl
  · rfl

/-- What was last left depends on the places that were asked about. -/
theorem lastLeft_congr {here here' : String × String → Bool} {requests : List Request}
    (hsame : ∀ request ∈ requests, here request.place = here' request.place) :
    lastLeft here requests = lastLeft here' requests := by
  rw [lastLeft, lastLeft,
    List.filter_congr fun request hmem ↦ hsame request (List.mem_reverse.1 hmem)]

/-- A request leaves something under the name of its place, and nothing elsewhere. -/
theorem get?_serve (s : Storage) (request : Request) (space key : String) :
    (s.serve request).2.get? space key =
      if name request.place.1 request.place.2 = name space key then
        request.leaves?.getD (s.get? space key)
      else s.get? space key := by
  cases request with
  | save c =>
    rw [serve]
    cases hchecked : c.violation? with
    | some violation =>
      have hinvalid : c.validate = .error (.validationFailed violation.message) := by
        rw [Config.validate, hchecked]
      rw [saveConfig_of_invalid hinvalid]
      simp [Request.leaves?, hchecked]
    | none =>
      have hvalid : c.validate = .ok () := Config.validate_eq_ok_iff.2 hchecked
      rw [saveConfig_of_valid hvalid, get?_write]
      simp [Request.leaves?, hchecked, Request.place, configPlace, eq_comm]
  | erase =>
    rw [serve, eraseConfig, get?_delete]
    simp [Request.leaves?, Request.place, configPlace, eq_comm]
  | write space' key' bytes =>
    rw [serve, get?_write]
    simp [Request.leaves?, Request.place, eq_comm]
  | delete space' key' =>
    rw [serve, get?_delete]
    simp [Request.leaves?, Request.place, eq_comm]
  | load | read | contains => exact (ite_self _).symm

/-- **What the store holds after any requests**: under each name what was last left under it. -/
theorem get?_after (requests : List Request) (space key : String) :
    (empty.after requests).get? space key =
      lastLeft (fun place ↦ decide (name place.1 place.2 = name space key)) requests := by
  induction requests using List.reverseRecOn with
  | nil => rfl
  | append_singleton requests request ih =>
    have hlast : empty.after (requests ++ [request]) =
        ((empty.after requests).serve request).2 := List.foldl_concat _ _ _ _
    rw [hlast, get?_serve, lastLeft_concat, ih]
    simp only [decide_eq_true_eq]

/-! ### Where the store is a map -/

/-- What is read of a place where these bytes stand, or none. -/
def readOf (held : Option (List UInt8)) (room : Nat) : Except StorageError (List UInt8) :=
  held.elim (.error .notFound) fun bytes ↦ .ok (bytes.take room)

theorem read_eq (s : Storage) (space key : String) (room : Nat) :
    s.read space key room = readOf (s.get? space key) room := by
  rw [read]
  cases s.get? space key <;> rfl

/-- **Over which pairs the store is a map**: exactly over those of which no two clash. There a place
is read as the first bytes of what was last written to this very pair, if it was not removed since,
and is not found otherwise, whatever was asked of other pairs. -/
theorem answers_by_pair_iff (pairs : Set (String × String)) :
    (∀ requests : List Request, (∀ request ∈ requests, request.place ∈ pairs) →
      ∀ p ∈ pairs, ∀ room,
        let held := lastLeft (fun place ↦ decide (place = p)) requests
        (empty.after requests).read p.1 p.2 room = readOf held room ∧
          (empty.after requests).contains p.1 p.2 = held.isSome) ↔
      pairs.Pairwise fun p q ↦ ¬ Clashes p q := by
  constructor
  · intro hmap p hinside q hinside' hother hclashes
    obtain ⟨-, hfound⟩ :=
      hmap [.write q.1 q.2 []] (by simpa [Request.place] using hinside') p hinside 0
    have hsame : name p.1 p.2 = name q.1 q.2 := name_eq_of_clashes hclashes
    have hnothing : lastLeft (fun place ↦ decide (place = p)) [.write q.1 q.2 []] = none := by
      simp [lastLeft, Request.place, Ne.symm hother]
    rw [hnothing, contains, get?_after, hsame] at hfound
    exact absurd hfound (by simp [lastLeft, Request.place, Request.leaves?])
  · intro hapart requests hinside p hmem room held
    have hunique : (empty.after requests).get? p.1 p.2 = held := by
      rw [get?_after]
      refine lastLeft_congr fun request hasked ↦ decide_eq_decide.2 ?_
      have hwithin := hinside request hasked
      rw [name_eq_name_iff]
      refine ⟨fun hsame ↦ by_contra fun hother ↦ ?_, .inl⟩
      exact hsame.elim hother fun hclash ↦
        hclash.elim (hapart hwithin hmem hother) (hapart hmem hwithin (Ne.symm hother))
    rw [read_eq, contains, hunique]
    exact ⟨rfl, rfl⟩

/-- **Bytes that are read where they were not written**: a key that begins in the middle of a name.
-/
theorem read_through_clash :
    let requests : List Request := [.write "a" "b::c" [1]]
    (empty.after requests).read "a::b" "c" 1 = .ok [1] ∧
      (empty.after requests).contains "a::b" "c" = true ∧
      lastLeft (fun place ↦ decide (place = ("a::b", "c"))) requests = none ∧
      ∀ text ∈ ["a", "b::c", "a::b", "c"], text.utf8ByteSize ≤ 15 :=
  ⟨rfl, rfl, by decide, by decide⟩

end BeaconGateway.Storage

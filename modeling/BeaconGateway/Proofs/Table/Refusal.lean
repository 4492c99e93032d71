import BeaconGateway.Proofs.Lists
import BeaconGateway.Proofs.Table.Requests

/-!
# When a put is refused

A put looks at one slot only, the last one by recency, and is refused if that slot waits. That this
is so exactly if *every* slot waits is the shape of a `Layout`: the pending slots come before all
others in the order of recency, so the last slot is pending only if there are no others.

The order of recency is read off a run as well: `touches` lists the slots into which the run has put
reports, and the slots that hold a report are these, the one touched last first
(`Holds.after_held`).

## Main results

* `ReportTable.Holds.exists_put_eq_ok` — no put is refused while there is room for the devices whose
  reports wait;
* `ReportTable.refused_iff_all_pending` — after every run the pending slots are those that were
  touched last, and a put is refused if and only if its device is not known and no slot is left.
-/

namespace BeaconGateway

variable {n : Nat}

namespace ReportTable

variable {t : ReportTable n} {L : Layout n} {r : Report}

/-- A device is known if a slot in use holds its report. -/
def Tracks (t : ReportTable n) (a : Address) : Prop :=
  ∃ slot, t.index.contains slot = true ∧ t.addressAt slot = a

/-- The slot into which a request has put a report, if it has. -/
def touched (t : ReportTable n) : TableRequest → Option (Fin n)
  | .put r =>
    match (t.put r).1 with
    | .ok _ => (t.put r).2.index.find? r.address
    | .error _ => none
  | _ => none

/-- The slots into which a run has put reports, in order. -/
def touches (t : ReportTable n) : List TableRequest → List (Fin n)
  | [] => []
  | request :: rest => (t.touched request).toList ++ (t.serve request).2.touches rest

namespace Holds

theorem tracks_iff (h : t.Holds L) {a : Address} :
    t.Tracks a ↔ ∃ slot ∈ L.held, t.addressAt slot = a := by
  simp only [Tracks, h.contains_iff]

/-! ### The order of recency -/

/-- **One request** keeps the slots in use in the order in which they were touched last. -/
theorem serve_held (h : t.Holds L) {slots : List (Fin n)} (hheld : L.held = slots.eraseDups)
    (request : TableRequest) :
    ∃ L', (t.serve request).2.Holds L' ∧
      L'.held = ((t.touched request).toList ++ slots).eraseDups := by
  cases request with
  | put r =>
    show ∃ L', (t.put r).2.Holds L' ∧ L'.held = ((t.touched (.put r)).toList ++ slots).eraseDups
    rcases h.put_touches r with ⟨outcome, slot, hok, h', hrecords, -⟩ | hrefused
    · have hself : (t.put r).2.addressAt slot = r.address := by
        rw [addressAt, hrecords, Slots.get_put_self]
      have hheld' := Layout.held_touch h.nodup_order slot
      have hfind : (t.put r).2.index.find? r.address = some slot :=
        h'.find?_eq_some_iff.2 ⟨hheld' ▸ List.mem_cons_self, hself⟩
      have htouched : t.touched (.put r) = some slot := by
        rw [touched, hok]
        exact hfind
      refine ⟨_, h', ?_⟩
      rw [htouched, hheld', h.nodup_held.erase_eq_filter, hheld, Option.toList_some,
        List.singleton_append, List.eraseDups_cons, eraseDups_filter]
      rfl
    · rw [touched, hrefused]
      exact ⟨L, h, hheld⟩
  | drain capacity => exact ⟨_, (h.drain capacity).2, hheld⟩
  | history | tracked | pending => exact ⟨L, h, hheld⟩

/-- **A run** keeps the slots in use in the order in which they were touched last. -/
theorem after_held (h : t.Holds L) {slots : List (Fin n)} (hheld : L.held = slots.eraseDups)
    (requests : List TableRequest) :
    ∃ L', (t.after requests).Holds L' ∧
      L'.held = ((t.touches requests).reverse ++ slots).eraseDups := by
  induction requests generalizing t L slots with
  | nil => exact ⟨L, h, hheld⟩
  | cons request rest ih =>
    obtain ⟨L', h', hheld'⟩ := h.serve_held hheld request
    obtain ⟨L'', h'', hheld''⟩ := ih h' hheld'
    refine ⟨L'', h'', ?_⟩
    rw [hheld'', touches, List.reverse_append, List.append_assoc]
    congr 2
    cases t.touched request <;> rfl

/-- The pending slots come first in the order of recency. -/
theorem take_pending (h : t.Holds L) :
    t.recency.toList.take t.pending = L.pending ∧ L.held.take t.pending = L.pending := by
  have hlength : t.pending = L.pending.length := h.pending_eq.trans h.pending.length_eq.symm
  rw [h.recency.toList_eq, hlength, Layout.order, Layout.held, List.append_assoc,
    List.take_left, List.take_left]
  exact ⟨rfl, rfl⟩

/-! ### Refusals -/

/-- Every slot waits if and only if none is settled and none is free. -/
theorem all_pending_iff (h : t.Holds L) :
    (∀ slot, t.queue.contains slot = true) ↔ L.settled = [] ∧ L.free = [] := by
  constructor
  · intro hall
    have hqueue : ∀ slot, slot ∈ L.queue := fun slot ↦ h.queue.contains_iff.1 (hall slot)
    refine ⟨List.eq_nil_iff_forall_not_mem.2 fun slot hslot ↦ ?_,
      List.eq_nil_iff_forall_not_mem.2 fun slot hslot ↦ ?_⟩
    · exact h.not_mem_queue_of_mem_settled hslot (hqueue slot)
    · exact h.not_mem_queue_of_mem_free hslot (hqueue slot)
  · rintro ⟨hsettled, hfree⟩ slot
    have hmem := h.recency.complete slot
    rw [Layout.order, Layout.held, hsettled, hfree, List.append_nil, List.append_nil] at hmem
    exact h.queue.contains_iff.2 (h.mem_queue_iff.2 hmem)

/-- **What a put answers**: a known device is served, and a new one exactly if a slot is left. -/
theorem put_answer (h : t.Holds L) (r : Report) :
    (t.Tracks r.address ∧ (t.put r).1 = .ok .updated) ∨
      (¬t.Tracks r.address ∧ (¬∀ slot, t.queue.contains slot = true) ∧
        ∃ outcome, (t.put r).1 = .ok outcome) ∨
      (¬t.Tracks r.address ∧ (∀ slot, t.queue.contains slot = true) ∧
        (t.put r).1 = .error .full) := by
  obtain ⟨L', hput, -⟩ := h.put r
  rw [h.tracks_iff, h.all_pending_iff]
  generalize t.put r = result at hput
  obtain ⟨outcome, t'⟩ := result
  cases hput with
  | updated slot hslot ha => exact .inl ⟨⟨slot, hslot, ha⟩, rfl⟩
  | inserted slot hnew hslot =>
    refine .inr (.inl ⟨fun ⟨other, hother, ha⟩ ↦ hnew other hother ha, fun hall ↦ ?_, _, rfl⟩)
    rw [hall.2] at hslot
    cases hslot
  | evicted slot hnew hfree hslot =>
    refine .inr (.inl ⟨fun ⟨other, hother, ha⟩ ↦ hnew other hother ha, fun hall ↦ ?_, _, rfl⟩)
    rw [hall.1] at hslot
    cases hslot
  | refused hnew hfree hsettled =>
    exact .inr (.inr ⟨fun ⟨other, hother, ha⟩ ↦ hnew other hother ha, ⟨hsettled, hfree⟩, rfl⟩)

/-- **A put is served while there is room** for the devices whose reports wait. -/
theorem exists_put_eq_ok (h : t.Holds L) {rs : List Report}
    (hlatest : L.queue.map t.records.get = latest rs)
    (hroom : (latest (rs ++ [r])).length ≤ n) : ∃ outcome, (t.put r).1 = .ok outcome := by
  rcases h.put_answer r with ⟨-, hput⟩ | ⟨-, -, hput⟩ | ⟨hnew, hall, -⟩
  · exact ⟨_, hput⟩
  · exact hput
  · -- every slot waits, and the new device would be one more than there are slots
    exfalso
    obtain ⟨hsettled, hfree⟩ := h.all_pending_iff.1 hall
    have hlength : (latest rs).length = n := by
      have horder := h.length_order
      rw [Layout.order, Layout.held, hsettled, hfree, List.append_nil, List.append_nil] at horder
      rw [← hlatest, List.length_map, ← h.pending.length_eq, horder]
    have hunknown : r.address ∉ (latest rs).map Report.address := by
      intro hmem
      rw [← hlatest, List.map_map] at hmem
      obtain ⟨slot, hslot, ha⟩ := List.mem_map.1 hmem
      exact hnew (h.tracks_iff.2 ⟨slot, h.mem_held_of_mem_queue hslot, ha⟩)
    rw [latest_append, renew, if_neg hunknown, List.length_append, hlength,
      List.length_singleton] at hroom
    omega

end Holds

/-- **A put is refused if and only if its device is not known and every slot waits.** The slots that
wait are those that were touched last, as many as there are pending reports. In particular a put
is served if its device is known, or if some slot is free or drained. -/
theorem refused_iff_all_pending (requests : List TableRequest) :
    let t := (new : ReportTable n).after requests
    let recent := ((new : ReportTable n).touches requests).reverse.eraseDups
    recent <+: t.recency.toList ∧
      t.recency.toList.take t.pending = recent.take t.pending ∧
      t.queue.toList.Perm (recent.take t.pending) ∧ t.queue.toList.length = t.pending ∧
      (∀ slot, t.queue.contains slot = true ↔ slot ∈ recent.take t.pending) ∧
      ∀ r : Report,
        ((t.put r).1 = .error .full ↔
          ¬t.Tracks r.address ∧ ∀ slot, t.queue.contains slot = true) ∧
        (t.Tracks r.address → (t.put r).1 = .ok .updated) ∧
        ((∃ slot, t.index.contains slot = false ∨ t.queue.contains slot = false) →
          ∃ outcome, (t.put r).1 = .ok outcome) := by
  intro t recent
  have hnew : (⟨[], [], List.finRange n, []⟩ : Layout n).held = [].eraseDups := rfl
  obtain ⟨L, h, hheld⟩ := holds_new.after_held hnew requests
  have hheld : L.held = recent := hheld.trans (congrArg List.eraseDups (List.append_nil _))
  obtain ⟨horder, hpending⟩ := h.take_pending
  rw [← hheld, horder, hpending, h.recency.toList_eq, h.queue.toList_eq]
  refine ⟨List.prefix_append _ _, rfl, h.pending.symm, h.pending_eq.symm, fun slot ↦ ?_,
    fun r ↦ ?_⟩
  · rw [h.queue.contains_iff, h.mem_queue_iff]
  · rcases h.put_answer r with ⟨hknown, hput⟩ | ⟨hnew, hleft, outcome, hput⟩ | ⟨hnew, hall, hput⟩
    · rw [hput]
      exact ⟨iff_of_false nofun fun hfull ↦ hfull.1 hknown, fun _ ↦ rfl, fun _ ↦ ⟨_, rfl⟩⟩
    · rw [hput]
      exact ⟨iff_of_false nofun fun hfull ↦ hleft hfull.2, fun hknown ↦ absurd hknown hnew,
        fun _ ↦ ⟨outcome, rfl⟩⟩
    · rw [hput]
      refine ⟨iff_of_true rfl ⟨hnew, hall⟩, fun hknown ↦ absurd hknown hnew, fun ⟨slot, hslot⟩ ↦ ?_⟩
      -- a slot that waits is in use, so no slot is free either
      have hqueue : slot ∈ L.queue := h.queue.contains_iff.1 (hall slot)
      have hused : t.index.contains slot = true := h.contains_iff.2 (h.mem_held_of_mem_queue hqueue)
      rw [hused, hall slot] at hslot
      exact absurd hslot (by decide)

end ReportTable

end BeaconGateway

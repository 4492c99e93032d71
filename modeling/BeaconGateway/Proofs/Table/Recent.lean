import BeaconGateway.Proofs.Table.Roster
import Mathlib.Data.List.Induction

/-!
# Which devices a table remembers

A roster is what is left of all the reports that were taken, and nothing but these says what is
left: of each device the last report, the one taken last first (`recent`), cut off at the capacity.
A device is forgotten once as many others have been heard since as there is room for, and when it is
heard again it comes to the front like any other.

That the cut is always in the same place is because a device that is forgotten stands behind all
that are remembered. So a put that brings it back, or brings a new one, moves none of the others but
the last over the edge.

## Main results

* `recent` — the last report of each device, the one taken last first (`mem_recent_iff`);
* `Roster.reports_put` — a put, seen on the reports that were taken.
-/

namespace BeaconGateway

/-- The last report of each device, the one that came last first: a report comes to the front and
takes out the earlier one of its device. -/
def recent (rs : List Report) : List Report :=
  rs.foldl (fun earlier r ↦ r :: earlier.filter fun other ↦ other.address ≠ r.address) []

theorem recent_concat (rs : List Report) (r : Report) :
    recent (rs ++ [r]) = r :: (recent rs).filter fun other ↦ other.address ≠ r.address :=
  List.foldl_concat _ _ _ _

/-- Each device has one report. -/
theorem nodup_recent (rs : List Report) : ((recent rs).map Report.address).Nodup := by
  induction rs using List.reverseRecOn with
  | nil => exact List.nodup_nil
  | append_singleton rs r ih =>
    rw [recent_concat, List.map_cons, List.nodup_cons]
    refine ⟨fun hmem ↦ ?_, ih.sublist (List.filter_sublist.map _)⟩
    obtain ⟨other, hkept, hsame⟩ := List.mem_map.1 hmem
    exact of_decide_eq_true (List.mem_filter.1 hkept).2 hsame

/-- Read from the back, the reports stand in the order in which they were taken. -/
theorem reverse_recent_sublist (rs : List Report) : (recent rs).reverse.Sublist rs := by
  induction rs using List.reverseRecOn with
  | nil => exact List.Sublist.slnil
  | append_singleton rs r ih =>
    rw [recent_concat, List.reverse_cons]
    exact (List.filter_sublist.reverse.trans ih).append (List.Sublist.refl [r])

theorem isLast_concat_iff {rs : List Report} {x r : Report} :
    IsLast (rs ++ [x]) r ↔ r = x ∨ IsLast rs r ∧ r.address ≠ x.address := by
  have hfound (rs : List Report) :
      IsLast rs r ↔ rs.reverse.find? (fun other ↦ other.address = r.address) = some r := by
    rw [find?_reverse_eq_some_iff]
    exact (and_iff_right rfl).symm
  rw [hfound, hfound, List.reverse_concat, List.find?_cons]
  by_cases hsame : x.address = r.address
  · simp [hsame, eq_comm]
  · have hother : r ≠ x := fun h ↦ hsame (congrArg Report.address h.symm)
    simp [hsame, hother, Ne.symm hsame]

/-- **These are the last reports**, and no others. -/
theorem mem_recent_iff {rs : List Report} {r : Report} : r ∈ recent rs ↔ IsLast rs r := by
  induction rs using List.reverseRecOn with
  | nil =>
    refine iff_of_false List.not_mem_nil fun ⟨before, after, hsplit, _⟩ ↦ ?_
    exact List.append_ne_nil_of_right_ne_nil before (List.cons_ne_nil r after) hsplit.symm
  | append_singleton rs x ih =>
    rw [recent_concat, List.mem_cons, List.mem_filter, ih, isLast_concat_iff, decide_eq_true_iff]

/-! ### One device taken out -/

/-- Taking out a device that is not among the first ones leaves these as they are. -/
theorem take_filter_of_not_mem {rs : List Report} {a : Address} {n : Nat}
    (hnew : a ∉ (rs.take n).map Report.address) :
    (rs.filter fun r ↦ r.address ≠ a).take n = rs.take n := by
  induction rs generalizing n with
  | nil => rfl
  | cons r rest ih =>
    cases n with
    | zero => rfl
    | succ n =>
      obtain ⟨hother, hnew⟩ : a ≠ r.address ∧ a ∉ (rest.take n).map Report.address := by
        simpa using hnew
      rw [List.filter_cons_of_pos (by simpa using hother.symm), List.take_succ_cons, ih hnew,
        List.take_succ_cons]

/-- Taking out a device that is among the first ones lets the next one move up. -/
theorem filter_take_of_mem {rs : List Report} {a : Address} {n : Nat}
    (hdistinct : (rs.map Report.address).Nodup)
    (hknown : a ∈ (rs.take (n + 1)).map Report.address) :
    (rs.take (n + 1)).filter (fun r ↦ r.address ≠ a) =
      (rs.filter fun r ↦ r.address ≠ a).take n := by
  induction rs generalizing n with
  | nil => exact absurd hknown List.not_mem_nil
  | cons r rest ih =>
    obtain ⟨hfirst, hdistinct⟩ := List.nodup_cons.1 hdistinct
    rw [List.take_succ_cons]
    by_cases hsame : r.address = a
    · -- the device stands here, and nowhere else
      have hgone (rs : List Report) (hsub : rs.Sublist rest) :
          rs.filter (fun r ↦ r.address ≠ a) = rs := by
        refine List.filter_eq_self.2 fun other hmem ↦ decide_eq_true fun hagain ↦ hfirst ?_
        exact hsame.trans hagain.symm ▸ List.mem_map_of_mem (hsub.subset hmem)
      rw [List.filter_cons_of_neg (by simp [hsame]), List.filter_cons_of_neg (by simp [hsame]),
        hgone _ (List.take_sublist n rest), hgone _ (List.Sublist.refl rest)]
    · rw [List.take_succ_cons, List.map_cons, List.mem_cons] at hknown
      have hknown := hknown.resolve_left (Ne.symm hsame)
      cases n with
      | zero => exact absurd hknown List.not_mem_nil
      | succ n =>
        rw [List.filter_cons_of_pos (by simpa using hsame), ih hdistinct hknown,
          List.filter_cons_of_pos (by simpa using hsame), List.take_succ_cons]

/-! ### One report more -/

/-- A device that is among the first ones is heard again: it moves to the front. -/
theorem take_recent_concat_of_mem {rs : List Report} {r : Report} {capacity : Nat}
    (hknown : r.address ∈ ((recent rs).take capacity).map Report.address) :
    (recent (rs ++ [r])).take capacity =
      r :: ((recent rs).take capacity).filter fun other ↦ other.address ≠ r.address := by
  cases capacity with
  | zero => exact absurd hknown List.not_mem_nil
  | succ n =>
    rw [recent_concat, List.take_succ_cons, filter_take_of_mem (nodup_recent rs) hknown]

/-- A device that is not among the first ones stands behind them, if it stands anywhere. When it is
heard, it comes before them and the last of them is one too many. -/
theorem take_recent_concat_of_not_mem {rs : List Report} {r : Report} {n : Nat}
    (hnew : r.address ∉ ((recent rs).take (n + 1)).map Report.address) :
    (recent (rs ++ [r])).take (n + 1) = r :: (recent rs).take n := by
  have hbehind : r.address ∉ ((recent rs).take n).map Report.address := fun hmem ↦
    hnew (List.map_subset _ (List.take_subset_take_left _ (Nat.le_succ n)) hmem)
  rw [recent_concat, List.take_succ_cons, take_filter_of_not_mem hbehind]

/-! ### Put -/

/-- **A put, seen on the reports that were taken**: the roster remembers the last report of each
device, as far as there is room, and goes on to do so. A report that is refused leaves no trace. -/
theorem Roster.reports_put {capacity : Nat} {m : Roster} {rs : List Report}
    (hremembers : m.reports = (recent rs).take capacity) (r : Report) :
    (m.put capacity r).2.reports =
      (recent (bif (m.put capacity r).1.isOk then rs ++ [r] else rs)).take capacity := by
  rw [put, hremembers]
  split_ifs with hknown hroom
  · exact (take_recent_concat_of_mem hknown).symm
  · show r :: (recent rs).take capacity = (recent (rs ++ [r])).take capacity
    rw [List.length_take] at hroom
    cases capacity with
    | zero => exact absurd hroom (Nat.not_lt_zero _)
    | succ n =>
      have hfew : (recent rs).length ≤ n := by omega
      rw [take_recent_concat_of_not_mem hknown, List.take_of_length_le hfew,
        List.take_of_length_le (hfew.trans (Nat.le_succ n))]
  · cases hlast : ((recent rs).take capacity).getLast? with
    | none => exact hremembers
    | some victim =>
      dsimp only
      split_ifs with hwaits
      · exact hremembers
      · show r :: ((recent rs).take capacity).dropLast = (recent (rs ++ [r])).take capacity
        rw [List.length_take] at hroom
        cases capacity with
        | zero => simp at hlast
        | succ n =>
          have hlength : ((recent rs).take (n + 1)).length = n + 1 := by
            rw [List.length_take]
            omega
          rw [take_recent_concat_of_not_mem hknown, List.dropLast_eq_take, hlength,
            List.take_take, Nat.add_sub_cancel, Nat.min_eq_left (Nat.le_succ n)]

/-! ### The table -/

namespace ReportTable.Holds

variable {n : Nat} {t : ReportTable n} {L : Layout n} {rs : List Report}

/-- **A table remembers the last report of each device**, as far as there is room, and goes on to do
so when it takes or refuses one more. -/
theorem roster_put (hholds : t.Holds L) (hremembers : t.roster.reports = (recent rs).take n)
    (r : Report) :
    (t.put r).2.roster.reports =
      (recent (bif (t.put r).1.isOk then rs ++ [r] else rs)).take n := by
  obtain ⟨hanswer, hroster⟩ := hholds.put_eq_roster r
  rw [hroster, hanswer]
  exact Roster.reports_put hremembers r

/-- A drain forgets no device. -/
theorem roster_drain (hholds : t.Holds L) (capacity : Nat) :
    (t.drain capacity).2.roster.reports = t.roster.reports := by
  rw [(hholds.drain_eq_roster capacity).2]
  rfl

end ReportTable.Holds

end BeaconGateway

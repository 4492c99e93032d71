import BeaconGateway.Report.Basic
import Mathlib.Data.List.Basic
import Mathlib.Data.List.Induction
import Mathlib.Data.List.Nodup

/-!
# The last report of each device

Of a list of reports, the last one of each device, in the order in which the devices come up
(`latest`). One more report takes the place of the one of its device, or comes last (`renew`); that
the two agree is `latest_append`.

What keeps the devices commutes with the choice (`latest_map`). The reports so chosen are of
distinct devices (`nodup_latest`), those of one device are among its reports in their order
(`filter_latest_sublist`), and they are the reports that none of their device come after
(`mem_latest_iff`).
-/

namespace BeaconGateway

/-- Reports of distinct devices, after one more has come: it takes the place of the report of its
device, or comes last. -/
def renew (rs : List Report) (r : Report) : List Report :=
  if r.address ∈ rs.map Report.address then
    rs.map fun other ↦ if other.address = r.address then r else other
  else rs ++ [r]

/-- The last report of each device, in the order of the first ones. -/
def latest (rs : List Report) : List Report :=
  (rs.map Report.address).eraseDups.filterMap fun a ↦ rs.reverse.find? fun r ↦ r.address = a

/-- The last report of a device that has one. -/
theorem exists_find?_reverse {rs : List Report} {a : Address} (ha : a ∈ rs.map Report.address) :
    ∃ r, rs.reverse.find? (fun r ↦ r.address = a) = some r ∧ r.address = a := by
  obtain ⟨first, hfirst, haddress⟩ := List.mem_map.1 ha
  cases hfind : rs.reverse.find? fun r ↦ r.address = a with
  | none =>
    have hnone := List.find?_eq_none.1 hfind first (List.mem_reverse.2 hfirst)
    exact absurd (decide_eq_true haddress) hnone
  | some r =>
    have hlast := List.find?_some hfind
    exact ⟨r, rfl, decide_eq_true_iff.1 hlast⟩

/-- Each device has one report among the last ones. -/
theorem map_address_latest (rs : List Report) :
    (latest rs).map Report.address = (rs.map Report.address).eraseDups := by
  have hfind : ∀ a ∈ (rs.map Report.address).eraseDups,
      (rs.reverse.find? fun r ↦ r.address = a).map Report.address = some a := by
    intro a ha
    obtain ⟨r, hr, haddress⟩ := exists_find?_reverse (List.mem_eraseDups.1 ha)
    rw [hr, Option.map_some, haddress]
  rw [latest, List.map_filterMap, List.filterMap_congr hfind, List.filterMap_some]

theorem mem_map_address_latest {rs : List Report} {a : Address} :
    a ∈ (latest rs).map Report.address ↔ a ∈ rs.map Report.address := by
  rw [map_address_latest, List.mem_eraseDups]

/-- **One more report** takes the place of the one of its device, or comes last. -/
theorem latest_append (rs : List Report) (r : Report) :
    latest (rs ++ [r]) = renew (latest rs) r := by
  -- looked up from the back, the new report hides the others of its device
  have hfind : ∀ a, ((rs ++ [r]).reverse.find? fun other ↦ other.address = a) =
      if r.address = a then some r else rs.reverse.find? fun other ↦ other.address = a := by
    intro a
    rw [List.reverse_append, List.reverse_singleton, List.singleton_append, List.find?_cons]
    by_cases ha : r.address = a
    · rw [if_pos ha, decide_eq_true ha]
    · rw [if_neg ha, decide_eq_false ha]
  rw [latest, List.map_append, List.map_singleton, List.eraseDups_append, renew]
  simp only [hfind, mem_map_address_latest]
  by_cases hknown : r.address ∈ rs.map Report.address
  · have hdevices : [r.address].removeAll (rs.map Report.address) = [] := by
      simpa [List.removeAll] using hknown
    rw [if_pos hknown, hdevices, List.eraseDups_nil, List.append_nil, latest, List.map_filterMap]
    refine List.filterMap_congr fun a ha ↦ ?_
    obtain ⟨last, hlast, haddress⟩ := exists_find?_reverse (List.mem_eraseDups.1 ha)
    rw [hlast, Option.map_some, haddress]
    by_cases heq : r.address = a
    · rw [if_pos heq, if_pos heq.symm]
    · rw [if_neg heq, if_neg (Ne.symm heq)]
  · have hdevices : [r.address].removeAll (rs.map Report.address) = [r.address] := by
      simpa [List.removeAll] using hknown
    rw [if_neg hknown, hdevices, List.filterMap_append]
    congr 1
    · refine List.filterMap_congr fun a ha ↦ if_neg ?_
      rintro rfl
      exact hknown (List.mem_eraseDups.1 ha)
    · simp [List.eraseDups_cons]

/-- What keeps the devices may be done before or after the choice. -/
theorem latest_map {f : Report → Report} (hf : ∀ r, (f r).address = r.address)
    (rs : List Report) : latest (rs.map f) = (latest rs).map f := by
  have haddresses : (rs.map f).map Report.address = rs.map Report.address := by
    rw [List.map_map]
    exact List.map_congr_left fun r _ ↦ hf r
  rw [latest, haddresses, latest, List.map_filterMap]
  refine List.filterMap_congr fun a _ ↦ ?_
  rw [← List.map_reverse, List.find?_map]
  simp only [Function.comp_def, hf]

/-- There are as many latest reports as devices. -/
theorem length_latest (rs : List Report) :
    (latest rs).length = (rs.map Report.address).eraseDups.length := by
  rw [← map_address_latest, List.length_map]

/-! ### Distinct devices -/

theorem mem_of_mem_latest {rs : List Report} {r : Report} (hr : r ∈ latest rs) : r ∈ rs := by
  obtain ⟨a, -, hfind⟩ := List.mem_filterMap.1 hr
  exact List.mem_reverse.1 (List.mem_of_find?_eq_some hfind)

theorem nodup_latest (rs : List Report) : ((latest rs).map Report.address).Nodup := by
  induction rs using List.reverseRecOn with
  | nil => exact List.nodup_nil
  | append_singleton rs r ih =>
    rw [latest_append, renew]
    split
    case isTrue =>
      -- the report that makes room is of the same device
      have hsame : Report.address ∘ (fun other ↦ if other.address = r.address then r else other) =
          Report.address := by
        funext other
        rw [Function.comp_apply]
        split
        case isTrue heq => exact heq.symm
        case isFalse => rfl
      rwa [List.map_map, hsame]
    case isFalse hnew =>
      rw [List.map_append, List.map_singleton, List.nodup_append]
      refine ⟨ih, List.nodup_singleton _, fun a ha b hb ↦ ?_⟩
      rintro rfl
      exact hnew (List.mem_singleton.1 hb ▸ ha)

/-- **Of one device**, the latest reports are among its reports, in their order. -/
theorem filter_latest_sublist (rs : List Report) (a : Address) :
    ((latest rs).filter fun r ↦ r.address = a).Sublist (rs.filter fun r ↦ r.address = a) := by
  have hdistinct : ((latest rs).filter fun r ↦ r.address = a).Pairwise
      fun r other ↦ r.address ≠ other.address :=
    (List.pairwise_map.1 (nodup_latest rs)).sublist List.filter_sublist
  cases hlatest : (latest rs).filter fun r ↦ r.address = a with
  | nil => exact List.nil_sublist _
  | cons r rest =>
    have hmem : ∀ other ∈ r :: rest, other ∈ latest rs ∧ other.address = a := by
      intro other hother
      rw [← hlatest] at hother
      simpa using hother
    have hrest : rest = [] := by
      refine List.eq_nil_iff_forall_not_mem.2 fun other hother ↦ ?_
      rw [hlatest] at hdistinct
      refine List.rel_of_pairwise_cons hdistinct hother ?_
      rw [(hmem r List.mem_cons_self).2, (hmem other (List.mem_cons_of_mem r hother)).2]
    obtain ⟨hr, haddress⟩ := hmem r List.mem_cons_self
    rw [hrest, List.singleton_sublist, List.mem_filter]
    exact ⟨mem_of_mem_latest hr, decide_eq_true haddress⟩

/-! ### Which reports are chosen -/

/-- A report is the last one of its device. -/
def IsLast (rs : List Report) (r : Report) : Prop :=
  ∃ before after, rs = before ++ r :: after ∧ ∀ later ∈ after, later.address ≠ r.address

/-- Looked up from the back, the last report of a device comes first. -/
theorem find?_reverse_eq_some_iff {rs : List Report} {a : Address} {r : Report} :
    rs.reverse.find? (fun r ↦ r.address = a) = some r ↔ r.address = a ∧ IsLast rs r := by
  rw [List.find?_eq_some_iff_append, decide_eq_true_iff]
  refine and_congr_right fun heq ↦ ⟨fun ⟨after, before, hsplit, hafter⟩ ↦ ?_,
    fun ⟨before, after, hsplit, hafter⟩ ↦ ?_⟩
  · refine ⟨before.reverse, after.reverse, ?_, fun later hlater hsame ↦ ?_⟩
    · rw [← List.reverse_reverse rs, hsplit]
      simp
    · have hother := hafter later (List.mem_reverse.1 hlater)
      simp [hsame, heq] at hother
  · refine ⟨after.reverse, before.reverse, ?_, fun later hlater ↦ ?_⟩
    · rw [hsplit]
      simp
    · have hother := hafter later (List.mem_reverse.1 hlater)
      rw [heq] at hother
      simpa using hother

/-- **The latest reports** are the last ones of their devices. -/
theorem mem_latest_iff {rs : List Report} {r : Report} : r ∈ latest rs ↔ IsLast rs r := by
  rw [latest, List.mem_filterMap]
  constructor
  · rintro ⟨a, -, hfind⟩
    exact (find?_reverse_eq_some_iff.1 hfind).2
  · rintro ⟨before, after, rfl, hafter⟩
    refine ⟨r.address, List.mem_eraseDups.2 (by simp), ?_⟩
    exact find?_reverse_eq_some_iff.2 ⟨rfl, before, after, rfl, hafter⟩

/-- The one that comes first is of the device that comes up first. -/
theorem head?_latest_eq_some_iff {first : Report} {rest : List Report} {r : Report} :
    (latest (first :: rest)).head? = some r ↔
      r.address = first.address ∧ IsLast (first :: rest) r := by
  obtain ⟨last, hfind, -⟩ := exists_find?_reverse (List.mem_map_of_mem List.mem_cons_self :
    first.address ∈ (first :: rest).map Report.address)
  have hhead : (latest (first :: rest)).head? =
      (first :: rest).reverse.find? fun r ↦ r.address = first.address := by
    rw [latest, List.map_cons, List.eraseDups_cons, List.filterMap_cons, hfind]
    rfl
  rw [hhead, find?_reverse_eq_some_iff]

end BeaconGateway

import BeaconGateway.Proofs.Lists
import BeaconGateway.Supervisor.HeapMonitor
import Mathlib.Data.List.Induction
import Mathlib.Tactic.SplitIfs

/-!
# Windows of free memory

The samples of free memory are cut into windows of a hundred, one after another. What a monitor
knows after any samples is then said without a monitor: of the window in progress the extremes, and
of the full windows how many of the last ones in a row are low.

The monitor is described by what it has seen (`after`), window by window, and one sample is shown to
take the description of some samples to that of one more. Windows do not overlap, so how many are
low in a row is told from the samples by cutting them, without the monitor's counters.

## Main results

* `HeapMonitor.windows`, `HeapMonitor.lowRun` — the full windows, and the low ones in a row at the
  end;
* `HeapMonitor.verdictAfter` — what the last of some samples leads to;
* `HeapMonitor.sample_after`, `HeapMonitor.sample_after_full` — what one sample makes of a monitor,
  within a window and at its end;
* `HeapMonitor.getElem?_sampleAll_new` — each verdict of a new monitor;
* `HeapMonitor.le_lowRun_windows_iff` — so many low windows in a row are so many low samples.
-/

namespace BeaconGateway.HeapMonitor

/-! ### Windows -/

/-- The full windows of some samples, in order. -/
def windows (samples : List UInt32) : List (List UInt32) :=
  (List.range (samples.length / windowSize)).map fun k ↦
    (samples.drop (windowSize * k)).take windowSize

/-- The least sample of a window. -/
def least (window : List UInt32) : UInt32 :=
  window.min?.getD 0

/-- The largest sample of a window. -/
def largest (window : List UInt32) : UInt32 :=
  window.max?.getD 0

/-- Whether the largest sample of a window stays under a limit. -/
def isLow (limit : UInt32) (window : List UInt32) : Bool :=
  largest window < limit

/-- **The low windows in a row** at the end of some windows. -/
def lowRun (limit : UInt32) (windows : List (List UInt32)) : Nat :=
  (windows.reverse.takeWhile (isLow limit)).length

/-- What the last of some full windows leads to. -/
def judgement (limit : UInt32) (windows : List (List UInt32)) : HeapVerdict :=
  let window := windows.getLast?.getD []
  let low := lowRun limit windows
  if low = 0 then .windowOk (least window) (largest window)
  else if low ≤ 2 then .windowLow (least window) (largest window) (UInt32.ofNat low)
  else .reboot (least window)

/-- **What the last of some samples leads to**: nothing before the hundredth of a window, and then
what its window does. -/
def verdictAfter (limit : UInt32) (samples : List UInt32) : HeapVerdict :=
  if samples.length % windowSize = 0 then judgement limit (windows samples) else .sampling

section Windows

variable {limit : UInt32} {earlier window : List UInt32}

/-- Full windows stay as they are when samples follow. -/
theorem windows_append (hwhole : windowSize ∣ earlier.length) (more : List UInt32) :
    windows (earlier ++ more) = windows earlier ++ windows more := by
  obtain ⟨full, hlength⟩ := hwhole
  have hcount : (earlier ++ more).length / windowSize = full + more.length / windowSize := by
    rw [List.length_append, hlength, Nat.mul_add_div (by decide)]
  have hbefore : earlier.length / windowSize = full := by
    rw [hlength, Nat.mul_div_cancel_left _ (by decide)]
  rw [windows, windows, windows, hcount, hbefore, List.range_add, List.map_append, List.map_map]
  congr 1
  · refine List.map_congr_left fun k hmem ↦ ?_
    have hinside : windowSize * k + windowSize ≤ earlier.length := by
      rw [hlength, ← Nat.mul_succ]
      exact Nat.mul_le_mul_left _ (List.mem_range.1 hmem)
    rw [List.drop_append_of_le_length (by omega), List.take_append_of_le_length]
    rw [List.length_drop]
    omega
  · refine List.map_congr_left fun k _ ↦ ?_
    show ((earlier ++ more).drop (windowSize * (full + k))).take windowSize = _
    rw [Nat.mul_add, ← hlength, ← List.drop_drop, List.drop_left]

/-- A hundred samples more are one window more. -/
theorem windows_append_window (hwhole : windowSize ∣ earlier.length)
    (hfull : window.length = windowSize) :
    windows (earlier ++ window) = windows earlier ++ [window] := by
  have hsingle : windows window = [window] := by
    rw [windows, hfull, Nat.div_self (by decide)]
    simp [← hfull]
  rw [windows_append hwhole, hsingle]

@[simp] theorem length_windows (samples : List UInt32) :
    (windows samples).length = samples.length / windowSize := by
  simp [windows]

theorem lowRun_concat (limit : UInt32) (ws : List (List UInt32)) (window : List UInt32) :
    lowRun limit (ws ++ [window]) = if isLow limit window then lowRun limit ws + 1 else 0 := by
  rw [lowRun, List.reverse_concat, List.takeWhile_cons]
  split_ifs <;> rfl

theorem lowRun_le (limit : UInt32) (ws : List (List UInt32)) : lowRun limit ws ≤ ws.length := by
  rw [← List.length_reverse]
  exact (List.takeWhile_sublist _).length_le

theorem judgement_concat (limit : UInt32) (ws : List (List UInt32)) (window : List UInt32) :
    judgement limit (ws ++ [window]) =
      if isLow limit window then
        if lowRun limit ws + 1 ≤ 2 then
          .windowLow (least window) (largest window) (UInt32.ofNat (lowRun limit ws + 1))
        else .reboot (least window)
      else .windowOk (least window) (largest window) := by
  rw [judgement, lowRun_concat, List.getLast?_concat, Option.getD_some]
  by_cases hlow : isLow limit window = true
  · simp [hlow]
  · simp [hlow]

/-! ### The extremes of a window -/

/-- No sample is over the extreme with which a window begins. -/
theorem foldl_min_eq (hsome : window ≠ []) : window.foldl Min.min 0xFFFFFFFF = least window := by
  obtain ⟨first, rest, rfl⟩ := List.exists_cons_of_ne_nil hsome
  have hbegins : Min.min 0xFFFFFFFF first = first := by
    have hreached : first ≤ 0xFFFFFFFF :=
      UInt32.le_iff_toNat_le.2 (Nat.le_of_lt_succ first.toNat_lt)
    rw [min_eq_ite]
    split_ifs with hlt
    · rfl
    · exact UInt32.le_antisymm (UInt32.not_lt.1 hlt) hreached
  rw [List.foldl_cons, hbegins]
  rfl

/-- No sample is under the extreme with which a window begins. -/
theorem foldl_max_eq (hsome : window ≠ []) : window.foldl Max.max 0 = largest window := by
  obtain ⟨first, rest, rfl⟩ := List.exists_cons_of_ne_nil hsome
  have hbegins : Max.max 0 first = first := by
    rw [max_eq_ite]
    split_ifs with hlt
    · rfl
    · exact UInt32.le_antisymm UInt32.zero_le (UInt32.not_lt.1 hlt)
  rw [List.foldl_cons, hbegins]
  rfl

/-- **A window is low** if each of its samples is under the limit. -/
theorem isLow_iff (hsome : window ≠ []) :
    isLow limit window = true ↔ ∀ free ∈ window, free < limit := by
  obtain ⟨first, hmem⟩ := List.exists_mem_of_ne_nil window hsome
  rw [isLow, decide_eq_true_iff, ← foldl_max_eq hsome, foldl_max_lt_iff]
  refine ⟨And.right, fun hlow ↦ ⟨?_, hlow⟩⟩
  exact UInt32.lt_of_le_of_lt UInt32.zero_le (hlow first hmem)

end Windows

/-! ### What a monitor knows -/

/-- A monitor after some full windows, with a window in progress. -/
def after (limit : UInt32) (earlier part : List UInt32) : HeapMonitor where
  samples := part.length
  min := part.foldl Min.min 0xFFFFFFFF
  max := part.foldl Max.max 0
  lowWindows := UInt32.ofNat (lowRun limit (windows earlier))
  limit := limit

section After

variable {limit free : UInt32} {earlier part samples : List UInt32}

theorem note_after (limit free : UInt32) (earlier part : List UInt32) :
    (after limit earlier part).sample free =
      if part.length + 1 < windowSize then (.sampling, after limit earlier (part ++ [free]))
      else (after limit earlier (part ++ [free])).judge := by
  have hlength : (part ++ [free]).length = part.length + 1 := by simp
  have hleast : (part ++ [free]).foldl Min.min 0xFFFFFFFF =
      if free < (after limit earlier part).min then free else (after limit earlier part).min := by
    rw [List.foldl_concat, min_eq_ite]
    rfl
  have hlargest : (part ++ [free]).foldl Max.max 0 =
      if (after limit earlier part).max < free then free else (after limit earlier part).max := by
    rw [List.foldl_concat, max_eq_ite]
    rfl
  simp only [sample, after, hlength, hleast, hlargest]
  rfl

/-- **Within a window** a sample is only noted. -/
theorem sample_after (hmore : part.length + 1 < windowSize) :
    (after limit earlier part).sample free =
      (.sampling, after limit earlier (part ++ [free])) := by
  rw [note_after, if_pos hmore]

/-- A full window is judged by its extremes, and by the low windows before it. -/
theorem judge_after {window : List UInt32} (hsome : window ≠ [])
    (hfew : lowRun limit (windows earlier) + 1 < UInt32.size) :
    (after limit earlier window).judge =
      (judgement limit (windows earlier ++ [window]),
        .fresh limit (UInt32.ofNat (lowRun limit (windows earlier ++ [window])))) := by
  have hextremes : after limit earlier window = {
      samples := window.length
      min := least window
      max := largest window
      lowWindows := UInt32.ofNat (lowRun limit (windows earlier))
      limit := limit } := by
    rw [← foldl_min_eq hsome, ← foldl_max_eq hsome]
    rfl
  have hnext : UInt32.ofNat (lowRun limit (windows earlier)) + 1 =
      UInt32.ofNat (lowRun limit (windows earlier) + 1) := (UInt32.ofNat_add _ 1).symm
  have hthird : maxLowWindows ≤ UInt32.ofNat (lowRun limit (windows earlier) + 1) ↔
      ¬ lowRun limit (windows earlier) + 1 ≤ 2 := by
    rw [UInt32.le_iff_toNat_le, UInt32.toNat_ofNat_of_lt' hfew, Nat.not_le]
    rfl
  rw [judge, hextremes, judgement_concat, lowRun_concat, hnext]
  by_cases hlow : isLow limit window = true
  · have hunder : ¬ limit ≤ largest window := UInt32.not_le.2 (of_decide_eq_true hlow)
    simp only [hunder, if_false, hlow, if_true, hthird, ite_not]
  · have hreached : limit ≤ largest window :=
    UInt32.not_lt.1 fun hunder ↦ hlow (decide_eq_true hunder)
    simp only [hreached, if_true, hlow]
    rfl

/-- **At the end of a window** it is judged, and a new one begins. -/
theorem sample_after_full (hwhole : windowSize ∣ earlier.length)
    (hlast : part.length + 1 = windowSize)
    (hfew : (earlier ++ (part ++ [free])).length / windowSize < UInt32.size) :
    (after limit earlier part).sample free =
      (judgement limit (windows (earlier ++ (part ++ [free]))),
        after limit (earlier ++ (part ++ [free])) []) := by
  have hfull : (part ++ [free]).length = windowSize := by simp [hlast]
  have hwindows_eq : windows (earlier ++ (part ++ [free])) = windows earlier ++ [part ++ [free]] :=
    windows_append_window hwhole hfull
  have hcount : lowRun limit (windows earlier) + 1 ≤
      (earlier ++ (part ++ [free])).length / windowSize := by
    rw [← length_windows, hwindows_eq, List.length_append]
    exact Nat.succ_le_succ (lowRun_le limit _)
  rw [note_after, if_neg (by omega),
    judge_after (List.concat_ne_nil free part) (Nat.lt_of_le_of_lt hcount hfew), ← hwindows_eq]
  rfl

/-! ### Many samples -/

theorem sampleAll_concat (m : HeapMonitor) (samples : List UInt32) (free : UInt32) :
    (m.sampleAll (samples ++ [free])).2 = ((m.sampleAll samples).2.sample free).2 := by
  induction samples generalizing m with
  | nil => rfl
  | cons first rest ih => exact ih (m.sample first).2

/-- Each verdict is that of a monitor that has seen what came before. -/
theorem getElem?_sampleAll (m : HeapMonitor) (samples : List UInt32) (n : Nat) :
    (m.sampleAll samples).1[n]? =
      samples[n]?.map fun free ↦ ((m.sampleAll (samples.take n)).2.sample free).1 := by
  induction samples generalizing m n with
  | nil => rfl
  | cons first rest ih =>
    cases n with
    | zero => rfl
    | succ n => exact ih (m.sample first).2 n

/-- **What a monitor knows of some samples**: they are full windows and one in progress. -/
def Knows (limit : UInt32) (samples : List UInt32) (m : HeapMonitor) : Prop :=
  ∃ earlier part, samples = earlier ++ part ∧ windowSize ∣ earlier.length ∧
    part.length < windowSize ∧ m = after limit earlier part

theorem knows_new (limit : UInt32) : Knows limit [] (new limit) :=
  ⟨[], [], rfl, Nat.dvd_zero _, by decide, rfl⟩

/-- **One sample** leads to what it should, and is known afterwards. -/
theorem Knows.sample {m : HeapMonitor} (hknows : Knows limit samples m) (free : UInt32)
    (hfew : (samples ++ [free]).length / windowSize < UInt32.size) :
    (m.sample free).1 = verdictAfter limit (samples ++ [free]) ∧
      Knows limit (samples ++ [free]) (m.sample free).2 := by
  obtain ⟨earlier, part, rfl, hwhole, hshort, rfl⟩ := hknows
  have hlength : (earlier ++ (part ++ [free])).length % windowSize =
      (part.length + 1) % windowSize := by
    rw [List.length_append, Nat.add_mod, Nat.mod_eq_zero_of_dvd hwhole]
    simp
  rw [List.append_assoc] at hfew ⊢
  rw [verdictAfter, hlength]
  obtain hmore | hlast := Nat.lt_or_eq_of_le (Nat.succ_le_of_lt hshort)
  · have hinside : ¬ (part.length + 1) % windowSize = 0 := by
      rw [Nat.mod_eq_of_lt hmore]
      exact Nat.succ_ne_zero _
    rw [sample_after hmore, if_neg hinside]
    exact ⟨rfl, earlier, part ++ [free], rfl, hwhole, by simpa using hmore, rfl⟩
  · have hends : (part.length + 1) % windowSize = 0 := by
      rw [← Nat.succ_eq_add_one, hlast, Nat.mod_self]
    rw [sample_after_full hwhole hlast hfew, if_pos hends]
    refine ⟨rfl, earlier ++ (part ++ [free]), [], (List.append_nil _).symm, ?_, by decide, rfl⟩
    exact Nat.dvd_of_mod_eq_zero (hlength.trans hends)

/-- Many samples. -/
theorem knows_sampleAll_new (limit : UInt32) (samples : List UInt32)
    (hfew : samples.length / windowSize < UInt32.size) :
    Knows limit samples ((new limit).sampleAll samples).2 := by
  induction samples using List.reverseRecOn with
  | nil => exact knows_new limit
  | append_singleton samples free ih =>
    have hfewer : samples.length / windowSize ≤ (samples ++ [free]).length / windowSize :=
      Nat.div_le_div_right (by simp)
    rw [sampleAll_concat]
    exact ((ih (Nat.lt_of_le_of_lt hfewer hfew)).sample free hfew).2

/-- **Each verdict of a new monitor** is what the samples so far lead to. -/
theorem getElem?_sampleAll_new (limit : UInt32) (samples : List UInt32)
    (hfew : samples.length / windowSize < UInt32.size) {n : Nat} (hseen : n < samples.length) :
    ((new limit).sampleAll samples).1[n]? = some (verdictAfter limit (samples.take (n + 1))) := by
  have hnext : samples.take (n + 1) = samples.take n ++ [samples[n]] :=
    List.take_succ_eq_append_getElem hseen
  have hfewer : (samples.take (n + 1)).length / windowSize ≤ samples.length / windowSize :=
    Nat.div_le_div_right (List.length_take_le' _ _)
  have hbefore : (samples.take n).length / windowSize ≤ samples.length / windowSize :=
    Nat.div_le_div_right (List.length_take_le' _ _)
  have hknows := knows_sampleAll_new limit (samples.take n) (Nat.lt_of_le_of_lt hbefore hfew)
  rw [getElem?_sampleAll, List.getElem?_eq_getElem hseen, Option.map_some, hnext]
  rw [hnext] at hfewer
  exact congrArg some (hknows.sample _ (Nat.lt_of_le_of_lt hfewer hfew)).1

/-! ### Low windows are low samples -/

/-- **So many low windows in a row**, at the end of a window, are so many hundred low samples. -/
theorem le_lowRun_windows_iff (limit : UInt32) (m : Nat) (samples : List UInt32)
    (hwhole : windowSize ∣ samples.length) :
    m ≤ lowRun limit (windows samples) ↔ windowSize * m ≤ samples.length ∧
      ∀ free ∈ samples.drop (samples.length - windowSize * m), free < limit := by
  induction m generalizing samples with
  | zero => simp
  | succ m ih =>
    obtain ⟨full, hlength⟩ := hwhole
    cases full with
    | zero =>
      rw [Nat.mul_zero] at hlength
      have hnone : windows samples = [] := by simp [windows, hlength]
      rw [hnone, hlength, Nat.mul_succ]
      exact iff_of_false (Nat.not_succ_le_zero m) fun hroom ↦ absurd hroom.1 (by simp [windowSize])
    | succ full =>
      -- the last window apart from those before it
      obtain ⟨earlier, window, rfl, hbefore, hlast⟩ :
          ∃ earlier window, samples = earlier ++ window ∧
          earlier.length = windowSize * full ∧ window.length = windowSize := by
        rw [Nat.mul_succ] at hlength
        refine ⟨samples.take (windowSize * full), samples.drop (windowSize * full),
          (List.take_append_drop _ _).symm, ?_, ?_⟩
        · rw [List.length_take, hlength]
          exact Nat.min_eq_left (Nat.le_add_right _ _)
        · rw [List.length_drop, hlength, Nat.add_sub_cancel_left]
      have hsome : window ≠ [] := by
        rintro rfl
        exact absurd hlast (by decide)
      have hearlier_whole : windowSize ∣ earlier.length := ⟨full, hbefore⟩
      have hrun : m + 1 ≤ lowRun limit (windows (earlier ++ window)) ↔
          isLow limit window = true ∧ m ≤ lowRun limit (windows earlier) := by
        rw [windows_append_window hearlier_whole hlast, lowRun_concat]
        split_ifs with hlow
        · simp [hlow]
        · simp [hlow]
      have hroom : windowSize * (m + 1) ≤ (earlier ++ window).length ↔
          windowSize * m ≤ earlier.length := by
        rw [List.length_append, hlast, Nat.mul_succ]
        exact Nat.add_le_add_iff_right
      have hrest : (earlier ++ window).drop ((earlier ++ window).length - windowSize * (m + 1)) =
          earlier.drop (earlier.length - windowSize * m) ++ window := by
        rw [List.length_append, hlast, Nat.mul_succ, Nat.add_sub_add_right,
          List.drop_append_of_le_length (Nat.sub_le _ _)]
      rw [hrun, hroom, hrest, isLow_iff hsome, ih earlier hearlier_whole, List.forall_mem_append]
      exact ⟨fun ⟨hlow, hfits, hothers⟩ ↦ ⟨hfits, hothers, hlow⟩,
        fun ⟨hfits, hothers, hlow⟩ ↦ ⟨hlow, hfits, hothers⟩⟩

/-- **The third low window in a row, and every low one after it**, is taken for a leak at its end.
-/
theorem exists_verdictAfter_eq_reboot_iff (limit : UInt32) (samples : List UInt32) :
    (∃ least, verdictAfter limit samples = .reboot least) ↔
      windowSize ∣ samples.length ∧ 3 ≤ lowRun limit (windows samples) := by
  rw [verdictAfter]
  split_ifs with hends
  · have hwhole : windowSize ∣ samples.length := Nat.dvd_of_mod_eq_zero hends
    rw [judgement]
    split_ifs with hnone hsome
    · simp [hnone]
    · simp only [exists_false, false_iff, not_and, Nat.not_le]
      omega
    · simp only [HeapVerdict.reboot.injEq, exists_eq', true_iff]
      exact ⟨hwhole, by omega⟩
  · simp only [exists_false, false_iff]
    exact fun hthird ↦ hends (Nat.mod_eq_zero_of_dvd hthird.1)

end After

end BeaconGateway.HeapMonitor

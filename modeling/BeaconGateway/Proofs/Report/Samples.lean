import BeaconGateway.Proofs.Report.Body

/-!
# Any bytes are one row of structures

Whatever bytes an advertisement has, they are a row of structures, each behind its length byte, and
a tail in which no further structure begins (`IsRow`). There is one way to take them apart so, for
each length byte tells where the next one stands. Samples are counted along this row: the scan takes
one turn for each structure and ends at the tail, so that it ends on all bytes, and the word that it
counts in is full only after more bytes than any payload has.

Two readings are compared with the row. One takes it turn by turn (`SampleScan`); the other checks
each access and each step of its counter (`CheckedBody.countSamples?`), and has no answer exactly
where the word would be full.

## Main results

* `EndsRow`, `IsRow` — what a row is, said without a scan;
* `IsRow.structures_eq`, `exists_isRow` — the row is there, and there is one;
* `SampleScan.after_row` — the scan along a row, turn by turn;
* `CheckedBody.countSamples?_eq_none` — when the word is full;
* `countSamples_row` — what is counted in any bytes.
-/

namespace BeaconGateway

/-! ### Rows -/

/-- **No structure begins here**: nothing is left, or the length is zero, or it exceeds what is
left. -/
inductive EndsRow : List UInt8 → Prop where
  | empty : EndsRow []
  | zero (rest : List UInt8) : EndsRow (0 :: rest)
  | overrun {size : UInt8} {rest : List UInt8} (exceeds : rest.length < size.toNat) :
    EndsRow (size :: rest)

/-- Structures one after another, each behind its length byte. -/
def row (parts : List (List UInt8)) : List UInt8 :=
  parts.flatMap fun part ↦ UInt8.ofNat part.length :: part

/-- **An advertisement is a row of structures and a tail.** -/
structure IsRow (advertisement : List UInt8) (parts : List (List UInt8)) (tail : List UInt8) :
    Prop where
  /-- A length byte tells the length of each structure. -/
  sized : ∀ part ∈ parts, 1 ≤ part.length ∧ part.length ≤ 255
  /-- The row and the tail are all. -/
  joined : advertisement = row parts ++ tail
  /-- No further structure begins in the tail. -/
  ends : EndsRow tail

section Row

variable {part rest tail advertisement : List UInt8} {parts : List (List UInt8)}

theorem row_cons_append (part : List UInt8) (parts : List (List UInt8)) (tail : List UInt8) :
    row (part :: parts) ++ tail = UInt8.ofNat part.length :: (part ++ (row parts ++ tail)) := by
  simp [row]

/-- The length byte in front of a structure. -/
theorem toNat_lengthByte (hsized : 1 ≤ part.length ∧ part.length ≤ 255) (rest : List UInt8) :
    (UInt8.ofNat part.length).toNat = part.length ∧
      ¬ (UInt8.ofNat part.length = 0 ∨
        (part ++ rest).length < (UInt8.ofNat part.length).toNat) := by
  have hlength : (UInt8.ofNat part.length).toNat = part.length :=
    UInt8.toNat_ofNat_of_lt' (Nat.lt_succ_of_le hsized.2)
  refine ⟨hlength, ?_⟩
  rintro (hzero | hexceeds)
  · have hnone : part.length = 0 := hlength.symm.trans (congrArg UInt8.toNat hzero)
    omega
  · rw [hlength, List.length_append] at hexceeds
    omega

/-- The first structure of a row is found behind its length byte. -/
theorem structures_cons_append (hsized : 1 ≤ part.length ∧ part.length ≤ 255)
    (rest : List UInt8) :
    structures (UInt8.ofNat part.length :: (part ++ rest)) = part :: structures rest := by
  obtain ⟨hlength, hgoes⟩ := toNat_lengthByte hsized rest
  rw [structures, if_neg hgoes, hlength, List.take_left, List.drop_left]

theorem structures_of_endsRow (hends : EndsRow tail) : structures tail = [] := by
  cases hends with
  | empty => rw [structures]
  | zero rest => rw [structures, if_pos (.inl rfl)]
  | overrun hexceeds => rw [structures, if_pos (.inr hexceeds)]

/-- **The structures of an advertisement are those of its row.** -/
theorem IsRow.structures_eq (hrow : IsRow advertisement parts tail) :
    structures advertisement = parts := by
  obtain ⟨hsized, rfl, hends⟩ := hrow
  induction parts with
  | nil => exact structures_of_endsRow hends
  | cons part parts ih =>
    obtain ⟨hfirst, hothers⟩ := List.forall_mem_cons.1 hsized
    rw [row_cons_append, structures_cons_append hfirst, ih hothers]

/-- **Any bytes are a row with a tail.** -/
theorem exists_isRow (advertisement : List UInt8) :
    ∃ tail, IsRow advertisement (structures advertisement) tail := by
  induction advertisement using structures.induct with
  | case1 => exact ⟨[], by simp [structures], by simp [structures, row], .empty⟩
  | case2 size rest hends =>
    have htail : EndsRow (size :: rest) := by
      obtain rfl | hexceeds := hends
      · exact .zero rest
      · exact .overrun hexceeds
    exact ⟨size :: rest, by simp [structures, hends], by simp [structures, hends, row], htail⟩
  | case3 size rest hgoes ih =>
    obtain ⟨tail, hsized, hjoined, hends⟩ := ih
    have hsome : size.toNat ≠ 0 := fun hzero ↦ hgoes (.inl (UInt8.toNat_inj.1 hzero))
    have hfits : size.toNat < 256 := size.toNat_lt
    have hlength : (rest.take size.toNat).length = size.toNat := by
      rw [List.length_take]
      omega
    rw [structures, if_neg hgoes]
    refine ⟨tail, List.forall_mem_cons.2 ⟨by omega, hsized⟩, ?_, hends⟩
    rw [row_cons_append, hlength, UInt8.ofNat_toNat, ← hjoined, List.take_append_drop]

/-- **There is one such row**, with one tail. -/
theorem IsRow.unique {parts' : List (List UInt8)} {tail' : List UInt8}
    (hrow : IsRow advertisement parts tail) (hrow' : IsRow advertisement parts' tail') :
    parts = parts' ∧ tail = tail' := by
  have hsame : parts = parts' := hrow.structures_eq.symm.trans hrow'.structures_eq
  subst hsame
  exact ⟨rfl, List.append_cancel_left (hrow.joined.symm.trans hrow'.joined)⟩

end Row

/-! ### Samples -/

/-- **A structure is manufacturer data of a company**: it has the type of such data in front, and
then the number of the company, low byte first. -/
def NamesCompany (company : UInt16) (part : List UInt8) : Prop :=
  3 ≤ part.length ∧ part.getD 0 0 = 0xFF ∧
    (part.getD 1 0).toNat + 256 * (part.getD 2 0).toNat = company.toNat

instance (company : UInt16) (part : List UInt8) : Decidable (NamesCompany company part) :=
  inferInstanceAs (Decidable (_ ∧ _ ∧ _))

theorem isSampleOf_eq (company : UInt16) (part : List UInt8) :
    isSampleOf company part = decide (NamesCompany company part) := by
  match part with
  | [] | [_] | [_, _] => simp [isSampleOf, NamesCompany]
  | type :: low :: high :: rest =>
    have hnames : Checksum.ofPair low high = company ↔
        low.toNat + 256 * high.toNat = company.toNat := by
      rw [← UInt16.toNat_inj, Checksum.toNat_ofPair]
    rw [Bool.eq_iff_iff, decide_eq_true_iff, isSampleOf, Bool.and_eq_true, beq_iff_eq, beq_iff_eq,
      hnames]
    simp [NamesCompany, manufacturerType]

/-- How many structures of a row are manufacturer data of a company. -/
def samplesIn (company : UInt16) (parts : List (List UInt8)) : Nat :=
  parts.countP fun part ↦ decide (NamesCompany company part)

theorem countP_isSampleOf (company : UInt16) (parts : List (List UInt8)) :
    parts.countP (isSampleOf company) = samplesIn company parts :=
  List.countP_congr fun part _ ↦ by rw [isSampleOf_eq]

/-! ### The scan, turn by turn -/

/-- A scan for samples. -/
structure SampleScan where
  /-- What was counted. -/
  count : UInt16
  /-- What is left. -/
  rest : List UInt8

namespace SampleScan

variable {company count : UInt16} {part tail : List UInt8} {parts : List (List UInt8)}

/-- One turn, in which the next structure is looked at. There is none where the scan ends. -/
def turn? (company : UInt16) (s : SampleScan) : Option SampleScan :=
  match s.rest with
  | [] => none
  | size :: rest =>
    if size = 0 ∨ rest.length < size.toNat then none
    else
      some {
        count := if isSampleOf company (rest.take size.toNat) then s.count + 1 else s.count
        rest := rest.drop size.toNat }

/-- The scan after a number of turns, if it does not end before. -/
def after? (company : UInt16) : Nat → SampleScan → Option SampleScan
  | 0, s => some s
  | turns + 1, s => (s.turn? company).bind (after? company turns)

theorem turn?_of_endsRow (hends : EndsRow tail) : turn? company ⟨count, tail⟩ = none := by
  cases hends with
  | empty => rfl
  | zero rest => simp [turn?]
  | overrun hexceeds => exact if_pos (.inr hexceeds)

theorem turn?_cons_append (hsized : 1 ≤ part.length ∧ part.length ≤ 255) (rest : List UInt8) :
    turn? company ⟨count, UInt8.ofNat part.length :: (part ++ rest)⟩ =
      some ⟨count + UInt16.ofNat ([part].countP (isSampleOf company)), rest⟩ := by
  obtain ⟨hlength, hgoes⟩ := toNat_lengthByte hsized rest
  refine (if_neg hgoes).trans ?_
  rw [hlength, List.take_left, List.drop_left]
  cases hcounts : isSampleOf company part with
  | true => simp [hcounts]
  | false => simp [hcounts]

/-- **The scan takes one turn for each structure** of a row, and then stands before the tail. -/
theorem after_row (company count : UInt16) (tail : List UInt8)
    (hsized : ∀ part ∈ parts, 1 ≤ part.length ∧ part.length ≤ 255) :
    after? company parts.length ⟨count, row parts ++ tail⟩ =
      some ⟨count + UInt16.ofNat (parts.countP (isSampleOf company)), tail⟩ := by
  induction parts generalizing count with
  | nil => simp [after?, row]
  | cons part parts ih =>
    obtain ⟨hfirst, hothers⟩ := List.forall_mem_cons.1 hsized
    have hboth : (part :: parts).countP (isSampleOf company) =
        [part].countP (isSampleOf company) + parts.countP (isSampleOf company) := by
      rw [← List.countP_append, List.singleton_append]
    rw [List.length_cons, after?, row_cons_append, turn?_cons_append hfirst, Option.bind_some,
      ih _ hothers, hboth, UInt16.ofNat_add, UInt16.add_assoc]

end SampleScan

/-! ### The word that samples are counted in -/

/-- **The word is full** where there are more samples than it can count. -/
theorem CheckedBody.countSamples?_eq_none {company count : UInt16} {bytes : List UInt8}
    (hfull : UInt16.size ≤ count.toNat + (structures bytes).countP (isSampleOf company)) :
    countSamples? company count bytes = none := by
  have hheld : count.toNat < UInt16.size := count.toNat_lt
  -- structure by structure: a sample that is counted leaves one less to count
  induction bytes using structures.induct generalizing count with
  | case1 =>
    rw [structures, List.countP_nil] at hfull
    omega
  | case2 size rest hends =>
    rw [structures, if_pos hends, List.countP_nil] at hfull
    omega
  | case3 size rest hgoes ih =>
    have hreaches : slice? rest 0 size.toNat = some (rest.take size.toNat) :=
      slice?_eq (Nat.zero_le _) (by omega)
    rw [structures, if_neg hgoes, List.countP_cons] at hfull
    rw [countSamples?, if_neg hgoes, hreaches]
    show ((count? company count _).bind fun count ↦ countSamples? company count _) = none
    rw [count?]
    cases hcounts : isSampleOf company (rest.take size.toNat) with
    | false =>
      rw [hcounts] at hfull
      exact ih hfull hheld
    | true =>
      -- the word is full at this sample, or at one of those behind it
      by_cases hlast : count + 1 = 0
      · simp [hlast]
      · have hmore : (count + 1).toNat = count.toNat + 1 := by
          refine toNat_add_ofNat count 1 ?_
          by_contra hnone
          have hzero : count.toNat + 1 = UInt16.size := by omega
          exact hlast (UInt16.toNat_inj.1 (by simp [UInt16.toNat_add, hzero]))
        rw [hcounts, if_pos rfl] at hfull
        simp only [hlast, Bool.not_true, Bool.false_eq_true, if_false, Option.bind_some]
        exact ih (by omega) (count + 1).toNat_lt

/-! ### What is counted -/

/-- **What is counted in any bytes**, and for any company. The bytes are a row of structures with a
tail in one way, and each sample takes four bytes of them. If the number of samples fits into the
word, it is counted, structure by structure and without the word coming round; a payload is never
too long for that. And the scan ends on all bytes: after one turn for each structure it stands
before the tail, where it takes no further turn. -/
theorem countSamples_row (company : UInt16) (advertisement : List UInt8) :
    (∃! split : List (List UInt8) × List UInt8, IsRow advertisement split.1 split.2) ∧
      ∀ parts tail, IsRow advertisement parts tail →
        4 * samplesIn company parts ≤ advertisement.length ∧
        (advertisement.length ≤ maxPayload → samplesIn company parts < UInt16.size) ∧
        (samplesIn company parts < UInt16.size →
          (countSamples company advertisement).toNat = samplesIn company parts) ∧
        CheckedBody.countSamples? company 0 advertisement =
          (if samplesIn company parts < UInt16.size then some (countSamples company advertisement)
          else none) ∧
        SampleScan.after? company parts.length ⟨0, advertisement⟩ =
          some ⟨countSamples company advertisement, tail⟩ ∧
        SampleScan.turn? company ⟨countSamples company advertisement, tail⟩ = none := by
  constructor
  · obtain ⟨tail, hrow⟩ := exists_isRow advertisement
    refine ⟨(structures advertisement, tail), hrow, fun split hother ↦ ?_⟩
    obtain ⟨hparts, hrest⟩ := hrow.unique hother
    exact Prod.ext hparts.symm hrest.symm
  intro parts tail hrow
  have hnumber : (structures advertisement).countP (isSampleOf company) =
      samplesIn company parts := by
    rw [hrow.structures_eq, countP_isSampleOf]
  have hcounted : countSamples company advertisement = UInt16.ofNat (samplesIn company parts) := by
    rw [countSamples, hnumber]
  have hbytes : 4 * samplesIn company parts ≤ advertisement.length := by
    rw [← hnumber]
    exact four_mul_countP_structures_le company advertisement
  refine ⟨hbytes, fun hfits ↦ ?_, fun hfits ↦ ?_, ?_, ?_, SampleScan.turn?_of_endsRow hrow.ends⟩
  · rw [maxPayload] at hfits
    show samplesIn company parts < 65536
    omega
  · rw [hcounted]
    exact UInt16.toNat_ofNat_of_lt' hfits
  · rw [hcounted, ← hnumber]
    split_ifs with hfits
    · rw [CheckedBody.countSamples?_eq (by simpa using hfits), UInt16.zero_add]
    · exact CheckedBody.countSamples?_eq_none (by simpa using hfits)
  · have hscanned := SampleScan.after_row company 0 tail hrow.sized
    rw [← hrow.joined, countP_isSampleOf, UInt16.zero_add] at hscanned
    rw [hscanned, hcounted]

/-- An advertisement with a sample, a structure that is shorter than the number of a company, and a
length that exceeds what is left. -/
theorem countSamples_row_cut_short :
    let advertisement : List UInt8 := [3, 0xFF, 0x99, 0x04, 2, 0xFF, 0x99, 9, 0xFF, 0x99, 0x04]
    let parts : List (List UInt8) := [[0xFF, 0x99, 0x04], [0xFF, 0x99]]
    IsRow advertisement parts [9, 0xFF, 0x99, 0x04] ∧
      samplesIn 0x0499 parts = 1 ∧
      (countSamples 0x0499 advertisement).toNat = 1 ∧
      SampleScan.after? 0x0499 2 ⟨0, advertisement⟩ =
        some ⟨countSamples 0x0499 advertisement, [9, 0xFF, 0x99, 0x04]⟩ := by
  intro advertisement parts
  have hrow : IsRow advertisement parts [9, 0xFF, 0x99, 0x04] :=
    ⟨by decide, rfl, .overrun (by decide)⟩
  have hone : samplesIn 0x0499 parts = 1 := by decide
  obtain ⟨-, hcounts⟩ := countSamples_row 0x0499 advertisement
  obtain ⟨-, -, hcounted, -, hscanned, -⟩ := hcounts parts _ hrow
  rw [hone] at hcounted
  exact ⟨hrow, hone, hcounted (by decide), hscanned⟩

end BeaconGateway

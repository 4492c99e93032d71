import BeaconGateway.Proofs.Json.Unambiguous
import Mathlib.Tactic.NormNum

/-!
# What is written can be read

The text of a value is a text of the grammar, and denotes that value. No text denotes another one
besides, so whoever reads a document by the grammar finds in it what was written.

The writer leaves no choice open, and the grammar leaves many: a character may be escaped or not, a
number may have an exponent, and blanks may stand between. The writer's choice is one of those that
the grammar allows, and this is shown piece by piece, from the digits of a number and the characters
of a string up to rows of values. That a written text is that of no other value needs no look at the
writer: no text of the grammar has two values (`Json.Denotes.unique`).

## Main results

* `Json.denotes_render` — a written text denotes its value;
* `Json.denotes_render_iff` — and no other.
-/

namespace BeaconGateway

/-! ### Numerals -/

namespace Decimal

/-- What stands for a digit is one. -/
theorem isDigit_digit (d : Nat) : (digit d).isDigit = true := by
  have h : d % 10 < 10 := Nat.mod_lt _ (by decide)
  unfold digit
  generalize d % 10 = k at h
  match k, h with
  | 0, _ | 1, _ | 2, _ | 3, _ | 4, _ | 5, _ | 6, _ | 7, _ | 8, _ | 9, _ => rfl

/-- A number has a digit at least. -/
theorem digits_ne_nil (n : Nat) : digits n ≠ [] := by
  fun_induction digits n with
  | case1 => exact List.cons_ne_nil _ _
  | case2 => exact List.append_ne_nil_of_right_ne_nil _ (List.cons_ne_nil _ _)

/-- Its digits are digits. -/
theorem isDigit_of_mem_digits (n : Nat) : ∀ c ∈ digits n, c.isDigit = true := by
  fun_induction digits n with
  | case1 n => simp [isDigit_digit]
  | case2 n _ ih => exact List.forall_mem_append.2 ⟨ih, by simp [isDigit_digit]⟩

/-- **No needless zero** stands in front. -/
theorem digits_eq_of_head?_eq_zero (n : Nat) :
    (digits n).head? = some '0' → digits n = ['0'] := by
  fun_induction digits n with
  | case1 n => exact fun hzero ↦ congrArg (fun c ↦ [c]) (Option.some.inj hzero)
  | case2 n hlarge ih =>
    intro hzero
    obtain ⟨c, rest, hfront⟩ := List.exists_cons_of_ne_nil (digits_ne_nil (n / 10))
    have hzero : (digits (n / 10)).head? = some '0' := by simpa [hfront] using hzero
    have hsmall : n / 10 = 0 := by rw [← value_digits (n / 10), ih hzero]; rfl
    omega

end Decimal

namespace Json

open Decimal

/-- The digits of a number are as the grammar has them. -/
theorem digits_digits (n : Nat) : Digits (digits n) :=
  ⟨digits_ne_nil n, isDigit_of_mem_digits n⟩

/-- A number is written as the grammar has it: no zero in front of other digits, and the sign before
all. -/
theorem isNumeral_signedDigits (value : Int) : IsNumeral (signedDigits value) := by
  cases value with
  | ofNat n =>
    exact ⟨[], digits n, [], [], by simp [signedDigits], .inl rfl,
      ⟨digits_digits n, digits_eq_of_head?_eq_zero n⟩, .inl rfl, .inl rfl⟩
  | negSucc n =>
    exact ⟨['-'], digits (n + 1), [], [], by simp [signedDigits], .inr rfl,
      ⟨digits_digits (n + 1), digits_eq_of_head?_eq_zero (n + 1)⟩, .inl rfl, .inl rfl⟩

/-- Digits alone have no fraction and no exponent. -/
theorem magnitude_digits (n : Nat) : magnitude (digits n) = n := by
  have hall {p : Char → Bool} (hkeeps : ∀ c, c.isDigit = true → p c = true) :
      (digits n).takeWhile p = digits n :=
    List.takeWhile_eq_self_iff.2 fun c hmem ↦ hkeeps c (isDigit_of_mem_digits n c hmem)
  have hmantissa : (digits n).takeWhile (fun c ↦ c != 'e' && c != 'E') = digits n :=
    hall fun c hdigit ↦ by
      have : c ≠ 'e' := by rintro rfl; cases hdigit
      have : c ≠ 'E' := by rintro rfl; cases hdigit
      simp [*]
  have hwhole : (digits n).takeWhile (· != '.') = digits n :=
    hall fun c hdigit ↦ by
      have : c ≠ '.' := by rintro rfl; cases hdigit
      simp [*]
  simp [magnitude, hmantissa, hwhole, signedValue, value_digits, show value [] = 0 from rfl]

/-- **A number is read back** from its digits and its sign. -/
theorem numeralValue_signedDigits (value : Int) : numeralValue (signedDigits value) = value := by
  cases value with
  | ofNat n =>
    have hunsigned : numeralValue (digits n) = magnitude (digits n) := by
      unfold numeralValue
      split
      · next cs hminus =>
        have hdigit : '-'.isDigit = true :=
          isDigit_of_mem_digits n '-' (hminus ▸ List.mem_cons_self)
        cases hdigit
      · rfl
    rw [signedDigits, hunsigned, magnitude_digits]
    rfl
  | negSucc n =>
    rw [signedDigits, numeralValue, magnitude_digits, Int.cast_negSucc]

/-! ### Strings -/

/-- **Each character is spelled** by what is written for it: as it is, by a short escape, or by its
code. -/
theorem spellsChar_escape (c : Char) : SpellsChar c (escape c) := by
  unfold escape
  split_ifs with hquote hbackslash hbackspace hfeed hnewline hcarriage htab hcontrol
  · subst hquote
    exact .short rfl
  · subst hbackslash
    exact .short rfl
  · subst hbackspace
    exact .short rfl
  · subst hfeed
    exact .short rfl
  · subst hnewline
    exact .short rfl
  · subst hcarriage
    exact .short rfl
  · subst htab
    exact .short rfl
  · -- The code of a control character has two zeros in front.
    refine .code ⟨0, c.toNat.toUInt8, Hex.decode?_encode .lower [0, c.toNat.toUInt8], ?_⟩
    show c.toNat = 256 * 0 + c.toNat % 256
    omega
  · exact .plain (by omega) hquote hbackslash

/-- So a string between quotes spells its text. -/
theorem spellsString_quote (text : String) : SpellsString text (quote text.toList) := by
  refine ⟨text.toList.flatMap escape, rfl, ?_⟩
  induction text.toList with
  | nil => exact .nil
  | cons c rest ih => exact .cons (spellsChar_escape c) ih

/-! ### Values -/

/-- No blanks are around what is written. -/
theorem padded_of {language : List Char → Prop} {cs : List Char} (htext : language cs) :
    Padded language cs :=
  ⟨[], cs, [], by simp, blank_nil, htext, blank_nil⟩

/-- Pieces with commas between them are a row. -/
theorem separated_commaSeparated {α : Type} {texts : α → List Char → Prop}
    {piece : α → List Char} {as : List α} (hwritten : ∀ a ∈ as, texts a (piece a)) :
    Separated (as.map texts) (commaSeparated (as.map piece)) := by
  induction as with
  | nil => exact blank_nil
  | cons a as ih =>
    have hfirst := padded_of (hwritten a List.mem_cons_self)
    have hothers := ih fun a hmem ↦ hwritten a (List.mem_cons_of_mem _ hmem)
    cases as with
    | nil => exact hfirst
    | cons b bs => exact ⟨piece a, _, rfl, hfirst, hothers⟩

/-- What is written of a list of values, as a map. -/
theorem writeItems_eq_map (items : List Json) : writeItems items = items.map write := by
  induction items with
  | nil => simp only [writeItems, List.map_nil]
  | cons item rest ih => simp only [writeItems, List.map_cons, ih]

/-- The characters of a member. -/
def writeMember (member : String × Json) : List Char :=
  quote member.1.toList ++ ':' :: member.2.write

/-- What is written of a list of members, as a map. -/
theorem writeMembers_eq_map (members : List (String × Json)) :
    writeMembers members = members.map writeMember := by
  induction members with
  | nil => simp only [writeMembers, List.map_nil]
  | cons member rest ih => simp only [writeMembers, List.map_cons, ih, writeMember]

/-- **What is written is in the grammar.** -/
theorem spells_write (j : Json) : Spells j j.write := by
  induction j using Json.induct with
  | null => simp only [Spells, write]
  | bool value => simp only [Spells, write]
  | number value =>
    simp only [Spells, write]
    exact ⟨isNumeral_signedDigits value, numeralValue_signedDigits value⟩
  | string text =>
    simp only [Spells, write]
    exact spellsString_quote text
  | array items ih =>
    rw [spells_array, write, writeItems_eq_map]
    exact ⟨_, rfl, separated_commaSeparated ih⟩
  | object members ih =>
    rw [spells_object, write, writeMembers_eq_map]
    refine ⟨_, rfl, separated_commaSeparated fun member hmem ↦ ?_⟩
    exact ⟨_, [], [], _, rfl, spellsString_quote member.1, blank_nil, blank_nil, ih member hmem⟩

/-- **A written text denotes its value.** -/
theorem denotes_render (j : Json) : Denotes j.render j := by
  rw [Denotes, render, String.toList_ofList]
  exact padded_of (spells_write j)

/-- **A written text denotes its value and no other.** -/
theorem denotes_render_iff {j j' : Json} : Denotes j.render j' ↔ j' = j :=
  ⟨fun hdenotes ↦ hdenotes.unique (denotes_render j), fun hsame ↦ hsame ▸ denotes_render j⟩

end Json

end BeaconGateway

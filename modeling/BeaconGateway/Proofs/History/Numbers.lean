import BeaconGateway.History.Filter
import BeaconGateway.Proofs.Json.Writing

/-!
# Numbers in history queries

A number in a parameter may have any number of digits. It is read digit by digit, and after each
digit what does not fit into thirty-two bits is brought down to the largest number that does.
Nothing is lost by doing so early: once the digits read stand for too much, no later digit makes
them stand for less. So the number read is the one that the digits stand for, or the largest one
(`toNat_leadingNumber`).

## Main results

* `foldl_appendDigit` — the digits read so far stand for the number kept, up to the largest one;
* `toNat_leadingNumber` — what the leading digits of a text stand for;
* `HistoryFilter.ofParams_number` — what a parameter with a number asks for.
-/

namespace BeaconGateway

open Decimal

/-! ### Beginnings -/

/-- **What follows a beginning** is what has to be appended to it. -/
theorem after?_eq_some_iff {beginning text rest : List Char} :
    after? beginning text = some rest ↔ text = beginning ++ rest := by
  fun_induction after? beginning text with
  | case1 => simp
  | case2 => simp
  | case3 b beginning text ih => simp [ih]
  | case4 b beginning c text hother => simp [Ne.symm hother]

/-! ### Digits -/

/-- To bring a number down to the largest one and then append a digit, or the other way round, comes
to the same. -/
theorem appendDigit_min (n : Nat) (c : Char) :
    appendDigit (min n maxWord) c = min (n * 10 + digitValue c) maxWord := by
  simp only [appendDigit, maxWord, digitValue]
  omega

/-- **The digits read so far** stand for the number kept, up to the largest one. -/
theorem foldl_appendDigit (cs : List Char) (n : Nat) :
    cs.foldl appendDigit (min n maxWord) =
      min (cs.foldl (fun acc c ↦ acc * 10 + digitValue c) n) maxWord := by
  induction cs generalizing n with
  | nil => rfl
  | cons c rest ih => rw [List.foldl_cons, appendDigit_min, ih, List.foldl_cons]

/-- **What the leading digits of a text stand for**, up to the largest number. -/
theorem toNat_leadingNumber (cs : List Char) :
    (leadingNumber cs).toNat = min (value (cs.takeWhile Char.isDigit)) maxWord := by
  have hread : (cs.takeWhile Char.isDigit).foldl appendDigit 0 =
      min (value (cs.takeWhile Char.isDigit)) maxWord :=
    foldl_appendDigit (cs.takeWhile Char.isDigit) 0
  rw [leadingNumber, hread]
  exact UInt32.toNat_ofNat_of_lt' (Nat.lt_of_le_of_lt (Nat.min_le_right _ _) (by decide))

/-- The numeral of a word is read as that word, if no digit follows it. -/
theorem leadingNumber_digits (n : UInt32) {suffix : List Char}
    (hstops : ∀ c ∈ suffix.head?, c.isDigit = false) :
    leadingNumber (digits n.toNat ++ suffix) = n := by
  have hnone : suffix.takeWhile Char.isDigit = [] := by
    cases suffix with
    | nil => rfl
    | cons c rest => simp [hstops c rfl]
  have hfits : n.toNat ≤ maxWord := Nat.le_of_lt_succ n.toNat_lt_size
  apply UInt32.toNat_inj.1
  rw [toNat_leadingNumber, List.takeWhile_append_of_pos (isDigit_of_mem_digits n.toNat), hnone,
    List.append_nil, value_digits, Nat.min_eq_left hfits]

/-- Zeros in front of a number say nothing. -/
theorem leadingNumber_zeros (zeros : Nat) (cs : List Char) :
    leadingNumber (List.replicate zeros '0' ++ cs) = leadingNumber cs := by
  induction zeros with
  | zero => rfl
  | succ zeros ih =>
    rw [← ih, List.replicate_succ, List.cons_append, leadingNumber, leadingNumber,
      List.takeWhile_cons_of_pos rfl]
    rfl

/-! ### Parameters -/

namespace HistoryFilter

variable (rest : String) (synced : Bool)

/-- Where stamps are times, what follows `time=` is read as a number of seconds. -/
theorem ofParams_time :
    ofParams (some ("time=" ++ rest)) true synced =
      if synced then .maxAge (leadingNumber rest.toList) else .all := by
  have hread : after? "time=".toList ("time=" ++ rest).toList = some rest.toList :=
    after?_eq_some_iff.2 String.toList_append
  rw [ofParams, Option.getD_some, hread]
  rfl

/-- Where stamps are running numbers, what follows `counter=` is read as one. -/
theorem ofParams_counter :
    ofParams (some ("counter=" ++ rest)) false synced =
      .sinceCounter (leadingNumber rest.toList) := by
  have hread : after? "counter=".toList ("counter=" ++ rest).toList = some rest.toList :=
    after?_eq_some_iff.2 String.toList_append
  rw [ofParams, Option.getD_some, hread]
  rfl

end HistoryFilter

/-- **What a parameter with a number asks for.** The number is what the longest run of leading
digits stands for, or the largest of thirty-two bits if that is too much; no digits stand for zero.
So the numeral of a word, with whatever but a digit behind it, asks for that word, and zeros in
front say nothing. -/
theorem HistoryFilter.ofParams_number :
    (∀ rest : String, ∃ n : UInt32,
      n.toNat = min (value (rest.toList.takeWhile Char.isDigit)) 4294967295 ∧
      ∀ synced,
        ofParams (some ("time=" ++ rest)) true synced = (if synced then .maxAge n else .all) ∧
        ofParams (some ("counter=" ++ rest)) false synced = .sinceCounter n) ∧
    (∀ (n : UInt32) (suffix : String), (∀ c ∈ suffix.toList.head?, c.isDigit = false) →
      ofParams (some ("time=" ++ (Decimal.ofNat n.toNat ++ suffix))) true true = .maxAge n ∧
      ∀ synced,
        ofParams (some ("counter=" ++ (Decimal.ofNat n.toNat ++ suffix))) false synced =
          .sinceCounter n) ∧
    ∀ (zeros : Nat) (rest : String) (synced : Bool),
      let padded := String.ofList (List.replicate zeros '0') ++ rest
      ofParams (some ("time=" ++ padded)) true synced =
        ofParams (some ("time=" ++ rest)) true synced ∧
      ofParams (some ("counter=" ++ padded)) false synced =
        ofParams (some ("counter=" ++ rest)) false synced := by
  refine ⟨fun rest ↦ ⟨leadingNumber rest.toList, toNat_leadingNumber _, fun synced ↦
    ⟨ofParams_time rest synced, ofParams_counter rest synced⟩⟩, ?_, ?_⟩
  · intro n suffix hstops
    have hread : leadingNumber (Decimal.ofNat n.toNat ++ suffix).toList = n := by
      rw [String.toList_append, Decimal.ofNat, String.toList_ofList]
      exact leadingNumber_digits n hstops
    simp only [ofParams_time, ofParams_counter, hread, if_true, implies_true, and_self]
  · intro zeros rest synced padded
    have hread : leadingNumber padded.toList = leadingNumber rest.toList := by
      rw [String.toList_append, String.toList_ofList]
      exact leadingNumber_zeros zeros rest.toList
    simp only [ofParams_time, ofParams_counter, hread, and_self]

/-- The largest word with a zero in front and another parameter behind it. -/
theorem HistoryFilter.ofParams_largest_number :
    let suffix := "&counter=1"
    (∀ c ∈ suffix.toList.head?, c.isDigit = false) ∧
      ofParams (some ("time=" ++ ("0" ++ (Decimal.ofNat 4294967295 ++ suffix)))) true true =
        .maxAge 4294967295 := by
  intro suffix
  have hstops : ∀ c ∈ suffix.toList.head?, c.isDigit = false := by
    simp [suffix]
  obtain ⟨-, hword, hzeros⟩ := ofParams_number
  exact ⟨hstops, (hzeros 1 _ true).1.trans (hword 4294967295 suffix hstops).1⟩

end BeaconGateway

import BeaconGateway.Text.Bounded
import BeaconGateway.Text.Utf8
import Mathlib.Data.List.Infix
import Mathlib.Data.String.Basic

/-!
# A cut keeps the longest beginning that fits

A text over its capacity is cut in one pass over its characters, each of which is appended while
there is room for its bytes (`BoundedText.fill`); the first one that is refused ends the pass. Of
the operation that appends nothing is used but what it promises (`BoundedText.Appends`). What is
kept is `fittingPrefix` of what is left of the capacity (`BoundedText.text_fill`), and everything
about the cut follows from one equivalence, `prefix_fittingPrefix_iff`: some characters begin what
is kept exactly if they begin the text and fit.

Capacities count bytes. No character in UTF-8 begins another one, so one text begins another one
byte by byte exactly if it does so character by character (`utf8Bytes_prefix_iff`), and a cut is the
longest among all rows of bytes that are a text.

## Main results

* `BoundedText.truncate_longest` — the cut is the longest beginning of a text that fits, is the
  whole text exactly if the text fits, and is not cut again.
-/

namespace BeaconGateway

open String (utf8Len)

variable {room : Nat} {cs ds : List Char}

/-! ### Characters that fit -/

theorem utf8Len_fittingPrefix_le (room : Nat) (cs : List Char) :
    utf8Len (fittingPrefix room cs) ≤ room := by
  rw [← String.utf8ByteSize_ofList]
  exact utf8ByteSize_fittingPrefix_le room cs

/-- What is kept begins the text: no character is skipped. -/
theorem fittingPrefix_isPrefix (room : Nat) (cs : List Char) : fittingPrefix room cs <+: cs := by
  fun_induction fittingPrefix room cs with
  | case1 => exact List.prefix_rfl
  | case2 room c rest hfits ih => exact List.cons_prefix_cons.2 ⟨rfl, ih⟩
  | case3 => exact List.nil_prefix

/-- A beginning that fits is kept. -/
theorem prefix_fittingPrefix (h : ds <+: cs) (hfits : utf8Len ds ≤ room) :
    ds <+: fittingPrefix room cs := by
  fun_induction fittingPrefix room cs generalizing ds with
  | case1 => exact h
  | case2 room c rest _ ih =>
    cases ds with
    | nil => exact List.nil_prefix
    | cons d ds =>
      obtain ⟨rfl, hrest⟩ := List.cons_prefix_cons.1 h
      rw [String.utf8Len_cons] at hfits
      exact List.cons_prefix_cons.2 ⟨rfl, ih hrest (by omega)⟩
  | case3 room c rest hlarge =>
    cases ds with
    | nil => exact List.prefix_rfl
    | cons d ds =>
      -- the first character alone takes more than there is room for
      obtain ⟨rfl, -⟩ := List.cons_prefix_cons.1 h
      rw [String.utf8Len_cons] at hfits
      omega

/-- **The longest beginning that fits**: some characters begin what is kept exactly if they begin
the text and fit. -/
theorem prefix_fittingPrefix_iff :
    ds <+: fittingPrefix room cs ↔ ds <+: cs ∧ utf8Len ds ≤ room := by
  constructor
  · intro h
    have hkept := utf8Len_fittingPrefix_le room cs
    exact ⟨h.trans (fittingPrefix_isPrefix room cs), (String.utf8Len_le_of_prefix h).trans hkept⟩
  · rintro ⟨h, hfits⟩
    exact prefix_fittingPrefix h hfits

/-- Everything is kept exactly if everything fits. -/
theorem fittingPrefix_eq_self_iff : fittingPrefix room cs = cs ↔ utf8Len cs ≤ room := by
  constructor
  · intro h
    exact h ▸ utf8Len_fittingPrefix_le room cs
  · intro hfits
    have hall : cs <+: fittingPrefix room cs := prefix_fittingPrefix_iff.2 ⟨List.prefix_rfl, hfits⟩
    exact (fittingPrefix_isPrefix room cs).eq_of_length_le hall.length_le

/-- The first character that is dropped has no room behind those that are kept. -/
theorem lt_of_eq_fittingPrefix_append {c : Char} {rest : List Char}
    (h : cs = fittingPrefix room cs ++ c :: rest) :
    room < utf8Len (fittingPrefix room cs) + c.utf8Size := by
  by_contra hfits
  have hmore : fittingPrefix room cs ++ [c] <+: fittingPrefix room cs := by
    refine prefix_fittingPrefix_iff.2 ⟨⟨rest, ?_⟩, ?_⟩
    · rw [List.append_assoc]
      exact h.symm
    · rw [String.utf8Len_append, String.utf8Len_cons, String.utf8Len_nil]
      omega
  have hlength := hmore.length_le
  rw [List.length_append, List.length_singleton] at hlength
  omega

/-! ### Bytes -/

/-- **Bytes begin bytes exactly if characters begin characters.** -/
theorem utf8Bytes_prefix_iff {p s : String} :
    utf8Bytes p <+: utf8Bytes s ↔ p.toList <+: s.toList := by
  constructor
  · rintro ⟨rest, h⟩
    refine List.isPrefix_of_utf8Encode_append_eq_utf8Encode ⟨rest.toArray⟩ ?_
    rw [String.utf8Encode_toList, String.utf8Encode_toList]
    refine ByteArray.ext (Array.toList_inj.1 ?_)
    simpa [utf8Bytes] using h
  · rintro ⟨rest, h⟩
    have hsplit : s = p ++ String.ofList rest := by
      rw [← String.ofList_toList (s := s), ← h, String.ofList_append, String.ofList_toList]
    refine ⟨utf8Bytes (String.ofList rest), ?_⟩
    rw [hsplit]
    simp [utf8Bytes]

/-- One text is the longest beginning of another one, in whole characters, that takes at most so
many bytes in UTF-8. -/
structure IsLongestStart (cap : Nat) (s t : String) : Prop where
  /-- It is made of the first characters. -/
  starts : t.toList <+: s.toList
  /-- Its bytes fit. -/
  fits : (utf8Bytes t).length ≤ cap
  /-- Every text that fits, and whose bytes are the first ones, begins it. -/
  longest : ∀ p, utf8Bytes p <+: utf8Bytes s → (utf8Bytes p).length ≤ cap → p.toList <+: t.toList
  /-- The character behind it does not fit any more. -/
  next : ∀ c rest, s.toList = t.toList ++ c :: rest → cap < (utf8Bytes (t.push c)).length

/-! ### Appending while there is room -/

namespace BoundedText

variable {cap : Nat} {append? : BoundedText cap → Char → Option (BoundedText cap)}

/-- What an operation promises that appends a character to a text of fixed capacity, or refuses. -/
structure Appends (append? : BoundedText cap → Char → Option (BoundedText cap)) : Prop where
  /-- A character comes last if there is room for all of its bytes. -/
  appends : ∀ t c, (t.text.push c).utf8ByteSize ≤ cap →
    ∃ t', append? t c = some t' ∧ t'.text = t.text.push c
  /-- It is refused if there is not. -/
  refuses : ∀ t c, cap < (t.text.push c).utf8ByteSize → append? t c = none

/-- Append a character, `none` if there is no room for all of its bytes. -/
def push? (t : BoundedText cap) (c : Char) : Option (BoundedText cap) :=
  if h : (t.text.push c).utf8ByteSize ≤ cap then some ⟨t.text.push c, h⟩ else none

theorem appends_push? : Appends (push? : BoundedText cap → Char → Option (BoundedText cap)) where
  appends _ _ hroom := ⟨_, dif_pos hroom, rfl⟩
  refuses _ _ hlarge := dif_neg (Nat.not_le_of_lt hlarge)

/-- Append characters one by one, up to the first one that is refused. -/
def fill (append? : BoundedText cap → Char → Option (BoundedText cap)) (t : BoundedText cap) :
    List Char → BoundedText cap
  | [] => t
  | c :: rest =>
    match append? t c with
    | none => t
    | some t => fill append? t rest

/-- **What the pass appends** is the longest beginning that fits into what the capacity leaves. -/
theorem text_fill (hpush : Appends append?) (t : BoundedText cap) (cs : List Char) :
    (t.fill append? cs).text =
      t.text ++ String.ofList (fittingPrefix (cap - t.text.utf8ByteSize) cs) := by
  induction cs generalizing t with
  | nil => simp [fill, fittingPrefix]
  | cons c rest ih =>
    have hfull : t.text.utf8ByteSize ≤ cap := t.fits
    have hsize : (t.text.push c).utf8ByteSize = t.text.utf8ByteSize + c.utf8Size :=
      String.utf8ByteSize_push
    by_cases hroom : c.utf8Size ≤ cap - t.text.utf8ByteSize
    · obtain ⟨t', happended, htext⟩ := hpush.appends t c (by omega)
      rw [fill, happended, fittingPrefix, if_pos hroom]
      dsimp only
      rw [ih, htext, hsize, Nat.sub_add_eq, String.ofList_cons, ← String.append_assoc,
        String.push_eq_append]
    · rw [fill, hpush.refuses t c (by omega), fittingPrefix, if_neg hroom]
      simp

theorem eq_of_text_eq {t t' : BoundedText cap} (h : t.text = t'.text) : t = t' := by
  obtain ⟨text, hfits⟩ := t
  obtain rfl : text = t'.text := h
  rfl

/-- A cut is a pass over the text from the empty one. -/
theorem fill_empty (hpush : Appends append?) (s : String) :
    empty.fill append? s.toList = truncate cap s := by
  refine eq_of_text_eq ?_
  rw [text_fill hpush]
  simp [empty, truncate]

theorem toList_truncate (cap : Nat) (s : String) :
    (truncate cap s).text.toList = fittingPrefix cap s.toList := by
  rw [truncate, String.toList_ofList]

theorem text_truncate_eq_self_iff {s : String} :
    (truncate cap s).text = s ↔ (utf8Bytes s).length ≤ cap := by
  rw [← String.toList_inj, toList_truncate, fittingPrefix_eq_self_iff, String.utf8Len_toList,
    length_utf8Bytes]

theorem isLongestStart_truncate (cap : Nat) (s : String) :
    IsLongestStart cap s (truncate cap s).text := by
  constructor
  case starts =>
    rw [toList_truncate]
    exact fittingPrefix_isPrefix cap s.toList
  case fits =>
    rw [length_utf8Bytes]
    exact (truncate cap s).fits
  case longest =>
    intro p hp hroom
    rw [length_utf8Bytes, ← String.utf8Len_toList] at hroom
    rw [toList_truncate]
    exact prefix_fittingPrefix_iff.2 ⟨utf8Bytes_prefix_iff.1 hp, hroom⟩
  case next =>
    intro c rest h
    rw [toList_truncate] at h
    rw [length_utf8Bytes, String.utf8ByteSize_push, ← String.utf8Len_toList, toList_truncate]
    exact lt_of_eq_fittingPrefix_append h

/-- **A cut is the longest beginning of a text that fits**, in whole characters and with no
character skipped, and it is what a pass that appends the characters one by one comes to. It is the
whole text exactly if the text fits. To cut it again changes nothing. -/
theorem truncate_longest (hpush : Appends append?) (s : String) :
    empty.fill append? s.toList = truncate cap s ∧
      IsLongestStart cap s (truncate cap s).text ∧
      ((truncate cap s).text = s ↔ (utf8Bytes s).length ≤ cap) ∧
      truncate cap (truncate cap s).text = truncate cap s := by
  have hlongest := isLongestStart_truncate cap s
  refine ⟨fill_empty hpush s, hlongest, text_truncate_eq_self_iff, ?_⟩
  exact eq_of_text_eq (text_truncate_eq_self_iff.2 hlongest.fits)

/-- A character of three bytes does not fit behind one byte and two, and the one behind it, which
would, is not taken in its place. -/
theorem truncate_longest_of_wide :
    Appends (push? : BoundedText 4 → Char → Option (BoundedText 4)) ∧
      ((empty : BoundedText 4).fill push? "aé€b".toList).text = "aé" ∧
      IsLongestStart 4 "aé€b" "aé" := by
  have htext : (truncate 4 "aé€b").text = "aé" := by decide
  obtain ⟨hpass, hlongest, -, -⟩ := truncate_longest appends_push? "aé€b"
  exact ⟨appends_push?, (congrArg BoundedText.text hpass).trans htext, htext ▸ hlongest⟩

end BoundedText

end BeaconGateway

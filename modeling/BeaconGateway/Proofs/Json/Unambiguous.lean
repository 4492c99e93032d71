import BeaconGateway.Proofs.Json.Grammar
import Mathlib.Data.List.TakeWhile
import Mathlib.Data.Rat.Cast.Defs

/-!
# A text has one value

A text of the grammar denotes no two values. It is read from the left, so this is shown of texts
with something behind them: what stands in front of it can be told, and so can where it ends. A
string ends with its quote and a row with its bracket, but a number ends only where something comes
that cannot belong to it.

The proof follows the grammar. For strings and numbers it compares how two texts begin; for values
it is an induction on the value, where the parts of an array or an object can be told in turn by the
hypothesis, each with the rest of the row behind it. That no text of a value begins with a blank or
a mark (`Begins`) is what tells a row with a value from an empty one.

## Main results

* `Json.Told` — a value can be told from the front of a text;
* `Json.told_spells` — every value can;
* `Json.Denotes.unique` — a text denotes at most one value.
-/

namespace BeaconGateway.Json

/-! ### Fronts of texts -/

/-- **A value can be told from the front of a text**, and so can what comes behind it, if that
is as it may be. -/
def Told {α : Type} (texts : α → List Char → Prop) (next : List Char → Prop) (a : α) : Prop :=
  ∀ ⦃b cs ds rest rest'⦄, texts a cs → texts b ds → next rest → next rest' →
    cs ++ rest = ds ++ rest' → a = b ∧ rest = rest'

/-- A comma, a colon or a closing bracket. -/
def isMark (c : Char) : Bool :=
  c == ',' || c == ':' || c == ']' || c == '}'

/-- Whether a number may go on with a character. -/
def inNumeral (c : Char) : Bool :=
  c.isDigit || c == '-' || c == '+' || c == '.' || c == 'e' || c == 'E'

/-- What comes does not go on with a number. -/
def EndsNumber (rest : List Char) : Prop :=
  ∀ c ∈ rest.head?, inNumeral c = false

/-- A mark comes, or the end. -/
def Stops (rest : List Char) : Prop :=
  ∀ c ∈ rest.head?, isMark c = true

/-- A mark is neither part of a number nor a blank. -/
theorem isMark_eq_true {c : Char} (hmark : isMark c = true) :
    inNumeral c = false ∧ isBlank c = false := by
  simp only [isMark, Bool.or_eq_true, beq_iff_eq] at hmark
  obtain ((rfl | rfl) | rfl) | rfl := hmark <;> decide

/-- A blank is no part of a number. -/
theorem isBlank_eq_true {c : Char} (hblank : isBlank c = true) : inNumeral c = false := by
  simp only [isBlank, Bool.or_eq_true, beq_iff_eq] at hblank
  obtain ((rfl | rfl) | rfl) | rfl := hblank <;> decide

/-! ### Blanks -/

/-- Blanks can be told from what comes behind them, if that is not blank. -/
theorem Blank.append_inj {before before' : List Char} (hblank : Blank before)
    (hblank' : Blank before') {rest rest' : List Char}
    (hbegins : ∀ c ∈ rest.head?, isBlank c = false)
    (hbegins' : ∀ c ∈ rest'.head?, isBlank c = false)
    (hsame : before ++ rest = before' ++ rest') : rest = rest' := by
  have hdropped {before rest : List Char} (hblank : Blank before)
      (hbegins : ∀ c ∈ rest.head?, isBlank c = false) :
      (before ++ rest).dropWhile isBlank = rest := by
    rw [List.dropWhile_append_of_pos hblank]
    cases rest with
    | nil => rfl
    | cons c rest => rw [List.dropWhile_cons_of_neg (by simp [hbegins c rfl])]
  rw [← hdropped hblank hbegins, hsame, hdropped hblank' hbegins']

/-- Behind a value come blanks, and then a mark or the end. -/
theorem Stops.endsNumber {after rest : List Char} (hstops : Stops rest) (hblank : Blank after) :
    EndsNumber (after ++ rest) := by
  cases after with
  | nil => exact fun c hmem ↦ (isMark_eq_true (hstops c hmem)).1
  | cons c after =>
    rintro d ⟨⟩
    exact isBlank_eq_true (hblank c List.mem_cons_self)

section Rows

variable {α : Type} {texts : α → List Char → Prop} {a b : α} {as bs : List α}

/-- No text begins with a blank or a mark. -/
def Begins (texts : α → List Char → Prop) : Prop :=
  ∀ a cs, texts a cs → ∃ c rest, cs = c :: rest ∧ isBlank c = false ∧ isMark c = false

/-- **Blanks around a value** do not hide it. -/
theorem Told.padded (htold : Told texts EndsNumber a) (hbegins : Begins texts) :
    Told (fun a ↦ Padded (texts a)) Stops a := by
  rintro b - - rest rest' ⟨before, core, after, rfl, hblank, htext, hblankAfter⟩
    ⟨before', core', after', rfl, hblank', htext', hblankAfter'⟩ hstops hstops' hsame
  rw [List.append_assoc, List.append_assoc, List.append_assoc, List.append_assoc] at hsame
  have hopens {b : α} {core tail : List Char} (htext : texts b core) :
      ∀ c ∈ (core ++ tail).head?, isBlank c = false := by
    obtain ⟨c, core, rfl, hvisible, -⟩ := hbegins b core htext
    rintro d ⟨⟩
    exact hvisible
  obtain ⟨rfl, hbehind⟩ := htold htext htext' (hstops.endsNumber hblankAfter)
    (hstops'.endsNumber hblankAfter')
    (hblank.append_inj hblank' (hopens htext) (hopens htext') hsame)
  have hvisible {rest : List Char} (hstops : Stops rest) : ∀ c ∈ rest.head?, isBlank c = false :=
    fun c hmem ↦ (isMark_eq_true (hstops c hmem)).2
  exact ⟨rfl, hblankAfter.append_inj hblankAfter' (hvisible hstops) (hvisible hstops') hbehind⟩

/-- A padded value and an empty row are not the same. -/
theorem Begins.padded_append_ne (hbegins : Begins texts) {cs blanks rest rest' : List Char}
    {close : Char} (hmark : isMark close = true) (htext : Padded (texts a) cs)
    (hblank : Blank blanks) : cs ++ rest ≠ blanks ++ close :: rest' := by
  rintro hsame
  obtain ⟨before, core, after, rfl, hblank', htext, -⟩ := htext
  obtain ⟨c, core, rfl, hvisible, hunmarked⟩ := hbegins a core htext
  rw [List.append_assoc] at hsame
  have hshown : ∀ d ∈ (close :: rest').head?, isBlank d = false := by
    rintro d ⟨⟩
    exact (isMark_eq_true hmark).2
  have hshown' : ∀ d ∈ (c :: core ++ after ++ rest).head?, isBlank d = false := by
    rintro d ⟨⟩
    exact hvisible
  have hfront := hblank'.append_inj hblank hshown' hshown hsame
  obtain rfl : c = close := (List.cons.inj hfront).1
  exact absurd (hmark.symm.trans hunmarked) (by decide)

/-- **A row of values** in front of its closing bracket shows all of them. -/
theorem Told.separated (htold : ∀ a ∈ as, Told texts EndsNumber a) (hbegins : Begins texts)
    {close : Char} (hmark : isMark close = true) (hother : close ≠ ',')
    {cs ds rest rest' : List Char} (hrow : Separated (as.map texts) cs)
    (hrow' : Separated (bs.map texts) ds) (hsame : cs ++ close :: rest = ds ++ close :: rest') :
    as = bs ∧ rest = rest' := by
  have hcomma {tail : List Char} : Stops (',' :: tail) := by rintro c ⟨⟩; rfl
  have hclosed {tail : List Char} : Stops (close :: tail) := by rintro c ⟨⟩; exact hmark
  -- along the first row: where one row ends, the other cannot go on, as a comma is not the bracket
  induction as generalizing bs cs ds with
  | nil =>
    match bs, hrow' with
    | [], hrow' =>
      have hshown {rest : List Char} : ∀ c ∈ (close :: rest).head?, isBlank c = false := by
        rintro c ⟨⟩
        exact (isMark_eq_true hmark).2
      have hfront := Blank.append_inj hrow hrow' hshown hshown hsame
      exact ⟨rfl, (List.cons.inj hfront).2⟩
    | [b], hrow' => exact absurd hsame.symm (hbegins.padded_append_ne hmark hrow' hrow)
    | b :: b' :: bs, ⟨first, others, hsplit, hfirst_b, _⟩ =>
      rw [hsplit, List.append_assoc] at hsame
      exact absurd hsame.symm (hbegins.padded_append_ne hmark hfirst_b hrow)
  | cons a as ih =>
    have htold_a := (htold a List.mem_cons_self).padded hbegins
    have htold_as := fun a hmem ↦ htold a (List.mem_cons_of_mem _ hmem)
    match as, bs, hrow, hrow' with
    | [], [], hrow, hrow' => exact absurd hsame (hbegins.padded_append_ne hmark hrow hrow')
    | a' :: as, [], ⟨first, others, hsplit, hfirst_a, _⟩, hrow' =>
      rw [hsplit, List.append_assoc] at hsame
      exact absurd hsame (hbegins.padded_append_ne hmark hfirst_a hrow')
    | [], [b], hrow, hrow' =>
      obtain ⟨rfl, hfront⟩ := htold_a hrow hrow' hclosed hclosed hsame
      exact ⟨rfl, (List.cons.inj hfront).2⟩
    | [], b :: b' :: bs, hrow, ⟨first, others, hsplit, hfirst_b, _⟩ =>
      rw [hsplit, List.append_assoc] at hsame
      have hfront := (htold_a hrow hfirst_b hclosed hcomma hsame).2
      exact absurd (List.cons.inj hfront).1 hother
    | a' :: as, [b], ⟨first, others, hsplit, hfirst_a, _⟩, hrow' =>
      rw [hsplit, List.append_assoc] at hsame
      have hfront := (htold_a hfirst_a hrow' hcomma hclosed hsame).2
      exact absurd (List.cons.inj hfront).1.symm hother
    | a' :: as, b :: b' :: bs, ⟨first, others, hsplit, hfirst_a, hrow⟩,
        ⟨first', others', hsplit', hfirst_b, hrow'⟩ =>
      rw [hsplit, hsplit', List.append_assoc, List.append_assoc] at hsame
      obtain ⟨rfl, hfront⟩ := htold_a hfirst_a hfirst_b hcomma hcomma hsame
      have hrow' : Separated ((b' :: bs).map texts) others' := hrow'
      obtain ⟨hrest_eq, htail⟩ := ih htold_as hrow hrow' (List.cons.inj hfront).2
      exact ⟨congrArg (a :: ·) hrest_eq, htail⟩

end Rows

/-! ### Strings -/

/-- A code is written with four digits, always. -/
theorem SpellsCode.length_eq {code : Nat} {digits : List Char} (hspells : SpellsCode code digits) :
    digits.length = 4 := by
  obtain ⟨high, low, hdecoded, -⟩ := hspells
  exact Hex.length_eq_of_decode? hdecoded

/-- So a code can be told from whatever comes behind it. -/
theorem SpellsCode.append_inj {code code' : Nat} {digits digits' rest rest' : List Char}
    (hspells : SpellsCode code digits) (hspells' : SpellsCode code' digits')
    (hsame : digits ++ rest = digits' ++ rest') : code = code' ∧ rest = rest' := by
  obtain ⟨rfl, hbehind⟩ :=
    List.append_inj hsame (hspells.length_eq.trans hspells'.length_eq.symm)
  obtain ⟨high, low, hdecoded, rfl⟩ := hspells
  obtain ⟨high', low', hdecoded', rfl⟩ := hspells'
  obtain ⟨rfl, rfl⟩ : high = high' ∧ low = low' := by
    simpa using hdecoded.symm.trans hdecoded'
  exact ⟨rfl, hbehind⟩

/-- No character has the code of a surrogate. -/
theorem toNat_ne_surrogate (c : Char) {high : Nat} (hbelow : high < 0x400) :
    c.toNat ≠ 0xD800 + high := by
  have hvalid : c.toNat < 0xD800 ∨ 0xDFFF < c.toNat ∧ c.toNat < 0x110000 := c.valid
  omega

/-- **A character can be told** from the way it stands in a string. -/
theorem SpellsChar.append_inj {c c' : Char} {cs ds rest rest' : List Char}
    (hspells : SpellsChar c cs) (hspells' : SpellsChar c' ds) (hsame : cs ++ rest = ds ++ rest') :
    c = c' ∧ rest = rest' := by
  -- two ways to write a character differ within their first two characters, or both write codes
  cases hspells with
  | plain _ _ hnotEscaped =>
    cases hspells' with
    | plain => exact List.cons.inj hsame
    | short | code | pair => exact absurd (List.cons.inj hsame).1 hnotEscaped
  | short hletter =>
    cases hspells' with
    | plain _ _ hnotEscaped => exact absurd (List.cons.inj hsame).1.symm hnotEscaped
    | short hletter' =>
      obtain ⟨rfl, hbehind⟩ := List.cons.inj (List.cons.inj hsame).2
      exact ⟨Option.some.inj (hletter.symm.trans hletter'), hbehind⟩
    | code | pair =>
      obtain ⟨rfl, -⟩ := List.cons.inj (List.cons.inj hsame).2
      cases hletter
  | code hdigits =>
    cases hspells' with
    | plain _ _ hnotEscaped => exact absurd (List.cons.inj hsame).1.symm hnotEscaped
    | short hletter' =>
      obtain ⟨rfl, -⟩ := List.cons.inj (List.cons.inj hsame).2
      cases hletter'
    | code hdigits' =>
      obtain ⟨hcodes, hbehind⟩ :=
        hdigits.append_inj hdigits' (List.cons.inj (List.cons.inj hsame).2).2
      exact ⟨Char.toNat_inj.1 hcodes, hbehind⟩
    | pair hfirst hbelow =>
      simp only [List.cons_append, List.append_assoc] at hsame
      have hfront := (List.cons.inj (List.cons.inj hsame).2).2
      exact absurd (hdigits.append_inj hfirst hfront).1 (toNat_ne_surrogate c hbelow)
  | pair hfirst hbelow hsecond hbelow' hsum =>
    simp only [List.cons_append, List.append_assoc] at hsame
    cases hspells' with
    | plain _ _ hnotEscaped => exact absurd (List.cons.inj hsame).1.symm hnotEscaped
    | short hletter' =>
      obtain ⟨rfl, -⟩ := List.cons.inj (List.cons.inj hsame).2
      cases hletter'
    | code hdigits' =>
      have hfront := (List.cons.inj (List.cons.inj hsame).2).2
      exact absurd (hfirst.append_inj hdigits' hfront).1.symm (toNat_ne_surrogate c' hbelow)
    | pair hfirst' _ hsecond' _ hsum' =>
      simp only [List.cons_append, List.append_assoc] at hsame
      have hfront := (List.cons.inj (List.cons.inj hsame).2).2
      obtain ⟨hhigh, hfront⟩ := hfirst.append_inj hfirst' hfront
      obtain ⟨hlow, hbehind⟩ :=
        hsecond.append_inj hsecond' (List.cons.inj (List.cons.inj hfront).2).2
      exact ⟨Char.toNat_inj.1 (by omega), hbehind⟩

/-- No character of a string begins with its closing quote: a quote within is escaped. -/
theorem SpellsChar.head_ne_quote {c : Char} {cs : List Char} (hspells : SpellsChar c cs)
    (rest : List Char) : (cs ++ rest).head? ≠ some '"' := by
  cases hspells with
  | plain _ hnotQuote _ => exact fun hquote ↦ hnotQuote (Option.some.inj hquote)
  | short | code | pair => nofun

/-- Characters in front of a closing quote. -/
theorem SpellsChars.append_inj {text text' cs ds rest rest' : List Char}
    (hspells : SpellsChars text cs) (hspells' : SpellsChars text' ds)
    (hsame : cs ++ '"' :: rest = ds ++ '"' :: rest') : text = text' ∧ rest = rest' := by
  induction hspells generalizing text' ds with
  | nil =>
    cases hspells' with
    | nil => exact ⟨rfl, (List.cons.inj hsame).2⟩
    | cons hchar hothers =>
      rw [List.append_assoc] at hsame
      exact absurd (congrArg List.head? hsame).symm (hchar.head_ne_quote _)
  | cons hchar _ ih =>
    cases hspells' with
    | nil =>
      rw [List.append_assoc] at hsame
      exact absurd (congrArg List.head? hsame) (hchar.head_ne_quote _)
    | cons hchar' hothers' =>
      rw [List.append_assoc, List.append_assoc] at hsame
      obtain ⟨rfl, hbehind⟩ := hchar.append_inj hchar' hsame
      obtain ⟨rfl, hbehind⟩ := ih hothers' hbehind
      exact ⟨rfl, hbehind⟩

/-- **A string can be told** before anything. -/
theorem told_spellsString (text : String) : Told SpellsString EndsNumber text := by
  rintro text' - - rest rest' ⟨body, rfl, hspells⟩ ⟨body', rfl, hspells'⟩ - - hsame
  simp only [List.cons_append, List.append_assoc, List.nil_append] at hsame
  obtain ⟨hchars, hbehind⟩ := hspells.append_inj hspells' (List.cons.inj hsame).2
  exact ⟨String.toList_inj.1 hchars, hbehind⟩

/-- A string opens with a quote. -/
theorem begins_spellsString : Begins SpellsString := by
  rintro text - ⟨body, rfl, -⟩
  exact ⟨'"', _, rfl, rfl, rfl⟩

/-! ### Numbers -/

/-- Digits belong to a number. -/
theorem Digits.inNumeral {cs : List Char} (hdigits : Digits cs) :
    ∀ c ∈ cs, inNumeral c = true := by
  intro c hmem
  simp [Json.inNumeral, hdigits.2 c hmem]

/-- All characters of a number belong to it, so it ends before the first that does not. -/
theorem IsNumeral.inNumeral {cs : List Char} (hnumeral : IsNumeral cs) :
    ∀ c ∈ cs, inNumeral c = true := by
  obtain ⟨minus, whole, fraction, exponent, rfl, hsign, ⟨hdigits, -⟩, hpoint, hmark⟩ := hnumeral
  simp only [List.forall_mem_append]
  refine ⟨?_, hdigits.inNumeral, ?_, ?_⟩
  · obtain rfl | rfl := hsign <;> simp [Json.inNumeral]
  · obtain rfl | ⟨digits, rfl, hdigits⟩ := hpoint
    · simp
    · exact List.forall_mem_cons.2 ⟨rfl, hdigits.inNumeral⟩
  · obtain rfl | ⟨mark, sign, digits, rfl, hmark, hsign, hdigits⟩ := hmark
    · simp
    · refine List.forall_mem_cons.2 ⟨?_, List.forall_mem_append.2 ⟨?_, hdigits.inNumeral⟩⟩
      · obtain rfl | rfl := hmark <;> rfl
      · obtain rfl | rfl | rfl := hsign <;> simp [Json.inNumeral]

/-- **A number can be told** before anything that cannot belong to it. -/
theorem told_number (value : Int) : Told (fun value ↦ Spells (.number value)) EndsNumber value := by
  rintro value' cs ds rest rest' hspells hspells' hends hends' hsame
  obtain ⟨hnumeral, hvalued⟩ : IsNumeral cs ∧ numeralValue cs = value := by
    simpa only [Spells] using hspells
  obtain ⟨hnumeral', hvalued'⟩ : IsNumeral ds ∧ numeralValue ds = value' := by
    simpa only [Spells] using hspells'
  have htaken {cs rest : List Char} (hnumeral : IsNumeral cs) (hends : EndsNumber rest) :
      (cs ++ rest).takeWhile inNumeral = cs := by
    rw [List.takeWhile_append_of_pos hnumeral.inNumeral]
    cases rest with
    | nil => exact List.append_nil cs
    | cons c rest => rw [List.takeWhile_cons_of_neg (by simp [hends c rfl]), List.append_nil]
  obtain rfl : cs = ds := by rw [← htaken hnumeral hends, hsame, htaken hnumeral' hends']
  exact ⟨Int.cast_injective (hvalued.symm.trans hvalued'), List.append_cancel_left hsame⟩

/-! ### Values -/

/-- The texts of a member of an object. -/
def SpellsMember (member : String × Json) (cs : List Char) : Prop :=
  ∃ first before after second, cs = first ++ (before ++ ':' :: (after ++ second)) ∧
    SpellsString member.1 first ∧ Blank before ∧ Blank after ∧ Spells member.2 second

/-- The texts of a list of values, as a map. -/
theorem spellsItems_eq_map (items : List Json) : spellsItems items = items.map Spells := by
  induction items with
  | nil => simp only [spellsItems, List.map_nil]
  | cons item rest ih => simp only [spellsItems, List.map_cons, ih]

/-- The texts of a list of members, as a map. -/
theorem spellsMembers_eq_map (members : List (String × Json)) :
    spellsMembers members = members.map SpellsMember := by
  induction members with
  | nil => simp only [spellsMembers, List.map_nil]
  | cons member rest ih =>
    simp only [spellsMembers, List.map_cons, ih]
    rfl

/-- An array is a row of values between brackets. -/
theorem spells_array {items : List Json} {cs : List Char} : Spells (.array items) cs ↔
    ∃ body, cs = '[' :: (body ++ [']']) ∧ Separated (items.map Spells) body := by
  simp only [Spells, spellsItems_eq_map]

/-- An object is a row of members between braces. -/
theorem spells_object {members : List (String × Json)} {cs : List Char} :
    Spells (.object members) cs ↔
      ∃ body, cs = '{' :: (body ++ ['}']) ∧ Separated (members.map SpellsMember) body := by
  simp only [Spells, spellsMembers_eq_map]

/-- What the first character of a text tells: a digit or a minus that it is a number, and any other
character itself. -/
def hint (c : Char) : Char :=
  if c.isDigit || c == '-' then '0' else c

/-- The hint in the texts of a value. -/
def opening : Json → Char
  | .null => 'n'
  | .bool value => if value then 't' else 'f'
  | .number _ => '0'
  | .string _ => '"'
  | .array _ => '['
  | .object _ => '{'

/-- **The first character of a text** tells the kind of its value. -/
theorem Spells.opens {j : Json} {cs : List Char} (hspells : Spells j cs) :
    ∃ c rest, cs = c :: rest ∧ hint c = opening j := by
  cases j with
  | null =>
    simp only [Spells] at hspells
    exact ⟨'n', _, hspells, rfl⟩
  | bool value =>
    simp only [Spells] at hspells
    cases value with
    | false => exact ⟨'f', _, hspells, rfl⟩
    | true => exact ⟨'t', _, hspells, rfl⟩
  | number value =>
    simp only [Spells] at hspells
    obtain ⟨⟨minus, whole, fraction, exponent, rfl, hsign, ⟨⟨hsome, hdigits⟩, -⟩, -⟩, -⟩ := hspells
    obtain rfl | rfl := hsign
    · obtain ⟨c, whole, rfl⟩ := List.exists_cons_of_ne_nil hsome
      exact ⟨c, _, rfl, by simp [hint, opening, hdigits c List.mem_cons_self]⟩
    · exact ⟨'-', _, rfl, rfl⟩
  | string text =>
    simp only [Spells] at hspells
    obtain ⟨body, rfl, -⟩ := hspells
    exact ⟨'"', _, rfl, rfl⟩
  | array items =>
    obtain ⟨body, rfl, -⟩ := spells_array.1 hspells
    exact ⟨'[', _, rfl, rfl⟩
  | object members =>
    obtain ⟨body, rfl, -⟩ := spells_object.1 hspells
    exact ⟨'{', _, rfl, rfl⟩

/-- No value begins with a blank or a mark. -/
theorem begins_spells : Begins Spells := by
  intro j cs hspells
  obtain ⟨c, rest, rfl, htold⟩ := hspells.opens
  suffices hvisible : isBlank c = false ∧ isMark c = false from ⟨c, rest, rfl, hvisible⟩
  unfold hint at htold
  split at htold
  · next hnumber =>
    have hinside : inNumeral c = true := by
      simp only [Bool.or_eq_true] at hnumber
      obtain hdigit | hminus := hnumber <;> simp [inNumeral, *]
    constructor <;> by_contra hother <;> rw [Bool.not_eq_false] at hother
    · exact absurd (hinside.symm.trans (isBlank_eq_true hother)) (by decide)
    · exact absurd (hinside.symm.trans (isMark_eq_true hother).1) (by decide)
  · subst htold
    cases j with
    | bool value => cases value <;> decide
    | null | number | string | array | object => exact ⟨rfl, rfl⟩

/-- Values with the same text in front are of one kind. -/
theorem opening_eq {j j' : Json} {cs ds rest rest' : List Char} (hspells : Spells j cs)
    (hspells' : Spells j' ds) (hsame : cs ++ rest = ds ++ rest') : opening j = opening j' := by
  obtain ⟨c, cs, rfl, htold⟩ := hspells.opens
  obtain ⟨c', ds, rfl, htold'⟩ := hspells'.opens
  obtain rfl : c = c' := (List.cons.inj hsame).1
  exact htold.symm.trans htold'

/-- **A member can be told** if its value can. -/
theorem told_spellsMember {member : String × Json} (htold : Told Spells EndsNumber member.2) :
    Told SpellsMember EndsNumber member := by
  rintro member' - - rest rest' ⟨first, before, after, second, rfl, hname, hblank, hblank', hvalue⟩
    ⟨first', before', after', second', rfl, hname', hblank₁, hblank₁', hvalue'⟩ hends hends' hsame
  simp only [List.append_assoc, List.cons_append] at hsame
  have hcolon {tail : List Char} : Stops (':' :: tail) := by rintro c ⟨⟩; rfl
  have hshown {tail : List Char} : ∀ c ∈ (':' :: tail).head?, isBlank c = false := by
    rintro c ⟨⟩
    rfl
  have hopens {j : Json} {second tail : List Char} (hvalue : Spells j second) :
      ∀ c ∈ (second ++ tail).head?, isBlank c = false := by
    obtain ⟨c, core, rfl, hvisible, -⟩ := begins_spells j second hvalue
    rintro d ⟨⟩
    exact hvisible
  obtain ⟨hnames, hbehind⟩ := told_spellsString member.1 hname hname' (hcolon.endsNumber hblank)
    (hcolon.endsNumber hblank₁) hsame
  have hvalues := (List.cons.inj (hblank.append_inj hblank₁ hshown hshown hbehind)).2
  obtain ⟨hsame_value, htail⟩ := htold hvalue hvalue' hends hends'
    (hblank'.append_inj hblank₁' (hopens hvalue) (hopens hvalue') hvalues)
  exact ⟨Prod.ext hnames hsame_value, htail⟩

/-- A member begins with its name, a string. -/
theorem begins_spellsMember : Begins SpellsMember := by
  rintro member - ⟨first, before, after, second, rfl, hname, -⟩
  obtain ⟨c, first, rfl, hvisible⟩ := begins_spellsString member.1 first hname
  exact ⟨c, _, rfl, hvisible⟩

/-- **Every value can be told** before anything that cannot belong to a number. The induction is on
the value: its text opens as no text of another kind does, and its parts can be told in turn. -/
theorem told_spells (j : Json) : Told Spells EndsNumber j := by
  intro j' cs ds rest rest' hspells hspells' hends hends' hsame
  have hkind := opening_eq hspells hspells' hsame
  -- values of two kinds open differently, so only the case of the same kind says something
  induction j using Json.induct generalizing j' cs ds rest rest' with
  | null =>
    cases j' with
    | null =>
      simp only [Spells] at hspells hspells'
      subst hspells hspells'
      exact ⟨rfl, List.append_cancel_left hsame⟩
    | bool value => cases value <;> cases hkind
    | number | string | array | object => cases hkind
  | bool value =>
    cases j' with
    | bool value' =>
      obtain rfl : value = value' := by cases value <;> cases value' <;> first | rfl | cases hkind
      simp only [Spells] at hspells hspells'
      subst hspells hspells'
      exact ⟨rfl, List.append_cancel_left hsame⟩
    | null | number | string | array | object => cases value <;> cases hkind
  | number value =>
    cases j' with
    | number value' =>
      obtain ⟨rfl, hbehind⟩ := told_number value hspells hspells' hends hends' hsame
      exact ⟨rfl, hbehind⟩
    | bool value' => cases value' <;> cases hkind
    | null | string | array | object => cases hkind
  | string text =>
    cases j' with
    | string text' =>
      simp only [Spells] at hspells hspells'
      obtain ⟨rfl, hbehind⟩ := told_spellsString text hspells hspells' hends hends' hsame
      exact ⟨rfl, hbehind⟩
    | bool value' => cases value' <;> cases hkind
    | null | number | array | object => cases hkind
  | array items ih =>
    cases j' with
    | array items' =>
      obtain ⟨body, rfl, hrow⟩ := spells_array.1 hspells
      obtain ⟨body', rfl, hrow'⟩ := spells_array.1 hspells'
      have htold : ∀ item ∈ items, Told Spells EndsNumber item :=
        fun item hmem j' cs ds rest rest' hspells hspells' hends hends' hsame ↦
          ih item hmem hspells hspells' hends hends' hsame (opening_eq hspells hspells' hsame)
      simp only [List.cons_append, List.append_assoc, List.nil_append] at hsame
      have hmark : isMark ']' = true := rfl
      obtain ⟨rfl, hbehind⟩ :=
        Told.separated htold begins_spells hmark (by decide) hrow hrow' (List.cons.inj hsame).2
      exact ⟨rfl, hbehind⟩
    | bool value' => cases value' <;> cases hkind
    | null | number | string | object => cases hkind
  | object members ih =>
    cases j' with
    | object members' =>
      obtain ⟨body, rfl, hrow⟩ := spells_object.1 hspells
      obtain ⟨body', rfl, hrow'⟩ := spells_object.1 hspells'
      have htold : ∀ member ∈ members, Told SpellsMember EndsNumber member :=
        fun member hmem ↦ told_spellsMember
          fun j' cs ds rest rest' hspells hspells' hends hends' hsame ↦
            ih member hmem hspells hspells' hends hends' hsame (opening_eq hspells hspells' hsame)
      simp only [List.cons_append, List.append_assoc, List.nil_append] at hsame
      have hmark : isMark '}' = true := rfl
      obtain ⟨rfl, hbehind⟩ :=
        Told.separated htold begins_spellsMember hmark (by decide) hrow hrow'
          (List.cons.inj hsame).2
      exact ⟨rfl, hbehind⟩
    | bool value' => cases value' <;> cases hkind
    | null | number | string | array => cases hkind

/-- **A text denotes at most one value.** -/
theorem Denotes.unique {text : String} {j j' : Json} (hdenotes : Denotes text j)
    (hdenotes' : Denotes text j') : j = j' := by
  have hstops : Stops [] := nofun
  exact ((told_spells j).padded begins_spells hdenotes hdenotes' hstops hstops rfl).1

end BeaconGateway.Json

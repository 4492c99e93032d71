import BeaconGateway.Json
import Mathlib.Data.Rat.Defs

/-!
# The grammar of JSON

What a JSON text says is told here without a word about how the gateway writes or anyone reads one.
The grammar has all the freedom that JSON leaves: blanks around every value and every mark, three
ways to write a character of a string, and numbers with a fraction or an exponent. A text denotes a
value of `Json` if the grammar derives it and the numbers in it are the integers of the value.

The text between the brackets of an array or an object is a row of pieces with commas between them,
so the grammar maps an array to the languages of its items, as `Json.write` maps it to their
characters. An induction over values follows from this shape once, as `Json.induct`.

## Main definitions

* `Json.Blank`, `Json.Padded`, `Json.Separated` — blanks, and rows of pieces;
* `Json.SpellsChar`, `Json.SpellsString` — the characters of a string;
* `Json.IsNumeral`, `Json.numeralValue` — numbers;
* `Json.Spells` — the texts of a value;
* `Json.Denotes` — a whole text and its value.
-/

namespace BeaconGateway.Json

/-! ### Blanks and rows -/

/-- A space, a tab, a line feed or a carriage return. -/
def isBlank (c : Char) : Bool :=
  c == ' ' || c == '\t' || c == '\n' || c == '\r'

/-- Blanks and nothing else. -/
def Blank (cs : List Char) : Prop :=
  ∀ c ∈ cs, isBlank c = true

theorem blank_nil : Blank [] :=
  List.forall_mem_nil _

/-- A text of a language with blanks around it. -/
def Padded (language : List Char → Prop) (cs : List Char) : Prop :=
  ∃ before core after, cs = before ++ (core ++ after) ∧ Blank before ∧ language core ∧ Blank after

/-- One text of each of some languages, with commas between them and blanks around each. -/
def Separated : List (List Char → Prop) → List Char → Prop
  | [], cs => Blank cs
  | [language], cs => Padded language cs
  | language :: next :: rest, cs =>
    ∃ first others, cs = first ++ ',' :: others ∧ Padded language first ∧
      Separated (next :: rest) others

/-! ### Strings -/

/-- The characters that have a short escape, each behind the letter that stands for it. -/
def shortEscapes : List (Char × Char) :=
  [('"', '"'), ('\\', '\\'), ('/', '/'), ('b', '\x08'), ('f', '\x0c'), ('n', '\n'), ('r', '\r'),
    ('t', '\t')]

/-- Four hexadecimal digits and the code that they stand for. -/
def SpellsCode (code : Nat) (digits : List Char) : Prop :=
  ∃ high low, Hex.decode? digits = some [high, low] ∧ code = 256 * high.toNat + low.toNat

/-- **How a character may stand in a string.** -/
inductive SpellsChar : Char → List Char → Prop where
  /-- As itself, unless it is a control character, a quote or a backslash. -/
  | plain {c : Char} : 32 ≤ c.toNat → c ≠ '"' → c ≠ '\\' → SpellsChar c [c]
  /-- As a letter behind a backslash. -/
  | short {c letter : Char} : shortEscapes.lookup letter = some c → SpellsChar c ['\\', letter]
  /-- As its code. -/
  | code {c : Char} {digits : List Char} :
    SpellsCode c.toNat digits → SpellsChar c ('\\' :: 'u' :: digits)
  /-- As a pair of surrogates, if its code has more than four digits. -/
  | pair {c : Char} {high low : Nat} {first second : List Char} :
    SpellsCode (0xD800 + high) first → high < 0x400 →
    SpellsCode (0xDC00 + low) second → low < 0x400 →
    c.toNat = 0x10000 + 0x400 * high + low →
    SpellsChar c ('\\' :: 'u' :: (first ++ '\\' :: 'u' :: second))

/-- How characters may stand in a string, one after another. -/
inductive SpellsChars : List Char → List Char → Prop where
  | nil : SpellsChars [] []
  | cons {c : Char} {text first others : List Char} :
    SpellsChar c first → SpellsChars text others → SpellsChars (c :: text) (first ++ others)

/-- A string between quotes. -/
def SpellsString (text : String) (cs : List Char) : Prop :=
  ∃ body, cs = '"' :: (body ++ ['"']) ∧ SpellsChars text.toList body

/-! ### Numbers -/

/-- Digits, and one at least. -/
def Digits (cs : List Char) : Prop :=
  cs ≠ [] ∧ ∀ c ∈ cs, c.isDigit = true

/-- **A number**: a minus or none, digits without a needless zero in front, and perhaps a fraction
and an exponent. -/
def IsNumeral (cs : List Char) : Prop :=
  ∃ minus whole fraction exponent, cs = minus ++ (whole ++ (fraction ++ exponent)) ∧
    (minus = [] ∨ minus = ['-']) ∧
    (Digits whole ∧ (whole.head? = some '0' → whole = ['0'])) ∧
    (fraction = [] ∨ ∃ digits, fraction = '.' :: digits ∧ Digits digits) ∧
    (exponent = [] ∨ ∃ mark sign digits, exponent = mark :: (sign ++ digits) ∧
      (mark = 'e' ∨ mark = 'E') ∧ (sign = [] ∨ sign = ['-'] ∨ sign = ['+']) ∧ Digits digits)

/-- The value of digits behind a sign or none. -/
def signedValue : List Char → Int
  | '-' :: digits => -(Decimal.value digits : Int)
  | '+' :: digits => Decimal.value digits
  | digits => Decimal.value digits

/-- The value of a number without its sign: that of all digits before the exponent, moved by the
digits of the fraction and by the exponent. -/
def magnitude (cs : List Char) : ℚ :=
  let mantissa := cs.takeWhile fun c ↦ c != 'e' && c != 'E'
  let exponent := (cs.drop mantissa.length).tail
  let whole := mantissa.takeWhile (· != '.')
  let fraction := (mantissa.drop whole.length).tail
  Decimal.value (whole ++ fraction) * (10 : ℚ) ^ (signedValue exponent - fraction.length)

/-- The value of a number. -/
def numeralValue : List Char → ℚ
  | '-' :: cs => -magnitude cs
  | cs => magnitude cs

/-! ### Values -/

mutual

/-- **The texts of a value.** -/
def Spells : Json → List Char → Prop
  | .null, cs => cs = "null".toList
  | .bool value, cs => cs = (if value then "true" else "false").toList
  | .number value, cs => IsNumeral cs ∧ numeralValue cs = value
  | .string text, cs => SpellsString text cs
  | .array items, cs => ∃ body, cs = '[' :: (body ++ [']']) ∧ Separated (spellsItems items) body
  | .object members, cs =>
    ∃ body, cs = '{' :: (body ++ ['}']) ∧ Separated (spellsMembers members) body

/-- The texts of each item. -/
def spellsItems : List Json → List (List Char → Prop)
  | [] => []
  | item :: rest => Spells item :: spellsItems rest

/-- The texts of each member: its name, a colon and its value, with blanks around the colon. -/
def spellsMembers : List (String × Json) → List (List Char → Prop)
  | [] => []
  | (name, value) :: rest =>
    (fun cs ↦ ∃ first before after second, cs = first ++ (before ++ ':' :: (after ++ second)) ∧
      SpellsString name first ∧ Blank before ∧ Blank after ∧ Spells value second) ::
      spellsMembers rest

end

/-- **A whole text and its value**: a text of the value with blanks around it. -/
def Denotes (text : String) (j : Json) : Prop :=
  Padded (Spells j) text.toList

/-! ### Induction over values -/

section Induction

variable {P : Json → Prop}

mutual

/-- **Induction over values**: an array has what all its items have, and an object what all the
values of its members have. -/
theorem induct (null : P .null) (bool : ∀ value, P (.bool value))
    (number : ∀ value, P (.number value)) (string : ∀ text, P (.string text))
    (array : ∀ items, (∀ item ∈ items, P item) → P (.array items))
    (object : ∀ members, (∀ member ∈ members, P member.2) → P (.object members)) : ∀ j, P j
  | .null => null
  | .bool value => bool value
  | .number value => number value
  | .string text => string text
  | .array items => array items (induct_items null bool number string array object items)
  | .object members =>
    object members (induct_members null bool number string array object members)

theorem induct_items (null : P .null) (bool : ∀ value, P (.bool value))
    (number : ∀ value, P (.number value)) (string : ∀ text, P (.string text))
    (array : ∀ items, (∀ item ∈ items, P item) → P (.array items))
    (object : ∀ members, (∀ member ∈ members, P member.2) → P (.object members)) :
    ∀ items : List Json, ∀ item ∈ items, P item
  | [] => List.forall_mem_nil _
  | item :: rest => List.forall_mem_cons.2
    ⟨induct null bool number string array object item,
      induct_items null bool number string array object rest⟩

theorem induct_members (null : P .null) (bool : ∀ value, P (.bool value))
    (number : ∀ value, P (.number value)) (string : ∀ text, P (.string text))
    (array : ∀ items, (∀ item ∈ items, P item) → P (.array items))
    (object : ∀ members, (∀ member ∈ members, P member.2) → P (.object members)) :
    ∀ members : List (String × Json), ∀ member ∈ members, P member.2
  | [] => List.forall_mem_nil _
  | (_, value) :: rest => List.forall_mem_cons.2
    ⟨induct null bool number string array object value,
      induct_members null bool number string array object rest⟩

end

end Induction

end BeaconGateway.Json

import BeaconGateway.Text.Decimal
import BeaconGateway.Text.Hex

/-!
# JSON values and their text

The documents that the gateway sends are JSON values with integer numbers, and so is its
configuration. An object keeps its members in the order given, repeated names included, because the
backend sees that order.

The text is compact: no blanks, `"` and `\` escaped, the five short escapes where they exist,
other control characters below U+0020 as `\u00xx` in lower case, and everything else as it is.

## Main definitions

* `Json` — a JSON value;
* `Json.write` — its characters, `Json.render` — its text;
* `Json.optional` — the members of an object that are present;
* `Json.string?`, `Json.nat?`, `Json.fields?` and their like — reading a value.
-/

namespace BeaconGateway

/-- A JSON value whose numbers are integers. -/
inductive Json where
  /-- Nothing. -/
  | null
  /-- A truth value. -/
  | bool (value : Bool)
  /-- A number. -/
  | number (value : Int)
  /-- A string. -/
  | string (text : String)
  /-- An array. -/
  | array (items : List Json)
  /-- An object, its members in order. -/
  | object (members : List (String × Json))
  deriving Inhabited

namespace Json

/-- A natural number as a JSON number. -/
def nat (n : Nat) : Json :=
  .number (Int.ofNat n)

/-! ### Strings -/

/-- How a character stands inside a JSON string. -/
def escape (c : Char) : List Char :=
  if c = '"' then ['\\', '"']
  else if c = '\\' then ['\\', '\\']
  else if c = '\x08' then ['\\', 'b']
  else if c = '\x0c' then ['\\', 'f']
  else if c = '\n' then ['\\', 'n']
  else if c = '\r' then ['\\', 'r']
  else if c = '\t' then ['\\', 't']
  else if c.toNat < 32 then '\\' :: 'u' :: '0' :: '0' :: Hex.encodeByte .lower c.toNat.toUInt8
  else [c]

/-- A string between quotes. -/
def quote (cs : List Char) : List Char :=
  '"' :: (cs.flatMap escape ++ ['"'])

/-! ### Values -/

/-- Pieces with commas between them. -/
def commaSeparated : List (List Char) → List Char
  | [] => []
  | [piece] => piece
  | piece :: rest => piece ++ ',' :: commaSeparated rest

mutual

/-- The characters of a value. -/
def write : Json → List Char
  | .null => "null".toList
  | .bool value => (if value then "true" else "false").toList
  | .number value => Decimal.signedDigits value
  | .string text => quote text.toList
  | .array items => '[' :: (commaSeparated (writeItems items) ++ [']'])
  | .object members => '{' :: (commaSeparated (writeMembers members) ++ ['}'])

/-- The characters of each item. -/
def writeItems : List Json → List (List Char)
  | [] => []
  | item :: rest => item.write :: writeItems rest

/-- The characters of each member: its name, a colon and its value. -/
def writeMembers : List (String × Json) → List (List Char)
  | [] => []
  | (name, value) :: rest => (quote name.toList ++ ':' :: value.write) :: writeMembers rest

end

/-- The text of a value. -/
def render (j : Json) : String :=
  String.ofList j.write

/-- A member that is left out if it has no value. -/
def optional (name : String) (value : Option Json) : List (String × Json) :=
  value.toList.map fun v ↦ (name, v)

/-! ### Reading -/

/-- The truth value that a value is. -/
def bool? : Json → Option Bool
  | .bool value => some value
  | _ => none

/-- The text that a value is. -/
def string? : Json → Option String
  | .string text => some text
  | _ => none

/-- The integer between two bounds that a value is. -/
def between? (low high : Int) : Json → Option Int
  | .number value => if low ≤ value ∧ value ≤ high then some value else none
  | _ => none

/-- The natural number up to a largest one that a value is. -/
def nat? (largest : Nat) (j : Json) : Option Nat :=
  (j.between? 0 largest).map Int.toNat

/-- The values under some names in an object, whatever else it holds; or the items of an array with
as many items as there are names. -/
def fields? (names : List String) : Json → Option (List Json)
  | .object members => names.mapM fun name ↦ members.lookup name
  | .array items => if items.length = names.length then some items else none
  | _ => none

/-- The name of a choice: a string, or an object whose only member has that name and no value. -/
def choice? : Json → Option String
  | .string text => some text
  | .object [(name, .null)] => some name
  | _ => none

end Json

end BeaconGateway

/-!
# Bounded text

Settings and names have a capacity in UTF-8 bytes. A text over its capacity is cut at the last
whole character that fits; it is never cut inside a character, and no later character is taken in
place of one that did not fit.

## Main definitions

* `fittingPrefix` — the characters kept;
* `BoundedText` — text with a proof that it fits;
* `BoundedText.truncate` — cutting a text to a capacity;
* `BoundedText.ofString?` — accepting a text only if it fits as it is.
-/

namespace BeaconGateway

/-- The longest run of leading characters that takes at most `room` bytes. -/
def fittingPrefix : Nat → List Char → List Char
  | _, [] => []
  | room, c :: rest =>
    if c.utf8Size ≤ room then c :: fittingPrefix (room - c.utf8Size) rest else []

/-- What is kept fits. -/
theorem utf8ByteSize_fittingPrefix_le (room : Nat) (cs : List Char) :
    (String.ofList (fittingPrefix room cs)).utf8ByteSize ≤ room := by
  fun_induction fittingPrefix room cs with
  | case1 => exact Nat.zero_le _
  | case2 room c rest h ih =>
    rw [String.ofList_cons, String.utf8ByteSize_append, String.utf8ByteSize_singleton]
    omega
  | case3 => exact Nat.zero_le _

/-- Text of at most `cap` bytes in UTF-8. -/
structure BoundedText (cap : Nat) where
  /-- The text itself. -/
  text : String
  /-- It takes at most `cap` bytes. -/
  fits : text.utf8ByteSize ≤ cap
  deriving DecidableEq

namespace BoundedText

variable {cap : Nat}

/-- The empty text fits any capacity. -/
def empty : BoundedText cap :=
  ⟨"", Nat.zero_le cap⟩

/-- Cut a text to a capacity, at the last whole character that fits. -/
def truncate (cap : Nat) (s : String) : BoundedText cap where
  text := String.ofList (fittingPrefix cap s.toList)
  fits := utf8ByteSize_fittingPrefix_le cap s.toList

/-- Accept a text only if it fits as it is. -/
def ofString? (cap : Nat) (s : String) : Option (BoundedText cap) :=
  if h : s.utf8ByteSize ≤ cap then some ⟨s, h⟩ else none

/-- Whether there is no text. -/
def isEmpty (t : BoundedText cap) : Bool :=
  t.text.isEmpty

end BoundedText

end BeaconGateway

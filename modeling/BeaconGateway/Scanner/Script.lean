import BeaconGateway.Scanner.Receiver

/-!
# Prepared reads

A serial link that gives prepared chunks, to try the receiver without a scanner. One read takes at
most so many bytes and leaves the rest of the chunk to the next; a chunk may also be a failure.

## Main definitions

* `LinkScript` — the chunks that are left;
* `LinkScript.read` — one read; `Receiver.pollScript` — one read of a receiver.
-/

namespace BeaconGateway

/-- What one read gives. -/
abbrev LinkRead := Except CommsError (List UInt8)

/-- The chunks that are left. -/
structure LinkScript where
  /-- The chunks, the next one first. -/
  chunks : List LinkRead

namespace LinkScript

/-- Bytes in pieces that one read takes each. -/
def pieces (bytes : List UInt8) : List (List UInt8) :=
  if bytes.length ≤ Receiver.readSize then [bytes]
  else bytes.take Receiver.readSize :: pieces (bytes.drop Receiver.readSize)
termination_by bytes.length
decreasing_by simp only [Receiver.readSize, List.length_drop] at *; omega

/-- The reads of a chunk. -/
def split : LinkRead → List LinkRead
  | .error cause => [.error cause]
  | .ok bytes => (pieces bytes).map .ok

/-- Prepare a chunk to be read after the others. -/
def append (s : LinkScript) (chunk : LinkRead) : LinkScript :=
  ⟨s.chunks ++ split chunk⟩

/-- One read; nothing is read once the chunks are used up. -/
def read (s : LinkScript) : LinkRead × LinkScript :=
  match s.chunks with
  | [] => (.ok [], s)
  | chunk :: chunks => (chunk, ⟨chunks⟩)

end LinkScript

namespace Receiver

variable {n : Nat}

/-- One read from a prepared link. -/
def pollScript (r : Receiver n) (unixTime : Option UInt32) (s : LinkScript) :
    Except Error Nat × Receiver n × LinkScript :=
  let (chunk, s) := s.read
  let (result, r) := r.poll unixTime chunk
  (result, r, s)

/-- Read until the chunks are used up. -/
def runScript (r : Receiver n) (unixTime : Option UInt32) (s : LinkScript) :
    Receiver n × LinkScript :=
  (r.run unixTime s.chunks, ⟨[]⟩)

end Receiver

end BeaconGateway

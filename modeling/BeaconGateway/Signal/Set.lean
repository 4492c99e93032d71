/-!
# Sets of signals

Each task has a vocabulary of at most 32 signals, numbered from zero. A set of them is a word with
one bit a signal; bits that no signal has are kept but say nothing. The signals of a set are
handled in ascending order of their numbers.

## Main definitions

* `SignalKind` — a vocabulary of signals;
* `SignalSet` — a set of signals, with `SignalSet.contains`, `SignalSet.insert` and
  `SignalSet.toList`;
* `SignalSet.text` — a set in writing.
-/

namespace BeaconGateway

/-- A vocabulary of at most 32 signals. -/
class SignalKind (σ : Type) where
  /-- Every signal, in ascending order. -/
  all : List σ
  /-- The number of a signal. -/
  index : σ → Nat
  /-- The name of a signal. -/
  name : σ → String
  /-- No signal is left out. -/
  mem_all : ∀ s, s ∈ all
  /-- There is a bit for every signal. -/
  index_lt : ∀ s, index s < 32
  /-- The order is that of the numbers, so no two signals share one. -/
  ascending : (all.map index).Pairwise (· < ·)

/-- The signal with a name. -/
def SignalKind.ofName? (σ : Type) [SignalKind σ] (name : String) : Option σ :=
  (SignalKind.all (σ := σ)).find? fun s ↦ SignalKind.name s == name

/-- A set of signals, one bit each. -/
structure SignalSet (σ : Type) where
  /-- The bits; bit `i` stands for the signal with number `i`. -/
  bits : UInt32
  deriving DecidableEq

namespace SignalSet

variable {σ : Type} [SignalKind σ]

/-- The set of no signals. -/
def empty : SignalSet σ :=
  ⟨0⟩

/-- The bit of a signal. -/
def mask (s : σ) : UInt32 :=
  1 <<< UInt32.ofNat (SignalKind.index s)

/-- Add a signal. -/
def insert (set : SignalSet σ) (s : σ) : SignalSet σ :=
  ⟨set.bits ||| mask s⟩

/-- The set of the listed signals. -/
def ofList (signals : List σ) : SignalSet σ :=
  signals.foldl insert empty

/-- Whether a signal is in a set. -/
def contains (set : SignalSet σ) (s : σ) : Bool :=
  set.bits &&& mask s != 0

/-- Whether no bit is set. -/
def isEmpty (set : SignalSet σ) : Bool :=
  set.bits == 0

/-- The signals of a set in ascending order. -/
def toList (set : SignalSet σ) : List σ :=
  SignalKind.all.filter set.contains

/-- The names of the signals of a set, in braces. -/
def text (set : SignalSet σ) : String :=
  "\x7b" ++ ", ".intercalate (set.toList.map SignalKind.name) ++ "\x7d"

end SignalSet

end BeaconGateway

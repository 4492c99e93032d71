/-!
# The outside

What the gateway does beyond its own state, it asks of the outside: to post a document, to publish
a message, to write to the serial link. The outside is a value of any type, which may change with
each question, and the answer may depend on everything that came before. So a law that holds for
every outside holds for every order of successes and failures.

## Main definitions

* `Ask` — how questions of one kind are answered;
* `Ask.recorded` — the same answers, with a record of questions and answers beside the outside.
-/

namespace BeaconGateway

/-- How questions `κ` are answered with `α` by an outside `ω`, which each question may change. -/
abbrev Ask (κ α ω : Type) :=
  κ → ω → α × ω

/-- The same answers, with a record of questions and answers beside the outside. -/
def Ask.recorded {κ α ω : Type} (ask : Ask κ α ω) : Ask κ α (ω × List (κ × α)) :=
  fun question (outside, record) ↦
    let (answer, outside) := ask question outside
    (answer, outside, record ++ [(question, answer)])

end BeaconGateway

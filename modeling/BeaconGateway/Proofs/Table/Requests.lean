import BeaconGateway.Proofs.Table.Layout

/-!
# Runs of a table

What is asked of a table, as data, so that a run is a list. The table is locked for the whole of a
request, so the requests of any number of callers reach it one after the other: every interleaving
of their requests is one list.

`answerAll` runs a list of requests on anything that serves them, which is the table itself or a
description of it to compare it with. The invariant of the table holds after every run
(`exists_holds_after`).

A request is served in one step, so what is said of a step is said of a run by one induction over
its requests: an answer is as far along as its request (`length_answerAll`), and a run may be cut
anywhere (`answerAll_append`).
-/

namespace BeaconGateway

/-- What is asked of a table. -/
inductive TableRequest where
  /-- Take a report. -/
  | put (r : Report)
  /-- Hand over the pending reports, at most `capacity` of them. -/
  | drain (capacity : Nat)
  /-- List the reports by recency, at most `capacity` of them. -/
  | history (now : UInt32) (maxAge : Option UInt32) (capacity : Nat)
  /-- Count the devices that are known. -/
  | tracked
  /-- Count the reports that are pending. -/
  | pending

/-- What is answered. -/
inductive TableAnswer where
  /-- What became of a report. -/
  | put (outcome : Except TableError PutOutcome)
  /-- How many reports were pending, and those that were handed over. -/
  | drain (count : Nat) (reports : List Report)
  /-- The reports that were listed. -/
  | history (reports : List Report)
  /-- A number of devices or of reports. -/
  | count (number : Nat)

/-- The answers to requests in order, and the state after the last one. -/
def answerAll {σ : Type} (serve : σ → TableRequest → TableAnswer × σ) :
    σ → List TableRequest → List TableAnswer × σ
  | state, [] => ([], state)
  | state, request :: rest =>
    let (answer, next) := serve state request
    let (answers, last) := answerAll serve next rest
    (answer :: answers, last)

/-- Runs that follow each other. -/
theorem answerAll_append {σ : Type} (serve : σ → TableRequest → TableAnswer × σ) (state : σ)
    (before rest : List TableRequest) :
    (answerAll serve state (before ++ rest)).1 = (answerAll serve state before).1 ++
      (answerAll serve (answerAll serve state before).2 rest).1 := by
  induction before generalizing state with
  | nil => rfl
  | cons request before ih => exact congrArg (List.cons _) (ih _)

theorem length_answerAll {σ : Type} (serve : σ → TableRequest → TableAnswer × σ) (state : σ)
    (requests : List TableRequest) :
    (answerAll serve state requests).1.length = requests.length := by
  induction requests generalizing state with
  | nil => rfl
  | cons request rest ih => exact congrArg (· + 1) (ih _)

namespace ReportTable

variable {n : Nat} {t : ReportTable n} {L : Layout n}

/-- Serve one request. -/
def serve (t : ReportTable n) : TableRequest → TableAnswer × ReportTable n
  | .put r => (.put (t.put r).1, (t.put r).2)
  | .drain capacity => (.drain (t.drain capacity).1.1 (t.drain capacity).1.2, (t.drain capacity).2)
  | .history now maxAge capacity => (.history (t.history now maxAge capacity), t)
  | .tracked => (.count t.tracked, t)
  | .pending => (.count t.pending, t)

/-- The table after requests. -/
def after (t : ReportTable n) (requests : List TableRequest) : ReportTable n :=
  (answerAll serve t requests).2

@[simp]
theorem after_nil (t : ReportTable n) : t.after [] = t :=
  rfl

@[simp]
theorem after_cons (t : ReportTable n) (request : TableRequest) (rest : List TableRequest) :
    t.after (request :: rest) = (t.serve request).2.after rest :=
  rfl

theorem Holds.serve (h : t.Holds L) (request : TableRequest) :
    ∃ L', (t.serve request).2.Holds L' := by
  cases request with
  | put r =>
    obtain ⟨L', -, h'⟩ := h.put r
    exact ⟨L', h'⟩
  | drain capacity => exact ⟨_, (h.drain capacity).2⟩
  | history | tracked | pending => exact ⟨L, h⟩

theorem Holds.after (h : t.Holds L) (requests : List TableRequest) :
    ∃ L', (t.after requests).Holds L' := by
  induction requests generalizing t L with
  | nil => exact ⟨L, h⟩
  | cons request rest ih =>
    obtain ⟨L', h'⟩ := h.serve request
    exact ih h'

/-- **The invariant holds after every run** of a new table. -/
theorem exists_holds_after (requests : List TableRequest) :
    ∃ L, ((new : ReportTable n).after requests).Holds L :=
  holds_new.after requests

end ReportTable

end BeaconGateway

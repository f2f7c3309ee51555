import TimeProbe.Outcome

/-!
# Reports

A report is the list of entries of a run, in the order in which they were added,
until it is finalized. Counts, success and the printed lines are derived from it.
-/

namespace TimeProbe

/-- The outcome of one case. -/
structure Entry where
  name : String
  outcome : Outcome
deriving DecidableEq, Inhabited

namespace Entry

/-- The status line of an entry, without the details. -/
def statusLine (e : Entry) : String := e.outcome.kind.glyph ++ " " ++ e.name

/-- The lines below the status line: what a failure or an error says of itself,
where that is not empty. -/
def detailLines (e : Entry) : List String :=
  match e.outcome.kind with
  | .failed | .errored =>
    ([e.outcome.reason, e.outcome.detail].filterMap id).filterMap fun text =>
      if text.isEmpty then none else some (" ↳ " ++ text)
  | _ => []

/-- All lines of an entry. -/
def lines (e : Entry) : List String := e.statusLine :: e.detailLines

end Entry

/-- The entries of a run, and whether there will be more. -/
structure Report where
  entries : List Entry := []
  finalized : Bool := false
deriving DecidableEq, Inhabited

namespace Report

/-- The fault of an addition to a report that is finalized. -/
def finalizedFault (name : String) : Fault :=
  { kind := .reportFinalized
    message := "Report is finalized, cannot add " ++ name
    details := [("name", .text name)] }

/-- The report with one more entry. -/
def add (r : Report) (e : Entry) : Except Fault Report :=
  if r.finalized then .error (finalizedFault e.name)
  else .ok { r with entries := r.entries ++ [e] }

/-- The report to which nothing can be added any more. -/
def finalize (r : Report) : Report := { r with finalized := true }

/-- How many entries there are. -/
def total (r : Report) : Nat := r.entries.length

/-- How many entries have an outcome of a kind. -/
def count (r : Report) (kind : OutcomeKind) : Nat :=
  (r.entries.filter (·.outcome.kind = kind)).length

/-- Counts with one more of a kind. -/
def countOne (counts : List (OutcomeKind × Nat)) (kind : OutcomeKind) : List (OutcomeKind × Nat) :=
  counts.map fun (k, n) => (k, if k = kind then n + 1 else n)

/-- The counts of all kinds, taken entry by entry. -/
def counts (r : Report) : List (OutcomeKind × Nat) :=
  r.entries.foldl (fun counts e => countOne counts e.outcome.kind) (OutcomeKind.all.map (·, 0))

/-- Whether nothing failed and nothing went wrong. -/
def success (r : Report) : Bool := r.count .failed == 0 && r.count .errored == 0

/-- The line of the summary for one kind. -/
def summaryLine (r : Report) (kind : OutcomeKind) : String :=
  kind.glyph ++ " " ++ kind.label ++ s!": {r.count kind}"

/-- The lines of the summary. -/
def summaryLines (r : Report) : List String := OutcomeKind.all.map r.summaryLine

/-- All lines of a report: its entries, an empty line, and the summary. -/
def lines (r : Report) : List String :=
  r.entries.flatMap (·.lines) ++ "" :: r.summaryLines

end Report

end TimeProbe

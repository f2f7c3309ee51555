import TimeProbe.Case.Registry
import TimeProbe.Report.Console

/-!
# The runner

The cases of a registry run one after the other, each within the case timeout, and
every way in which a case can end becomes one entry of the report. Only the user's
interrupt ends the run.
-/

namespace TimeProbe.Run

/-- The bound for a single case: a nonzero choice wins over the configuration. -/
def caseTimeout (c : RunConfig) (choice : Option Binary64) : Binary64 :=
  match choice with
  | some seconds => if seconds.isNonzero then seconds else c.caseTimeout
  | none => c.caseTimeout

/-- Runs a case and tells its outcome. -/
def runCase (c : RunConfig) (limit : Binary64) (case : TestCase) : Run Outcome := do
  match ← attempt (within limit (case.run c)) with
  | .ok (some ()) => return .passed
  | .ok none => return .unfinished limit
  | .error f => ofExcept (Outcome.ofFault limit f)

/-- Runs cases, adds their entries to a report, and shows every entry at once. -/
def runCases (c : RunConfig) (limit : Binary64) (onResult : Entry → Run Unit) :
    List TestCase → Report → Run Report
  | [], report => return report.finalize
  | case :: rest, report => do
    let outcome ← runCase c limit case
    let entry : Entry := ⟨case.name, outcome⟩
    let report ← ofExcept (report.add entry)
    onResult entry
    runCases c limit onResult rest report

/-- Runs all cases of a registry. -/
def runRegistry (c : RunConfig) (choice : Option Binary64) (registry : Registry)
    (onResult : Entry → Run Unit) : Run Report :=
  runCases c (caseTimeout c choice) onResult registry.cases {}

/-- Prints lines. -/
def printAll (lines : List String) : Run Unit := lines.forM print

/-- Prepares a target, runs a registry against it, and prints the report. -/
def runTarget (c : RunConfig) (registry : Registry) (colours : Bool) : Run Report := do
  prepareTarget c
  let report ← runRegistry c none registry fun e => printAll (Console.entryLines colours e)
  printAll (Console.summaryLines colours report)
  return report

end TimeProbe.Run

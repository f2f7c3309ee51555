import TimeProbe.Catalog.All
import TimeProbe.Cli.Arguments
import TimeProbe.Config.TargetName
import TimeProbe.Config.Timeout
import TimeProbe.Logging
import TimeProbe.Runner

/-!
# The command

The command reads its arguments, configures a run, runs the chosen cases against the
target and prints the report. It ends with 0 if nothing failed, with 1 if something
did, and with 2 if there was no run.
-/

namespace TimeProbe.Cli

/-- The end of the command: its code, and what it wrote to the error stream. -/
structure Exit where
  code : Nat
  complaint : String := ""
deriving DecidableEq

namespace Exit

/-- Nothing failed. -/
def passed : Nat := 0

/-- Something failed. -/
def failed : Nat := 1

/-- There was no run, or it was broken off. -/
def noRun : Nat := 2

/-- The code for a report. -/
def ofReport (r : Report) : Exit := { code := if r.success then passed else failed }

/-- The end of a command that a fault of its configuration keeps from running. -/
def ofFault (f : Fault) : Exit := { code := noRun, complaint := "error: " ++ f.message ++ "\n" }

end Exit

/-- The fault of a timeout that was taken away: there is no text to read. -/
def noTimeout : Fault :=
  { kind := .type, message := "expected string or bytes-like object, got 'list'" }

/-- The configuration that arguments give. -/
def configure (settings : Settings) (a : Arguments) : Except Fault RunConfig :=
  if (a.caFile.isSome || .caFile ∈ a.emptied) && !a.nts then
    .error { kind := .configuration, message := "--ca-file requires --nts" }
  else if .timeout ∈ a.emptied then .error noTimeout
  else
    match Timeout.parse a.timeout with
    | .error e => .error e.fault
    | .ok timeout =>
      (RunConfig.ofTarget settings a.host
        { port := a.port
          timeout := some timeout
          ntsEnabled := some a.nts
          kePort := some a.kePort
          caFile := a.caFile
          caseTimeout := some a.caseTimeout
          unfit := a.emptied.filterMap Flag.field? }).mapError ConfigError.fault

/-- The fault of looking for a name's start where it was taken away. -/
def noStart : Fault :=
  { kind := .type, message := "tuple for startswith must only contain str, not list" }

/-- The cases to run: those that the starts of names select, and all cases if they select
none. The starts are tried in order for each name, and one that was taken away must never
be reached. -/
def chooseCases (only : List (Option String)) : Except Fault Registry :=
  let selected := Catalog.all.select ((only.takeWhile Option.isSome).filterMap id)
  if only.contains none && selected.names ≠ Catalog.all.names then .error noStart
  else .ok (if selected.cases.isEmpty then Catalog.all else selected)

/-- Whether the report is coloured. -/
def chooseColours (a : Arguments) (terminal : Bool) : Bool :=
  Console.useColours (if a.noColor then some false else none) terminal

/-- A run that ends with an exit: faults of the configuration and the user's interrupt
are an end, other faults stay faults. -/
def guarded (x : Run Exit) : Run Exit := do
  match ← Run.attempt x with
  | .ok exit => return exit
  | .error f =>
    if f.kind.isA .configuration then return Exit.ofFault f
    else if f.kind.isA .interrupt then return { code := Exit.noRun }
    else Run.fail f

/-- Runs cases. -/
def runCases (c : RunConfig) (a : Arguments) (cases : Registry) (terminal : Bool) : Run Exit :=
  guarded do
    return Exit.ofReport (← Run.runTarget c cases (chooseColours a terminal))

/-- What arguments ask for: a configuration and cases. -/
def plan (settings : Settings) (a : Arguments) : Except Fault (RunConfig × Registry) := do
  let c ← configure settings a
  let cases ← chooseCases a.only
  return (c, cases)

/-- Runs the command with arguments that were read. -/
def runArguments (a : Arguments) (terminal : Bool) : Run Exit := do
  let settings ← Run.read (·.settings)
  let _ ← Run.ofExcept
    (Logging.plan settings "pester" (if a.verbose then some Logging.debug else none))
  match plan settings a with
  | .error f => if f.kind.isA .configuration then return Exit.ofFault f else Run.fail f
  | .ok (c, cases) => runCases c a cases terminal

/-- Runs the command with the words of a command line. -/
def run (words : List String) (terminal : Bool) : Run Exit := do
  let settings ← Run.read (·.settings)
  match Arguments.parse settings words with
  | .ok a => runArguments a terminal
  | .error .help => do
    Run.printAll (helpLines settings)
    return { code := Exit.passed }
  | .error (.refused e) => return { code := Exit.noRun, complaint := e.text }

end TimeProbe.Cli

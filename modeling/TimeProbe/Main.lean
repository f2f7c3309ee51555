import TimeProbe.Cli.Command
import TimeProbe.Config.Environment

/-!
# The program

The command with the settings of the environment, in a network where names resolve
but no server answers.
-/

namespace TimeProbe

/-- The variables of the environment that give settings. -/
def environmentVariables : IO (List (String × String)) :=
  (Environment.fields.map Environment.variableName).filterMapM fun name => do
    return (← IO.getEnv name).map (name, ·)

/-- Runs the command under settings. -/
def runCommand (settings : Settings) (words : List String) : IO UInt32 := do
  let terminal ← (← IO.getStdout).isTty
  let seed ← IO.rand 0 255
  let (ending, world) := Cli.run words terminal { settings, entropy := { seed } }
  world.printed.forM fun line => IO.println line
  match ending with
  | .done exit => do
    IO.eprint exit.complaint
    return exit.code.toUInt32
  | .failed f => do
    IO.eprintln (f.kind.name ++ ": " ++ f.message)
    return 1
  | .cutOff => return 1

end TimeProbe

/-- Reads the settings and runs the command; settings that cannot be read end it with 1. -/
def main (words : List String) : IO UInt32 := do
  match TimeProbe.Environment.settings (← TimeProbe.environmentVariables) with
  | .ok settings => TimeProbe.runCommand settings words
  | .error problems => do
    problems.forM fun p => IO.eprintln (p.field.getD "" ++ ": " ++ p.problem.message)
    return 1

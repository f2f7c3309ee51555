import TimeProbe.Config.Path
import TimeProbe.Fault
import TimeProbe.Settings
import TimeProbe.Text.Uppercase

/-!
# Logging

Log lines go to the error stream and, where a directory is set, to a file of the
component in or near it. The level is given, or else named by the settings in letters
of either case.
-/

namespace TimeProbe.Logging

/-- The levels by name. -/
def levels : List (String × Int) :=
  [("CRITICAL", 50), ("FATAL", 50), ("ERROR", 40), ("WARN", 30), ("WARNING", 30), ("INFO", 20),
    ("DEBUG", 10), ("NOTSET", 0)]

/-- The level of debugging. -/
def debug : Int := 10

/-- Where log lines go. -/
inductive Sink
  | errorStream
  /-- A file by its directory and its name. -/
  | rotatingFile (directory : List (List Char)) (name : List Char)
deriving DecidableEq

/-- The name of a kind of sink. -/
def Sink.name : Sink → String
  | errorStream => "StreamHandler"
  | rotatingFile _ _ => "RotatingFileHandler"

/-- The logging of a component. -/
structure Plan where
  level : Int
  sinks : List Sink
deriving DecidableEq

/-- The names of the files that a plan writes in a directory. -/
def Plan.filesIn (directory : String) (p : Plan) : List String :=
  p.sinks.filterMap fun sink => match sink with
    | .rotatingFile place name =>
      if place = Path.climbed directory then some (String.ofList name) else none
    | .errorStream => none

/-- The fault of a level that nobody knows. -/
def unknownLevel (name : String) : Fault :=
  .badValue ("Unknown level: " ++ Text.quoted ("Level " ++ name))

/-- The level with a name, in letters of either case. -/
def levelNamed (name : String) : Except Fault Int :=
  let upper := Text.upper name
  match levels.lookup upper with
  | some level => .ok level
  | none => .error (unknownLevel upper)

/-- The file of a component in a directory. A component may lead elsewhere, but only the
directories on the way to the log directory are known to be there. -/
def fileOf (directory component : String) : Except Fault Sink :=
  let (place, name) := Path.place directory (component ++ ".log")
  if component.contains '\x00' then .error (.badValue "embedded null byte")
  else if place.isPrefixOf (Path.climbed directory) then .ok (.rotatingFile place name)
  else
    let path := String.join ((place ++ [name]).map fun part => "/" ++ String.ofList part)
    .error
      { kind := .fileMissing
        message := "[Errno 2] No such file or directory: " ++ Text.quoted path }

/-- The sinks of a component. -/
def sinks (settings : Settings) (component : String) : Except Fault (List Sink) :=
  match settings.logDir with
  | some directory => (fileOf directory component).map fun file => [.errorStream, file]
  | none => .ok [.errorStream]

/-- The logging of a component under a level, if one is given. The file is opened before the
level is looked at. -/
def plan (settings : Settings) (component : String) (level : Option Int) : Except Fault Plan := do
  let sinks ← sinks settings component
  let level ← level.elim (levelNamed settings.logLevel) .ok
  return ⟨level, sinks⟩

end TimeProbe.Logging

import TimeProbe.Config.RunConfig
import TimeProbe.Fault
import TimeProbe.Text.Numeral

/-!
# Target names

A target is named by a host, perhaps with a port behind a colon. A host in brackets
may have colons of its own, and so may one with several colons and no brackets,
which then has no port. A port in the name wins over one given separately.
-/

namespace TimeProbe

open TimeProbe.Text

/-- A host and the port named with it. -/
structure TargetName where
  host : String
  port : Option Int := none
deriving DecidableEq, Inhabited

namespace TargetName

/-- Why a text names no target. -/
inductive ParseError
  | unterminated (text : String)
  | trailing (text : String)
  | badPort (text port : String)
deriving DecidableEq

namespace ParseError

/-- What the error says. -/
def message : ParseError → String
  | unterminated text => "Unterminated IPv6 literal: " ++ quoted text
  | trailing text => "Unexpected data after IPv6 literal: " ++ quoted text
  | badPort text _ => "Invalid port in " ++ quoted text

/-- The fault of a text that names no target. -/
def fault (e : ParseError) : Fault :=
  { kind := .configuration
    message := e.message
    details := match e with
      | badPort _ port => [("port", .text port)]
      | _ => [] }

end ParseError

/-- The text in front of the first occurrence of a character, and the text behind it. -/
def cut? (c : Char) (cs : List Char) : Option (List Char × List Char) :=
  match cs.dropWhile (· != c) with
  | [] => none
  | _ :: rest => some (cs.takeWhile (· != c), rest)

/-- A host with the port that a numeral spells. -/
def withPort (text : String) (host port : List Char) : Except ParseError TargetName :=
  let port := String.ofList port
  match Numeral.integer? port with
  | some n => .ok ⟨String.ofList host, some n⟩
  | none => .error (.badPort text port)

/-- The name that a text is; `text` is the whole text and `cs` its characters. -/
def parseChars (text : String) : List Char → Except ParseError TargetName
  | '[' :: cs =>
    match cut? ']' cs with
    | none => .error (.unterminated text)
    | some (host, []) => .ok ⟨String.ofList host, none⟩
    | some (host, ':' :: port) => withPort text host port
    | some _ => .error (.trailing text)
  | cs =>
    match cut? ':' cs with
    | some (host, port) => if ':' ∈ port then .ok ⟨text, none⟩ else withPort text host port
    | none => .ok ⟨text, none⟩

/-- The name that a text is. -/
def parse (text : String) : Except ParseError TargetName := parseChars text text.toList

end TargetName

/-- Why there is no configuration for a target. -/
inductive ConfigError
  | name (error : TargetName.ParseError)
  | values (problems : List Problem)

namespace RunConfig

/-- The port of a run: the one in the name, else the one given, else the default. -/
def choosePort (settings : Settings) (named given : Option Int) : Int :=
  match named, given with
  | some port, _ => port
  | none, some port => port
  | none, none => settings.defaultPort

/-- The configuration for a named target, with the other values of a draft. -/
def ofTarget (settings : Settings) (target : String) (draft : RunDraft) :
    Except ConfigError RunConfig :=
  match TargetName.parse target with
  | .error e => .error (.name e)
  | .ok name =>
    (ofDraft { draft with
      target := some name.host
      port := some (choosePort settings name.port draft.port)
      unfit := draft.unfit.filter fun field => field ≠ "port" || name.port.isNone }).mapError
        .values

end RunConfig

namespace Problem

/-- The place of a problem: its field, or nothing. -/
def place (p : Problem) : List String := p.field.toList

/-- A problem as a value. -/
def value (p : Problem) : Value :=
  .object [("type", .text p.problem.tag), ("loc", .list (p.place.map .text)),
    ("msg", .text p.problem.message)]

/-- The headline of a list of problems. -/
def headline (ps : List Problem) : String :=
  s!"{ps.length} validation error" ++ (if ps.length = 1 then "" else "s") ++ " for RunConfig"

/-- A list of problems as a value. -/
def listValue (ps : List Problem) : Value := .list (ps.map value)

/-- The fault of values that have problems. -/
def fault (ps : List Problem) : Fault :=
  { kind := .validation, message := headline ps, details := [("errors", listValue ps)] }

end Problem

/-- The fault of a run that cannot be configured. -/
def ConfigError.fault : ConfigError → Fault
  | name e => e.fault
  | values ps =>
    { kind := .configuration
      message := "Invalid configuration: " ++ Problem.headline ps
      details := [("errors", Problem.listValue ps)] }

end TimeProbe

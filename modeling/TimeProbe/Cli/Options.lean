import TimeProbe.Settings

/-!
# Options

The options of the command, their spellings, and what they say in the help text.
-/

namespace TimeProbe.Cli

/-- The name of the command. -/
def program : String := "ntp-pester"

/-- The options of the command. -/
inductive Flag
  | help
  | port
  | timeout
  | nts
  | kePort
  | caFile
  | caseTimeout
  | only
  | verbose
  | noColor
deriving DecidableEq, Inhabited

namespace Flag

/-- All options, in the order in which they are listed. -/
def all : List Flag :=
  [help, port, timeout, nts, kePort, caFile, caseTimeout, only, verbose, noColor]

/-- The spellings of an option. -/
def spellings : Flag → List String
  | help => ["-h", "--help"]
  | port => ["-p", "--port"]
  | timeout => ["-t", "--timeout"]
  | nts => ["-s", "--nts"]
  | kePort => ["--ke-port"]
  | caFile => ["-c", "--ca-file"]
  | caseTimeout => ["--case-timeout"]
  | only => ["-o", "--only"]
  | verbose => ["-v", "--verbose"]
  | noColor => ["--no-color"]

/-- What stands for the value of an option in the help text; an option without it takes
no value. -/
def placeholder? : Flag → Option String
  | port => some "PORT"
  | timeout => some "TIMEOUT"
  | kePort => some "KE_PORT"
  | caFile => some "CA_FILE"
  | caseTimeout => some "CASE_TIMEOUT"
  | only => some "PREFIX"
  | help | nts | verbose | noColor => none

/-- Whether an option takes a value. -/
def takesValue (f : Flag) : Bool := f.placeholder?.isSome

/-- The name of an option in complaints. -/
def label (f : Flag) : String := String.intercalate "/" f.spellings

/-- The field of the configuration that an option with a value is for, if there is one. -/
def field? : Flag → Option String
  | port => some "port"
  | timeout => some "timeout"
  | kePort => some "ke_port"
  | caFile => some "ca_file"
  | caseTimeout => some "case_timeout"
  | help | nts | only | verbose | noColor => none

/-- What an option is for. -/
def purpose (settings : Settings) : Flag → String
  | help => "show this help message and exit"
  | port => s!"NTP port (default {settings.defaultPort})"
  | timeout => "Reply timeout, e.g. 100ms, 1.5s"
  | nts => "Run NTS and NTS-KE cases"
  | kePort => s!"NTS-KE port (default {settings.defaultKePort})"
  | caFile => "PEM file with the trusted root for NTS-KE (requires --nts)"
  | caseTimeout => "Upper bound in seconds for a single test case"
  | only => "Only run cases whose name starts with PREFIX (repeatable)"
  | verbose => "Debug logging on stderr"
  | noColor => "Never color the report"

/-- The option that is spelled so. -/
def ofSpelling? (spelling : String) : Option Flag :=
  all.find? fun f => f.spellings.contains spelling

/-- The long spellings that start with a text, each with its option. -/
def startingWith (start : String) : List (Flag × String) :=
  all.flatMap fun f => (f.spellings.filter fun spelling =>
    start.toList.isPrefixOf spelling.toList).map (f, ·)

end Flag

/-- How the command is used. -/
def usage : List String :=
  ["usage: ntp-pester [-h] [-p PORT] [-t TIMEOUT] [-s] [--ke-port KE_PORT]",
    "                  [-c CA_FILE] [--case-timeout CASE_TIMEOUT] [-o PREFIX] [-v]",
    "                  [--no-color]",
    "                  [host]"]

/-- What the command is for. -/
def description : String := "Conformance and edge-case tests for NTP and NTS servers"

/-- The column at which explanations start. -/
def helpColumn : Nat := 24

/-- The column before which explanations end. -/
def helpEnd : Nat := 78

/-- A word cut into pieces of a width; only the last piece may be shorter. -/
def pieces (width : Nat) (word : List Char) : List String :=
  (List.range ((word.length + width - 1) / width)).map fun i =>
    String.ofList ((word.drop (i * width)).take width)

/-- The words of a line put into lines of a width, as many as fit into each; `line` is
the line begun. A word that fits into no line is cut: it fills up the line begun. -/
def fill (width : Nat) : String → List String → List String
  | line, [] => if line.isEmpty then [] else [line]
  | line, word :: words =>
    let lead := if line.isEmpty then "" else line ++ " "
    if lead.length + word.length ≤ width then fill width (lead ++ word) words
    else if word.length ≤ width then line :: fill width word words
    else
      let space := width - lead.length
      let rest := pieces width (word.toList.drop space)
      (lead ++ String.ofList (word.toList.take space)) ::
        rest.dropLast ++ fill width (rest.getLastD "") words

/-- A text indented to a column. -/
def indented (column : Nat) (text : String) : String :=
  String.ofList (List.replicate column ' ') ++ text

/-- An explanation beside what it explains, or below it where that is too long. -/
def explained (subject purpose : String) : List String :=
  let lines := fill (helpEnd - helpColumn) "" (purpose.splitOn " ")
  let head := "  " ++ subject
  match lines with
  | first :: rest =>
    if head.length + 2 ≤ helpColumn then
      (head ++ indented (helpColumn - head.length) first) :: rest.map (indented helpColumn)
    else head :: lines.map (indented helpColumn)
  | [] => [head]

/-- The spellings of an option with the place of its value. -/
def subject (f : Flag) : String :=
  String.intercalate ", " (f.spellings.map fun spelling =>
    match f.placeholder? with
    | some value => spelling ++ " " ++ value
    | none => spelling)

/-- The help text. -/
def helpLines (settings : Settings) : List String :=
  usage ++ ["", description, "", "positional arguments:"] ++
    explained "host" "Target host, optionally host:port or [v6]:port" ++
    ["", "options:"] ++ Flag.all.flatMap fun f => explained (subject f) (f.purpose settings)

end TimeProbe.Cli

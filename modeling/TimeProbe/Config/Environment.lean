import TimeProbe.Binary64.Reading
import TimeProbe.Config.RunConfig

/-!
# Settings from the environment

Every setting may be given by an environment variable: its name behind a common
start, in letters of either case. Values that cannot be read are reported together,
in the order of the settings.
-/

namespace TimeProbe.Environment

open TimeProbe.Text

/-- What the names of the variables start with. -/
def nameStart : String := "pester_"

/-- The names of the settings. -/
def fields : List String :=
  ["default_port", "default_ke_port", "default_timeout_ms", "case_timeout_sec",
    "max_datagram_bytes", "max_ke_records", "ke_read_size", "nts_session_cookies", "log_dir",
    "log_level"]

/-- The usual spelling of the variable for a setting. -/
def variableName (field : String) : String := (nameStart ++ field).map Char.toUpper

/-- The white space around values: that of Unicode without the information separators. -/
def isMargin (c : Char) : Bool := isBlank c && !(decide (28 ≤ c.toNat) && decide (c.toNat ≤ 31))

/-- What a text reads as when it is taken for a bare integer. -/
inductive Bare
  | integer (value : Int)
  /-- It starts with more digits than are read. -/
  | tooLong
  | other
deriving DecidableEq

/-- A bare integer: digits without a needless zero in front, behind a minus sign or nothing.
Too many digits are noticed whatever stands behind them. -/
def bare (cs : List Char) : Bare :=
  let (negative, body) := match cs with
    | '-' :: rest => (true, rest)
    | _ => (false, cs)
  let digits := body.takeWhile Char.isDigit
  let n : Int := Numeral.ofDigits digits
  if digits.head? = some '0' then if body = ['0'] then .integer 0 else .other
  else if Numeral.maxDigits < digits.length then .tooLong
  else if digits.isEmpty || digits.length != body.length then .other
  else .integer (if negative then -n else n)

/-- What follows the zeros and underscores in front of a numeral whose last character so far
is `last`. A point keeps the character before it, and so does the end. -/
def behindZeros (last : Char) : List Char → Option (List Char)
  | [] => some [last]
  | c :: rest =>
    if c = '0' || c = '_' then behindZeros c rest
    else if c = '.' then some (last :: c :: rest)
    else if c = '-' || c.isDigit then some (c :: rest)
    else none

/-- A numeral without the zeros in front of it. -/
def withoutZeros : List Char → Option (List Char)
  | [] => none
  | c :: rest =>
    if c = '0' then behindZeros c rest else if c.isDigit then some (c :: rest) else none

/-- A numeral without a point and nothing but zeros behind it, at least one of them. -/
def withoutFraction (cs : List Char) : List Char :=
  match cs.dropWhile (· != '.') with
  | '.' :: '0' :: zeros => if zeros.all (· == '0') then cs.takeWhile (· != '.') else cs
  | _ => cs

/-- Whether underscores stand only inside a text and never next to each other. -/
def joined : Bool → List Char → Bool
  | mayJoin, [] => mayJoin
  | mayJoin, '_' :: rest => mayJoin && joined false rest
  | _, _ :: rest => joined true rest

/-- A text without its underscores, if they only join what stands around them. -/
def withoutJoints (cs : List Char) : List Char :=
  if joined false cs then cs.filter (· != '_') else cs

/-- A numeral without a plus sign in front, which no other sign may follow. -/
def withoutPlus : List Char → Option (List Char)
  | '+' :: c :: rest => if c = '+' || c = '-' then none else some (c :: rest)
  | cs => some cs

/-- A value brought to the form of a bare integer: without white space around it, a plus
sign, zeros in front, a fraction of zeros, and underscores. -/
def tidied (value : List Char) : Option (List Char) := do
  let cs ← withoutPlus (trim isMargin value)
  let cs ← match cs with
    | '-' :: rest => (withoutZeros rest).map ('-' :: ·)
    | _ => withoutZeros cs
  return withoutJoints (withoutFraction cs)

/-- The integer that a value spells. It is read as it stands or else after tidying up; only
of a value that is read as it stands too many digits are told. -/
def integer (value : String) : Except FieldProblem Int :=
  match bare value.toList with
  | .integer n => .ok n
  | .tooLong => .error .tooLong
  | .other =>
    match (tidied value.toList).map bare with
    | some (.integer n) => .ok n
    | _ => .error .notAnInteger

/-- The number that a value spells in ASCII. White space may stand around a numeral, and
single underscores inside one, but not both. -/
def number (value : String) : Except FieldProblem Binary64 :=
  let plain := trim isMargin value.toList
  let digits := plain.filter (· != '_')
  if plain.all (·.toNat < 127) &&
      (digits == plain || plain == value.toList && joined false plain) then
    (Binary64.read? (String.ofList digits)).elim (.error .notANumber) .ok
  else .error .notANumber

/-- A letter of a variable's name in lower case. The sign for kelvins is a capital K. -/
def lowerLetter (c : Char) : Char := if c = '\u212a' then 'k' else c.toLower

/-- The value of the variable for a setting; of several spellings the last one counts. -/
def lookup? (assignments : List (String × String)) (field : String) : Option String :=
  (assignments.reverse.find? fun (name, _) => name.map lowerLetter = nameStart ++ field).map (·.2)

/-- A setting that is read, with the problem of its value if there is one. -/
def field {α : Type} (assignments : List (String × String)) (name : String) (default : α)
    (read : String → Except FieldProblem α) : α × List Problem :=
  match lookup? assignments name with
  | none => (default, [])
  | some value =>
    match read value with
    | .ok a => (a, [])
    | .error problem => (default, [⟨some name, problem⟩])

/-- The settings that environment variables give, or all problems of their values. -/
def settings (assignments : List (String × String)) : Except (List Problem) Settings :=
  let base : Settings := {}
  let int (name : String) (default : Int) := field assignments name default integer
  let (defaultPort, p1) := int "default_port" base.defaultPort
  let (defaultKePort, p2) := int "default_ke_port" base.defaultKePort
  let (defaultTimeoutMs, p3) := int "default_timeout_ms" base.defaultTimeoutMs
  let (caseTimeoutSec, p4) :=
    field assignments "case_timeout_sec" base.caseTimeoutSec number
  let (maxDatagramBytes, p5) := int "max_datagram_bytes" base.maxDatagramBytes
  let (maxKeRecords, p6) := int "max_ke_records" base.maxKeRecords
  let (keReadSize, p7) := int "ke_read_size" base.keReadSize
  let (ntsSessionCookies, p8) := int "nts_session_cookies" base.ntsSessionCookies
  match p1 ++ p2 ++ p3 ++ p4 ++ p5 ++ p6 ++ p7 ++ p8 with
  | [] =>
    .ok
      { defaultPort, defaultKePort, defaultTimeoutMs, caseTimeoutSec, maxDatagramBytes
        maxKeRecords, keReadSize, ntsSessionCookies
        logDir := (lookup? assignments "log_dir").map Path.normal
        logLevel := (lookup? assignments "log_level").getD base.logLevel }
  | problems => .error problems

end TimeProbe.Environment

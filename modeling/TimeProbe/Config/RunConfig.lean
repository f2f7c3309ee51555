import TimeProbe.Config.Path
import TimeProbe.Settings

/-!
# The configuration of a run

A configuration names the target and its bounds. A draft becomes a configuration
only if every value is in range; the problems of all values are reported together,
in the order of the fields. The rule that a root certificate needs time security
is looked at only when every single value is in order.
-/

namespace TimeProbe

/-- What is wrong with one value. -/
inductive FieldProblem
  | missing
  | tooShort
  | below (minimum : Nat)
  | above (maximum : Nat)
  | notAbove (bound : Nat)
  | notAnInteger
  | notANumber
  /-- An integer of more digits than are read. -/
  | tooLong
  /-- No integer where one belongs, but an empty list. -/
  | noInteger
  /-- No number where one belongs, but an empty list or an integer beyond all doubles. -/
  | noNumber
  /-- No path where one belongs, but an empty list. -/
  | noPath
  | invalid (reason : String)
deriving DecidableEq

namespace FieldProblem

/-- The tag of a problem. -/
def tag : FieldProblem → String
  | missing => "missing"
  | tooShort => "string_too_short"
  | below _ => "greater_than_equal"
  | above _ => "less_than_equal"
  | notAbove _ => "greater_than"
  | notAnInteger => "int_parsing"
  | notANumber => "float_parsing"
  | tooLong => "int_parsing_size"
  | noInteger => "int_type"
  | noNumber => "float_type"
  | noPath => "path_type"
  | invalid _ => "value_error"

/-- What the problem is, in words. -/
def message : FieldProblem → String
  | missing => "Field required"
  | tooShort => "String should have at least 1 character"
  | below minimum => s!"Input should be greater than or equal to {minimum}"
  | above maximum => s!"Input should be less than or equal to {maximum}"
  | notAbove bound => s!"Input should be greater than {bound}"
  | notAnInteger => "Input should be a valid integer, unable to parse string as an integer"
  | notANumber => "Input should be a valid number, unable to parse string as a number"
  | tooLong => "Unable to parse input string as an integer, exceeded maximum size"
  | noInteger => "Input should be a valid integer"
  | noNumber => "Input should be a valid number"
  | noPath => "Input is not a valid path for <class 'pathlib.Path'>"
  | invalid reason => "Value error, " ++ reason

end FieldProblem

/-- A problem and the field it belongs to; a rule over several fields has none. -/
structure Problem where
  field : Option String
  problem : FieldProblem
deriving DecidableEq

/-- A validated configuration. -/
structure RunConfig where
  target : String
  port : Int
  timeout : Binary64
  ntsEnabled : Bool
  kePort : Int
  caFile : Option String
  caseTimeout : Binary64
deriving DecidableEq, Inhabited

/-- The values given for a configuration; the others have their defaults. -/
structure RunDraft where
  target : Option String := none
  port : Option Int := none
  timeout : Option Binary64 := none
  ntsEnabled : Option Bool := none
  kePort : Option Int := none
  caFile : Option String := none
  caseTimeout : Option Binary64 := none
  /-- The fields that were given something that cannot be a value of theirs: an empty list,
  or an integer beyond all doubles where a number belongs. -/
  unfit : List String := []
deriving Inhabited

namespace RunConfig

/-- The problem of a port number, if it has one. -/
def portProblem? (port : Int) : Option FieldProblem :=
  if port < 1 then some (.below 1)
  else if 65535 < port then some (.above 65535)
  else none

/-- The problem of a duration, if it has one. -/
def durationProblem? (seconds : Binary64) : Option FieldProblem :=
  if seconds.isPositive then none else some (.notAbove 0)

/-- The problem of a target name, if it has one. -/
def targetProblem? : Option String → Option FieldProblem
  | none => some .missing
  | some target => if target.isEmpty then some .tooShort else none

/-- The problem of a field: that it was given no value, or else the problem of its value. -/
def fieldProblem? (d : RunDraft) (field : String) (noValue : FieldProblem)
    (ofValue : Option FieldProblem) : Option Problem :=
  (if field ∈ d.unfit then some noValue else ofValue).map (⟨some field, ·⟩)

/-- The problems of single values, in the order of the fields. -/
def problems (d : RunDraft) : List Problem :=
  [fieldProblem? d "target" .missing (targetProblem? d.target),
    fieldProblem? d "port" .noInteger (d.port.bind portProblem?),
    fieldProblem? d "timeout" .noNumber (d.timeout.bind durationProblem?),
    fieldProblem? d "ke_port" .noInteger (d.kePort.bind portProblem?),
    fieldProblem? d "ca_file" .noPath none,
    fieldProblem? d "case_timeout" .noNumber (d.caseTimeout.bind durationProblem?)].filterMap id

/-- The configuration of a draft without regard to its problems. Defaults are the
ones that the settings had at first. -/
def fill (d : RunDraft) : RunConfig :=
  let settings : Settings := {}
  { target := d.target.getD ""
    port := d.port.getD settings.defaultPort
    timeout := d.timeout.getD (Binary64.ofMillis settings.defaultTimeoutMs)
    ntsEnabled := d.ntsEnabled.getD false
    kePort := d.kePort.getD settings.defaultKePort
    caFile := d.caFile.map Path.normal
    caseTimeout := d.caseTimeout.getD settings.caseTimeoutSec }

/-- The configuration of a draft, or all problems that it has. -/
def ofDraft (d : RunDraft) : Except (List Problem) RunConfig :=
  match problems d with
  | [] =>
    let c := fill d
    if c.caFile.isSome && !c.ntsEnabled then
      .error [⟨none, .invalid "ca_file is only used together with NTS"⟩]
    else .ok c
  | ps => .error ps

end RunConfig

end TimeProbe

import TimeProbe.Fault

/-!
# Outcomes

Every case ends with one outcome. A fault that a case ends with decides it: a
failed or skipped test says so itself, and everything else is an error.
-/

namespace TimeProbe

/-- The kinds of outcomes, in the order in which they are counted. -/
inductive OutcomeKind
  | passed
  | failed
  | errored
  | skipped
deriving DecidableEq, Inhabited

namespace OutcomeKind

/-- All kinds, in the order of the summary. -/
def all : List OutcomeKind := [passed, failed, errored, skipped]

/-- The word for a kind. -/
def word : OutcomeKind → String
  | passed => "passed"
  | failed => "failed"
  | errored => "errored"
  | skipped => "skipped"

/-- The name of a kind in the summary. -/
def label : OutcomeKind → String
  | passed => "Passed"
  | failed => "Failed"
  | errored => "Errored"
  | skipped => "Skipped"

/-- The sign in front of a line about an outcome of a kind. -/
def glyph : OutcomeKind → String
  | passed => "✅"
  | failed => "❌"
  | errored => "❓"
  | skipped => "⏩"

/-- The kind with a word. -/
def ofWord? (s : String) : Option OutcomeKind := all.find? (·.word = s)

end OutcomeKind

/-- How a case ended. -/
structure Outcome where
  kind : OutcomeKind
  reason : Option String := none
  detail : Option String := none
deriving DecidableEq, Inhabited

namespace Outcome

/-- The outcome of a case that ended well. -/
def passed : Outcome := { kind := .passed }

/-- The outcome of a case that something else kept from its verdict. -/
def errored (cause : String) : Outcome := { kind := .errored, reason := some cause }

/-- What a failure shows of a response: octets in hexadecimal, other values literally. -/
def describeResponse : Value → Option String
  | .absent => none
  | .bytes data => some ("raw: " ++ Bytes.hex data)
  | v => some v.literal

/-- The outcome of a case that was not done in time. -/
def unfinished (limit : Binary64) : Outcome :=
  errored ("Test case did not finish within " ++ limit.text ++ "s")

/-- The fault of a verdict whose reason is no text. -/
def reasonNoText : Fault :=
  { kind := .validation
    message := "1 validation error for Outcome"
    details := [("errors", .list [.object [("type", .text "string_type"),
      ("loc", .list [.text "reason"]), ("msg", .text "Input should be a valid string")]])] }

/-- The reason that a verdict gives; it may be missing, but it has to be a text. -/
def reasonOf (f : Fault) : Except Fault (Option String) :=
  match f.arguments with
  | [] => .ok (some f.message)
  | .text reason :: _ => .ok (some reason)
  | .absent :: _ => .ok none
  | _ => .error reasonNoText

/-- The outcome that a fault decides. An interrupt decides none and stays a fault. -/
def ofFault (limit : Binary64) (f : Fault) : Except Fault Outcome :=
  if f.kind.isA .testSkipped then do return { kind := .skipped, reason := ← reasonOf f }
  else if f.kind.isA .testFailure then do
    return { kind := .failed, reason := ← reasonOf f, detail := describeResponse f.response }
  else if f.kind.isA .timeout then .ok (unfinished limit)
  else if f.kind.isA .other then .ok (errored (f.kind.name ++ ": " ++ f.message))
  else .error f

end Outcome

end TimeProbe

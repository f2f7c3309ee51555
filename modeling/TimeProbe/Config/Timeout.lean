import TimeProbe.Binary64.Reading
import TimeProbe.Fault

/-!
# Timeouts

A timeout is a positive decimal number of seconds, or of milliseconds if the unit
`ms` stands behind it. Blanks may stand around the number and around the unit, and
digits of any script are digits; there is no sign and no exponent.
-/

namespace TimeProbe.Timeout

open TimeProbe.Text

/-- Why a text is no timeout. -/
inductive ParseError
  | malformed (text : String)
  | notPositive (text : String)
deriving DecidableEq

namespace ParseError

/-- What the error says. -/
def message : ParseError → String
  | malformed text => "Invalid timeout: " ++ quoted text
  | notPositive text => "Timeout must be positive: " ++ quoted text

/-- The text that is no timeout. -/
def text : ParseError → String
  | malformed text => text
  | notPositive text => text

/-- The fault of a text that is no timeout. -/
def fault (e : ParseError) : Fault :=
  { kind := .configuration, message := e.message, details := [("value", .text e.text)] }

end ParseError

/-- The units of a timeout. -/
inductive TimeUnit
  | seconds
  | milliseconds
deriving DecidableEq

/-- The unit that is spelled so; seconds need not be spelled. -/
def TimeUnit.ofSpelling? (cs : List Char) : Option TimeUnit :=
  if cs = [] ∨ cs = ['s'] then some .seconds
  else if cs = ['m', 's'] then some .milliseconds
  else none

/-- The number that a run of digits denotes. -/
def digitsValue (cs : List Char) : Nat :=
  cs.foldl (fun n c => n * 10 + (digitValue? c).getD 0) 0

/-- The decimal number at the front of a text, and what follows it. A point counts
only with digits on both sides. -/
def number? (cs : List Char) : Option (Numeral.Decimal × List Char) :=
  let whole := cs.takeWhile isDigit
  let rest := cs.dropWhile isDigit
  if whole.isEmpty then none
  else
    let part := match rest with
      | '.' :: more => more.takeWhile isDigit
      | _ => []
    if part.isEmpty then some (⟨digitsValue whole, 0⟩, rest)
    else some (⟨digitsValue (whole ++ part), -(part.length : Int)⟩, rest.drop (1 + part.length))

/-- An amount of a unit in seconds, rounded after the reading and after the division. -/
def inSeconds (amount : Numeral.Decimal) : TimeUnit → Binary64
  | .seconds => Binary64.ofDecimal false amount
  | .milliseconds => (Binary64.ofDecimal false amount).divNat 1000

/-- The number of seconds that a text denotes, whether or not it is positive. -/
def amount? (text : String) : Option Binary64 := do
  let (amount, rest) ← number? (trim isBlank text.toList)
  let unit ← TimeUnit.ofSpelling? (trimLeft isBlank rest)
  return inSeconds amount unit

/-- The timeout that a text denotes. -/
def parse (text : String) : Except ParseError Binary64 :=
  match amount? text with
  | none => .error (.malformed text)
  | some seconds => if seconds.isPositive then .ok seconds else .error (.notPositive text)

end TimeProbe.Timeout

import TimeProbe.Binary64.Basic

/-!
# Timestamps

An NTP timestamp counts seconds since 1900 in its upper half and fractions of a
second in its lower half, both modulo 2^32.
-/

namespace TimeProbe.Timestamp

/-- The seconds from the start of 1900 to the start of 1970. -/
def epochOffset : Nat := 2208988800

/-- How many values each half has. -/
def halfRange : Nat := 4294967296

/-- The two halves joined into one number. -/
def join (whole fraction : Int) : Nat :=
  (whole % halfRange * halfRange + fraction % halfRange).toNat

/-- The timestamp of a whole number of seconds since 1970. -/
def ofSeconds (seconds : Int) : Nat := join (seconds + epochOffset) 0

/-- Why a time has no timestamp. -/
inductive Undefined
  | infinite
  | notANumber
deriving DecidableEq

/-- What the error says. -/
def Undefined.message : Undefined → String
  | infinite => "cannot convert float infinity to integer"
  | notANumber => "cannot convert float NaN to integer"

/-- The timestamp of a time in seconds since 1970. The sum with the epoch offset is
rounded to a double, and the fraction is cut, not rounded, toward zero. -/
def ofTime (time : Binary64) : Except Undefined Nat :=
  if time.isNaN then .error .notANumber
  else if time.isInfinite then .error .infinite
  else
    let unit : Int := Binary64.ticksPerUnit
    let seconds := (Binary64.ofTicks (time.ticks + epochOffset * unit)).ticks
    let whole := seconds.tdiv unit
    let fraction := ((seconds - whole * unit) * halfRange).tdiv unit
    .ok (join whole fraction)

end TimeProbe.Timestamp

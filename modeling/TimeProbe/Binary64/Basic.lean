/-!
# Binary floating point numbers

A double is its sixty-four bits. Every finite double is a whole number of
*ticks* of `2 ^ -1074`, the distance of the subnormal numbers, so exact
arithmetic on doubles is integer arithmetic on ticks, followed by one rounding.
-/

namespace TimeProbe

/-- A double precision number, given by its interchange format. -/
structure Binary64 where
  bits : UInt64
deriving DecidableEq, Inhabited

namespace Binary64

/-- The value of the sign bit, which is the highest one. -/
def signBit : Nat := 9223372036854775808

/-- How many values the fifty-two fraction bits have. -/
def fractionRange : Nat := 4503599627370496

/-- Whether the sign bit is set. -/
def isNegative (x : Binary64) : Bool := decide (signBit ≤ x.bits.toNat)

/-- The eleven exponent bits. -/
def exponentField (x : Binary64) : Nat := x.bits.toNat / fractionRange % 2048

/-- The fifty-two fraction bits. -/
def fractionField (x : Binary64) : Nat := x.bits.toNat % fractionRange

/-- Whether the bits stand for no number. -/
def isNaN (x : Binary64) : Bool := x.exponentField == 2047 && x.fractionField != 0

/-- Whether the bits stand for an infinity of either sign. -/
def isInfinite (x : Binary64) : Bool := x.exponentField == 2047 && x.fractionField == 0

/-- The absolute value in ticks. An infinity has the value that its bits would
have if the exponent range went on: `2 ^ 1024`, beyond every finite number. -/
def magnitude (x : Binary64) : Nat :=
  if x.exponentField = 0 then x.fractionField
  else (fractionRange + x.fractionField) <<< (x.exponentField - 1)

/-- The value in ticks. -/
def ticks (x : Binary64) : Int := if x.isNegative then -(x.magnitude : Int) else x.magnitude

/-- The number of ticks in one. -/
def ticksPerUnit : Nat := 1 <<< 1074

/-- A quotient of naturals to the nearest natural, a half to the even one. -/
def roundDiv (num den : Nat) : Nat :=
  let q := num / den
  let r := num % den
  if 2 * r < den then q
  else if den < 2 * r then q + 1
  else if q % 2 = 0 then q else q + 1

/-- The bits of the positive infinity. -/
def infinityBits : Nat := 2047 * fractionRange

/-- The number with a sign and the bits other than the sign. -/
def signed (negative : Bool) (bits : Nat) : Binary64 :=
  ⟨UInt64.ofNat (if negative then signBit + bits else bits)⟩

/-- The infinity with a sign. -/
def infinity (negative : Bool) : Binary64 := signed negative infinityBits

/-- The double nearest to `num / den` ticks, of two the one with the even fraction. -/
def ofTickRatio (negative : Bool) (num den : Nat) : Binary64 :=
  let size := (num / den).log2 + 1
  let shift := size - 53
  let bits := shift * fractionRange + roundDiv num (den <<< shift)
  signed negative (min bits infinityBits)

/-- The double nearest to `num / den`. -/
def ofRatio (negative : Bool) (num den : Nat) : Binary64 :=
  ofTickRatio negative (num * ticksPerUnit) den

/-- The double nearest to a whole number of ticks. -/
def ofTicks (t : Int) : Binary64 := ofTickRatio (decide (t < 0)) t.natAbs 1

/-- A power of ten. -/
def powerOfTen (exponent : Nat) : Nat := Nat.pow 10 exponent

/-- The double nearest to an integer. -/
def ofInt (i : Int) : Binary64 := ofRatio (decide (i < 0)) i.natAbs 1

/-- The quiet number that stands for an undefined result, with a sign. -/
def nan (negative : Bool) : Binary64 := signed negative 9221120237041090560

/-- The quotient of a double by a positive natural, correctly rounded. -/
def divNat (x : Binary64) (n : Nat) : Binary64 :=
  if x.isNaN || x.isInfinite then x else ofTickRatio x.isNegative x.magnitude n

/-- An integer number of thousandths, rounded once. -/
def ofMillis (ms : Int) : Binary64 := ofRatio (decide (ms < 0)) ms.natAbs 1000

/-- Whether a double is greater than zero. -/
def isPositive (x : Binary64) : Bool := !x.isNaN && decide (0 < x.ticks)

/-- Whether a double differs from both zeros. -/
def isNonzero (x : Binary64) : Bool := x.isNaN || x.ticks != 0

end Binary64

end TimeProbe

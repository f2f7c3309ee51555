import TimeProbe.Binary64.Basic

/-!
# Shortest digits

The text of a double has the fewest decimal digits that read back as the same
double, and among those the ones nearest to its value. The digits are found on
the grids of one, two, … seventeen digits: a grid has a number that reads back
exactly if one of the two neighbours of the value on it does.
-/

namespace TimeProbe.Binary64

/-- Digits `digits` with the point standing `point` places behind the first one's left. -/
structure Digits where
  digits : Nat
  point : Int
deriving DecidableEq

/-- The least `p` with `value < 10 ^ p`, for a positive value of `num / den`. -/
def pointOf (num den : Nat) : Int :=
  if den ≤ num then ((Nat.toDigits 10 (num / den)).length : Int)
  else
    -- `den / num` lies in `[10 ^ k, 10 ^ (k + 1))`, so the value in `(10 ^ -(k + 1), 10 ^ -k]`
    let k := (Nat.toDigits 10 (den / num)).length - 1
    if num * powerOfTen k < den then -(k : Int) else -(k : Int) + 1

/-- The value `num / den` in units of `10 ^ (point - places)`, as a quotient. -/
def scale (num den : Nat) (point : Int) (places : Nat) : Nat × Nat :=
  match point - places with
  | .ofNat e => (num, den * powerOfTen e)
  | .negSucc e => (num * powerOfTen (e + 1), den)

/-- The double nearest to `digits * 10 ^ (point - places)`. -/
def ofGrid (digits : Nat) (point : Int) (places : Nat) : Binary64 :=
  match point - places with
  | .ofNat e => ofRatio false (digits * powerOfTen e) 1
  | .negSucc e => ofRatio false digits (powerOfTen (e + 1))

/-- The neighbour of the value on the grid of `places` digits that reads back, if one does. -/
def onGrid? (x : Binary64) (num den : Nat) (point : Int) (places : Nat) : Option Nat :=
  let (n, d) := scale num den point places
  let low := n / d
  let lowHit := ofGrid low point places == x
  let highHit := ofGrid (low + 1) point places == x
  if lowHit && highHit then some (roundDiv n d)
  else if lowHit then some low
  else if highHit then some (low + 1)
  else none

/-- Leaves out the zeros at the end of a digit string. -/
def dropZeros (fuel : Nat) (n : Nat) : Nat :=
  match fuel with
  | 0 => n
  | fuel + 1 => if n ≠ 0 ∧ n % 10 = 0 then dropZeros fuel (n / 10) else n

/-- The shortest digits of a positive finite double. -/
def shortest (x : Binary64) : Digits :=
  let num := x.magnitude
  let den := ticksPerUnit
  let point := pointOf num den
  match (List.range 17).findSome? fun i =>
      (onGrid? x num den point (i + 1)).map fun d => (d, i + 1) with
  | some (d, places) =>
    -- a carry to the next power of ten moves the point
    let point := if powerOfTen places ≤ d then point + 1 else point
    ⟨dropZeros 20 d, point⟩
  | none => ⟨0, 1⟩

/-- The decisions of a number format: where positional writing starts and ends. -/
structure Layout where
  lowestPoint : Int
  highestPoint : Int

/-- Positional from `0.0001` up to sixteen digits before the point. -/
def plainLayout : Layout := ⟨-3, 16⟩

/-- Digits written out around a point, with at least one digit on either side. -/
def positional (ds : List Char) (point : Int) : List Char :=
  match point with
  | .ofNat p =>
    if p = 0 then ['0', '.'] ++ ds
    else if ds.length ≤ p then ds ++ List.replicate (p - ds.length) '0' ++ ['.', '0']
    else ds.take p ++ '.' :: ds.drop p
  | .negSucc p => ['0', '.'] ++ List.replicate (p + 1) '0' ++ ds

/-- Digits with one of them before the point, and a signed exponent of at least two digits. -/
def scientific (ds : List Char) (point : Int) : List Char :=
  let e := point - 1
  let es := Nat.toDigits 10 e.natAbs
  let mantissa := match ds with
    | d :: [] => [d]
    | d :: rest => d :: '.' :: rest
    | [] => []
  mantissa ++ ['e', if e < 0 then '-' else '+'] ++ List.replicate (2 - es.length) '0' ++ es

/-- The text of a double. -/
def text (x : Binary64) : String :=
  if x.isNaN then "nan"
  else
    let sign := if x.isNegative then ['-'] else []
    let body :=
      if x.isInfinite then "inf".toList
      else if x.magnitude = 0 then "0.0".toList
      else
        let d := shortest ⟨x.bits &&& 0x7fffffffffffffff⟩
        let ds := Nat.toDigits 10 d.digits
        if plainLayout.lowestPoint ≤ d.point ∧ d.point ≤ plainLayout.highestPoint then
          positional ds d.point
        else scientific ds d.point
    String.ofList (sign ++ body)

end TimeProbe.Binary64

import TimeProbe.Text.Blank
import TimeProbe.Text.Digit

/-!
# Numerals

The spelling of numbers in arguments and targets: blanks around the numeral do
not count, digits of any script are digits, and single underscores may stand
between two digits. An integer numeral may have at most 4300 digits.
-/

namespace TimeProbe.Numeral

open TimeProbe.Text

/-- The ASCII character a numeral's character stands for: a decimal digit for
its value and a blank outside ASCII for a space. Nothing else outside ASCII, and
not the delete character, may occur. -/
def plainChar? (c : Char) : Option Char :=
  if c.toNat < 127 then some c
  else if isBlank c then some ' '
  else (digitValue? c).map Nat.digitChar

/-- A numeral in ASCII, without the blanks around it. -/
def plain? (s : String) : Option (List Char) :=
  (s.toList.mapM plainChar?).map (trim isAsciiBlank)

/-- Leaves out the single underscores between digits; any other underscore is refused. -/
def ungroup : Bool → List Char → Option (List Char)
  | _, [] => some []
  | afterDigit, '_' :: rest =>
    match rest with
    | d :: rest =>
      if afterDigit && d.isDigit then (ungroup true rest).map (d :: ·) else none
    | [] => none
  | _, c :: rest => (ungroup c.isDigit rest).map (c :: ·)

/-- The sign in front of a numeral, and the numeral behind it. -/
def splitSign : List Char → Bool × List Char
  | '-' :: rest => (true, rest)
  | '+' :: rest => (false, rest)
  | cs => (false, cs)

/-- The number that a run of ASCII digits denotes. -/
def ofDigits (cs : List Char) : Nat := cs.foldl (fun n c => n * 10 + (c.toNat - 48)) 0

/-- The largest number of digits of an integer numeral. -/
def maxDigits : Nat := 4300

/-- The integer that a text denotes. -/
def integer? (s : String) : Option Int := do
  let (negative, body) := splitSign (← plain? s)
  let digits ← ungroup false body
  if digits.isEmpty || !digits.all Char.isDigit || maxDigits < digits.length then none
  else
    let n : Int := ofDigits digits
    some (if negative then -n else n)

/-- A decimal fraction `digits * 10 ^ exponent`. -/
structure Decimal where
  digits : Nat
  exponent : Int

/-- The exponent part of a decimal numeral, which may be missing. -/
def exponent? : List Char → Option Int
  | [] => some 0
  | c :: rest =>
    if c = 'e' || c = 'E' then
      let (negative, body) := splitSign rest
      if body.isEmpty || !body.all Char.isDigit then none
      else
        let n : Int := ofDigits body
        some (if negative then -n else n)
    else none

/-- An unsigned decimal numeral: digits with at most one point among them, at
least one digit, and perhaps an exponent. -/
def decimal? (cs : List Char) : Option Decimal :=
  let whole := cs.takeWhile Char.isDigit
  let rest := cs.dropWhile Char.isDigit
  let (part, rest) := match rest with
    | '.' :: rest => (rest.takeWhile Char.isDigit, rest.dropWhile Char.isDigit)
    | rest => ([], rest)
  if whole.isEmpty && part.isEmpty then none
  else (exponent? rest).map fun e => ⟨ofDigits (whole ++ part), e - part.length⟩

end TimeProbe.Numeral

import TimeProbe.Binary64.Basic
import TimeProbe.Text.Numeral

/-!
# Reading doubles

The double that a decimal numeral denotes, rounded once. Exponents beyond the
range of doubles are settled without computing the power.
-/

namespace TimeProbe.Binary64

/-- The double nearest to `digits * 10 ^ exponent`. -/
def ofDecimal (negative : Bool) (d : Numeral.Decimal) : Binary64 :=
  let size : Int := (Nat.toDigits 10 d.digits).length
  if d.digits = 0 then signed negative 0
  else if 400 < size + d.exponent then infinity negative
  else if size + d.exponent < -400 then signed negative 0
  else match d.exponent with
    | .ofNat e => ofRatio negative (d.digits * powerOfTen e) 1
    | .negSucc e => ofRatio negative d.digits (powerOfTen (e + 1))

/-- The double that a text denotes: a decimal numeral, or a word for an infinity
or for no number, in letters of either case. -/
def read? (s : String) : Option Binary64 := do
  let cs ← Numeral.ungroup false (← Numeral.plain? s)
  let (negative, body) := Numeral.splitSign cs
  let word := String.ofList (body.map Char.toLower)
  if word = "inf" || word = "infinity" then some (infinity negative)
  else if word = "nan" then some (nan negative)
  else (Numeral.decimal? body).map (ofDecimal negative)

end TimeProbe.Binary64

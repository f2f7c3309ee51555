/-!
# Byte strings

A byte string is a list of octets. This file has the operations that every wire
format of the library shares: big-endian words of a fixed width, zero padding to
a multiple of four, and hexadecimal text.
-/

namespace TimeProbe

/-- A string of octets, first octet first. -/
abbrev Bytes := List UInt8

namespace Bytes

/-- `n` zero octets. -/
def zeros (n : Nat) : Bytes := List.replicate n 0

/-- The low `width` octets of `n`, most significant first. -/
def ofNat : Nat → Nat → Bytes
  | 0, _ => []
  | width + 1, n => UInt8.ofNat (n >>> (8 * width)) :: ofNat width n

/-- How many numbers there are of `width` octets. -/
def span (width : Nat) : Nat := Nat.pow 256 width

/-- An integer reduced modulo `256 ^ width`, most significant octet first. -/
def ofInt (width : Nat) (i : Int) : Bytes := ofNat width (i % span width).toNat

/-- The number a byte string denotes, most significant octet first. -/
def toNat (bs : Bytes) : Nat := bs.foldl (fun n b => n * 256 + b.toNat) 0

/-- An octet read as a signed number in two's complement. -/
def signed (b : UInt8) : Int := if b.toNat < 128 then b.toNat else (b.toNat : Int) - 256

/-- How many zero octets bring a string of length `n` to a multiple of four. -/
def gap (n : Nat) : Nat := (4 - n % 4) % 4

/-- Zero padding to a multiple of four octets. -/
def align (bs : Bytes) : Bytes := bs ++ zeros (gap bs.length)

/-- Zero padding up to at least `minimum` octets. -/
def extend (minimum : Nat) (bs : Bytes) : Bytes := bs ++ zeros (minimum - bs.length)

@[simp]
theorem length_zeros (n : Nat) : (zeros n).length = n := by simp [zeros]

@[simp]
theorem length_ofNat (width n : Nat) : (ofNat width n).length = width := by
  induction width with
  | zero => rfl
  | succ width ih => simp [ofNat, ih]

@[simp]
theorem length_ofInt (width : Nat) (i : Int) : (ofInt width i).length = width := by
  simp [ofInt]

/-- The padded length is a multiple of four. -/
theorem length_align_mod (bs : Bytes) : (align bs).length % 4 = 0 := by
  simp only [align, List.length_append, length_zeros, gap]
  omega

/-- The hexadecimal digit of a number below sixteen, in lower case. -/
def hexDigit (n : Nat) : Char := (Nat.digitChar n)

/-- Two lower-case hexadecimal digits per octet. -/
def hexChars (bs : Bytes) : List Char :=
  bs.flatMap fun b => [hexDigit (b.toNat / 16), hexDigit (b.toNat % 16)]

/-- The hexadecimal text of a byte string. -/
def hex (bs : Bytes) : String := String.ofList (hexChars bs)

/-- The value of a hexadecimal digit of either case. -/
def hexValue? (c : Char) : Option Nat :=
  if '0' ≤ c ∧ c ≤ '9' then some (c.toNat - 48)
  else if 'a' ≤ c ∧ c ≤ 'f' then some (c.toNat - 87)
  else if 'A' ≤ c ∧ c ≤ 'F' then some (c.toNat - 55)
  else none

/-- The octets read so far, last octet first, and the high digit of the next one. -/
def addDigit : Bytes × Option Nat → Nat → Bytes × Option Nat
  | (octets, none), digit => (octets, some digit)
  | (octets, some high), digit => (UInt8.ofNat (high * 16 + digit) :: octets, none)

/-- The byte string that a hexadecimal text denotes, two digits per octet. -/
def ofHex? (text : String) : Option Bytes := do
  match (← text.toList.mapM hexValue?).foldl addDigit ([], none) with
  | (octets, none) => some octets.reverse
  | (_, some _) => none

end Bytes

end TimeProbe

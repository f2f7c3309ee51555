import TimeProbe.Bytes

/-!
# Cipher blocks

A block is 128 bits. As a bit vector it can be added, shifted and combined bit
by bit; as sixteen octets, most significant first, it is read and written.
-/

namespace TimeProbe.Aead

/-- A 128 bit block. -/
abbrev Block := BitVec 128

namespace Block

/-- The sixteen octets of a block. -/
def toBytes (b : Block) : Bytes := Bytes.ofNat 16 b.toNat

/-- The block that up to sixteen octets denote. -/
def ofBytes (bs : Bytes) : Block := BitVec.ofNat 128 (Bytes.toNat bs)

/-- Multiplication by `x` in the field of 2^128 elements with the polynomial
`x^128 + x^7 + x^2 + x + 1`. -/
def double (b : Block) : Block :=
  if b.msb then (b <<< 1) ^^^ 0x87#128 else b <<< 1

/-- Fewer than sixteen octets, followed by a single one bit and zero bits. -/
def padded (bs : Bytes) : Block := ofBytes ((bs ++ 0x80 :: Bytes.zeros 15).take 16)

@[simp]
theorem length_toBytes (b : Block) : b.toBytes.length = 16 := by simp [toBytes]

end Block

/-- A block cipher under a fixed key. -/
abbrev Permutation := Block → Block

end TimeProbe.Aead

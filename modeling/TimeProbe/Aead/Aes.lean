import TimeProbe.Aead.Block

/-!
# The block cipher AES

The cipher works on four columns of four octets. A key of four, six or eight
words is expanded to one round key per round and one more; each round replaces
every octet, shifts the rows, mixes the columns and adds a round key, and the
last round leaves the mixing out.
-/

namespace TimeProbe.Aead.Aes

/-- The substitution of single octets. -/
def sboxTable : Array UInt8 := #[
  0x63, 0x7c, 0x77, 0x7b, 0xf2, 0x6b, 0x6f, 0xc5, 0x30, 0x01, 0x67, 0x2b, 0xfe, 0xd7, 0xab, 0x76,
  0xca, 0x82, 0xc9, 0x7d, 0xfa, 0x59, 0x47, 0xf0, 0xad, 0xd4, 0xa2, 0xaf, 0x9c, 0xa4, 0x72, 0xc0,
  0xb7, 0xfd, 0x93, 0x26, 0x36, 0x3f, 0xf7, 0xcc, 0x34, 0xa5, 0xe5, 0xf1, 0x71, 0xd8, 0x31, 0x15,
  0x04, 0xc7, 0x23, 0xc3, 0x18, 0x96, 0x05, 0x9a, 0x07, 0x12, 0x80, 0xe2, 0xeb, 0x27, 0xb2, 0x75,
  0x09, 0x83, 0x2c, 0x1a, 0x1b, 0x6e, 0x5a, 0xa0, 0x52, 0x3b, 0xd6, 0xb3, 0x29, 0xe3, 0x2f, 0x84,
  0x53, 0xd1, 0x00, 0xed, 0x20, 0xfc, 0xb1, 0x5b, 0x6a, 0xcb, 0xbe, 0x39, 0x4a, 0x4c, 0x58, 0xcf,
  0xd0, 0xef, 0xaa, 0xfb, 0x43, 0x4d, 0x33, 0x85, 0x45, 0xf9, 0x02, 0x7f, 0x50, 0x3c, 0x9f, 0xa8,
  0x51, 0xa3, 0x40, 0x8f, 0x92, 0x9d, 0x38, 0xf5, 0xbc, 0xb6, 0xda, 0x21, 0x10, 0xff, 0xf3, 0xd2,
  0xcd, 0x0c, 0x13, 0xec, 0x5f, 0x97, 0x44, 0x17, 0xc4, 0xa7, 0x7e, 0x3d, 0x64, 0x5d, 0x19, 0x73,
  0x60, 0x81, 0x4f, 0xdc, 0x22, 0x2a, 0x90, 0x88, 0x46, 0xee, 0xb8, 0x14, 0xde, 0x5e, 0x0b, 0xdb,
  0xe0, 0x32, 0x3a, 0x0a, 0x49, 0x06, 0x24, 0x5c, 0xc2, 0xd3, 0xac, 0x62, 0x91, 0x95, 0xe4, 0x79,
  0xe7, 0xc8, 0x37, 0x6d, 0x8d, 0xd5, 0x4e, 0xa9, 0x6c, 0x56, 0xf4, 0xea, 0x65, 0x7a, 0xae, 0x08,
  0xba, 0x78, 0x25, 0x2e, 0x1c, 0xa6, 0xb4, 0xc6, 0xe8, 0xdd, 0x74, 0x1f, 0x4b, 0xbd, 0x8b, 0x8a,
  0x70, 0x3e, 0xb5, 0x66, 0x48, 0x03, 0xf6, 0x0e, 0x61, 0x35, 0x57, 0xb9, 0x86, 0xc1, 0x1d, 0x9e,
  0xe1, 0xf8, 0x98, 0x11, 0x69, 0xd9, 0x8e, 0x94, 0x9b, 0x1e, 0x87, 0xe9, 0xce, 0x55, 0x28, 0xdf,
  0x8c, 0xa1, 0x89, 0x0d, 0xbf, 0xe6, 0x42, 0x68, 0x41, 0x99, 0x2d, 0x0f, 0xb0, 0x54, 0xbb, 0x16]

/-- The substitute of an octet. -/
def sbox (b : UInt8) : UInt8 := sboxTable.getD b.toNat 0

/-- Multiplication by two in the field of 256 elements. -/
def xtime (b : UInt8) : UInt8 := if b.toNat < 128 then b <<< 1 else (b <<< 1) ^^^ 0x1b

/-- A column of the state, or a word of the key. -/
structure Word where
  b0 : UInt8
  b1 : UInt8
  b2 : UInt8
  b3 : UInt8

namespace Word

/-- The sum in the field, octet by octet. -/
def xor (u v : Word) : Word := ⟨u.b0 ^^^ v.b0, u.b1 ^^^ v.b1, u.b2 ^^^ v.b2, u.b3 ^^^ v.b3⟩

/-- Every octet substituted. -/
def sub (w : Word) : Word := ⟨sbox w.b0, sbox w.b1, sbox w.b2, sbox w.b3⟩

/-- The octets moved up by one place. -/
def rotate (w : Word) : Word := ⟨w.b1, w.b2, w.b3, w.b0⟩

/-- The column multiplied by the fixed polynomial `3 x^3 + x^2 + x + 2`. -/
def mix (w : Word) : Word :=
  let all := w.b0 ^^^ w.b1 ^^^ w.b2 ^^^ w.b3
  ⟨w.b0 ^^^ all ^^^ xtime (w.b0 ^^^ w.b1), w.b1 ^^^ all ^^^ xtime (w.b1 ^^^ w.b2),
    w.b2 ^^^ all ^^^ xtime (w.b2 ^^^ w.b3), w.b3 ^^^ all ^^^ xtime (w.b3 ^^^ w.b0)⟩

/-- The octets, first octet first. -/
def toBytes (w : Word) : Bytes := [w.b0, w.b1, w.b2, w.b3]

/-- The words of a byte string; octets after the last full word do not count. -/
def ofBytes : Bytes → List Word
  | a :: b :: c :: d :: rest => ⟨a, b, c, d⟩ :: ofBytes rest
  | _ => []

end Word

/-- The four columns of the state. -/
structure State where
  c0 : Word
  c1 : Word
  c2 : Word
  c3 : Word

namespace State

/-- The sum in the field, octet by octet. -/
def xor (s t : State) : State := ⟨s.c0.xor t.c0, s.c1.xor t.c1, s.c2.xor t.c2, s.c3.xor t.c3⟩

/-- The substitution, octet by octet. -/
def sub (s : State) : State := ⟨s.c0.sub, s.c1.sub, s.c2.sub, s.c3.sub⟩

/-- Row `i` moved by `i` columns. -/
def shiftRows (s : State) : State :=
  ⟨⟨s.c0.b0, s.c1.b1, s.c2.b2, s.c3.b3⟩, ⟨s.c1.b0, s.c2.b1, s.c3.b2, s.c0.b3⟩,
    ⟨s.c2.b0, s.c3.b1, s.c0.b2, s.c1.b3⟩, ⟨s.c3.b0, s.c0.b1, s.c1.b2, s.c2.b3⟩⟩

/-- The mixing of every column. -/
def mixColumns (s : State) : State := ⟨s.c0.mix, s.c1.mix, s.c2.mix, s.c3.mix⟩

/-- The states that a list of words fills, four words each. -/
def ofWords : List Word → List State
  | a :: b :: c :: d :: rest => ⟨a, b, c, d⟩ :: ofWords rest
  | _ => []

/-- The octets, first octet first. -/
def toBytes (s : State) : Bytes := s.c0.toBytes ++ s.c1.toBytes ++ s.c2.toBytes ++ s.c3.toBytes

end State

/-- The words of the expanded key from index `i` on, latest word first in
`done`; `size` is the number of words of the key and `constant` the next round
constant. -/
def expandFrom (size : Nat) : Nat → Nat → UInt8 → List Word → List Word
  | 0, _, _, done => done
  | count + 1, i, constant, done =>
    let last := done.headD ⟨0, 0, 0, 0⟩
    let back := done.getD (size - 1) ⟨0, 0, 0, 0⟩
    if i % size = 0 then
      let next := back.xor ((last.rotate.sub).xor ⟨constant, 0, 0, 0⟩)
      expandFrom size count (i + 1) (xtime constant) (next :: done)
    else if 6 < size ∧ i % size = 4 then
      expandFrom size count (i + 1) constant (back.xor last.sub :: done)
    else expandFrom size count (i + 1) constant (back.xor last :: done)

/-- The round keys of a key: the key itself has `size` words, and the cipher
`size + 6` rounds. -/
def roundKeys (key : Bytes) : List State :=
  let words := Word.ofBytes key
  let size := words.length
  State.ofWords (expandFrom size (4 * (size + 7) - size) size 1 words.reverse).reverse

/-- The rounds after the first round key was added. -/
def rounds : List State → State → State
  | [], s => s
  | [k], s => s.sub.shiftRows.xor k
  | k :: ks, s => rounds ks (s.sub.shiftRows.mixColumns.xor k)

/-- One block enciphered under expanded keys. -/
def encipher (keys : List State) (b : Block) : Block :=
  match keys, State.ofWords (Word.ofBytes b.toBytes) with
  | k :: ks, s :: _ => Block.ofBytes (rounds ks (s.xor k)).toBytes
  | _, _ => b

/-- The cipher under a key of sixteen, twenty-four or thirty-two octets. -/
def permutation (key : Bytes) : Permutation :=
  let keys := roundKeys key
  fun b => encipher keys b

end TimeProbe.Aead.Aes

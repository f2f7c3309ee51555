import TimeProbe.Aead.Cmac

/-!
# Synthetic initialisation vectors

SIV encryption derives the initial counter from everything that it protects: the
tag of the components and the plaintext is the counter of the encryption, and it
is recomputed from the decrypted text to check it. The two block ciphers are
parameters; nothing is used of them but that they are functions.
-/

namespace TimeProbe.Aead

/-- The ciphers that the two halves of a key give. -/
structure SivKey where
  authentication : Permutation
  encryption : Permutation

/-- The exclusive or of a block with the last sixteen octets of a string. -/
def xorEnd (bs : Bytes) (d : Block) : Bytes :=
  bs.take (bs.length - 16) ++ (Block.ofBytes (bs.drop (bs.length - 16)) ^^^ d).toBytes

/-- The tag of a list of components and a final string. -/
def vectorTag (cipher : Permutation) (components : List Bytes) (last : Bytes) : Block :=
  let d := components.foldl (fun d c => d.double ^^^ mac cipher c) (mac cipher (Bytes.zeros 16))
  if last.length < 16 then mac cipher (d.double ^^^ Block.padded last).toBytes
  else mac cipher (xorEnd last d)

/-- The first counter of a tag: two bits are cleared. -/
def firstCounter (tag : Block) : Block := tag &&& 0xffffffffffffffff7fffffff7fffffff#128

/-- A text combined with the key stream of successive counters. -/
def counterMode (cipher : Permutation) (counter : Block) (text : Bytes) : Bytes :=
  let head := List.zipWith (· ^^^ ·) (text.take 16) (cipher counter).toBytes
  match _h : text.drop 16 with
  | [] => head
  | b :: rest => head ++ counterMode cipher (counter + 1) (b :: rest)
termination_by text.length
decreasing_by
  have := congrArg List.length _h
  simp only [List.length_drop, List.length_cons] at this ⊢
  omega

/-- The tag and the ciphertext of a plaintext. -/
def sivSeal (key : SivKey) (components : List Bytes) (plaintext : Bytes) : Bytes :=
  let tag := vectorTag key.authentication components plaintext
  tag.toBytes ++ counterMode key.encryption (firstCounter tag) plaintext

/-- The plaintext of a sealed string, if its tag is the tag of what it decrypts to. -/
def sivOpen? (key : SivKey) (components : List Bytes) (sealed : Bytes) : Option Bytes :=
  let tag := Block.ofBytes (sealed.take 16)
  let plaintext := counterMode key.encryption (firstCounter tag) (sealed.drop 16)
  if vectorTag key.authentication components plaintext = tag then some plaintext else none

end TimeProbe.Aead

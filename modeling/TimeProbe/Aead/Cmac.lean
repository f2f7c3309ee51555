import TimeProbe.Aead.Block

/-!
# Message authentication by a block cipher

CMAC chains the blocks of a message through a block cipher. The last block is
masked with one of two keys derived from the cipher, according to whether the
message fills it.
-/

namespace TimeProbe.Aead

/-- The chained tag of a message, from the chaining value `state` on; `full` masks
a last block that is complete and `part` one that is not. -/
def macFrom (cipher : Permutation) (full part state : Block) (message : Bytes) : Block :=
  let head := message.take 16
  match _h : message.drop 16 with
  | [] =>
    if head.length = 16 then cipher (state ^^^ Block.ofBytes head ^^^ full)
    else cipher (state ^^^ Block.padded head ^^^ part)
  | b :: rest => macFrom cipher full part (cipher (state ^^^ Block.ofBytes head)) (b :: rest)
termination_by message.length
decreasing_by
  have := congrArg List.length _h
  simp only [List.length_drop, List.length_cons] at this ⊢
  omega

/-- The authentication tag of a message. -/
def mac (cipher : Permutation) (message : Bytes) : Block :=
  let full := (cipher 0).double
  macFrom cipher full full.double 0 message

end TimeProbe.Aead

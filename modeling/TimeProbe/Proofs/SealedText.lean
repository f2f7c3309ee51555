import TimeProbe.Aead.Cipher
import TimeProbe.Proofs.Words

/-!
# Opening what was sealed

The key stream of counter mode is added to a text by exclusive or, so that adding it
twice restores the text. A sealed text starts with its tag, from which the key stream
is found again, and the tag of the restored text is the one that the seal has. So a text
is opened exactly if it was sealed. Nothing is used of the block ciphers but that they are
functions.
-/

namespace TimeProbe.Aead

/-- Sixteen octets denote the block that they were written from. -/
@[simp]
theorem Block.ofBytes_toBytes (b : Block) : Block.ofBytes b.toBytes = b := by
  have hspan : Bytes.span 16 = Nat.pow 2 128 := by decide
  have hlt : b.toNat < Nat.pow 2 128 := b.isLt
  rw [Block.ofBytes, Block.toBytes, Bytes.toNat_ofNat, hspan, Nat.mod_eq_of_lt hlt,
    BitVec.ofNat_toNat, BitVec.setWidth_eq]

/-- A block is written as the sixteen octets that it was read from. -/
theorem Block.toBytes_ofBytes {bs : Bytes} (h : bs.length = 16) :
    (Block.ofBytes bs).toBytes = bs := by
  have hspan : Bytes.span 16 = Nat.pow 2 128 := by decide
  have hlt : Bytes.toNat bs < Nat.pow 2 128 := by
    rw [← hspan, ← h]
    exact Bytes.toNat_lt bs
  have hread : (Block.ofBytes bs).toNat = Bytes.toNat bs := by
    rw [Block.ofBytes, BitVec.toNat_ofNat]
    exact Nat.mod_eq_of_lt hlt
  rw [Block.toBytes, hread, ← h]
  exact Bytes.ofNat_toNat bs

/-- A text combined twice with the same octets is itself again. -/
theorem zipWith_xor_cancel {text stream : Bytes} (h : text.length ≤ stream.length) :
    List.zipWith (· ^^^ ·) (List.zipWith (· ^^^ ·) text stream) stream = text := by
  induction text generalizing stream with
  | nil => rfl
  | cons b bs ih =>
    cases stream with
    | nil => simp at h
    | cons k ks =>
      have hcancel : b ^^^ k ^^^ k = b := by rw [UInt8.xor_assoc, UInt8.xor_self, UInt8.xor_zero]
      simp only [List.length_cons, Nat.add_le_add_iff_right] at h
      simp only [List.zipWith_cons_cons, hcancel, ih h]

/-- A text of at most one block is combined with the key stream of one counter. -/
theorem counterMode_of_length_le (cipher : Permutation) (counter : Block) {text : Bytes}
    (h : text.length ≤ 16) :
    counterMode cipher counter text = List.zipWith (· ^^^ ·) text (cipher counter).toBytes := by
  rw [counterMode]
  split
  · rw [List.take_of_length_le h]
  · next b rest hdrop => simp [List.drop_of_length_le h] at hdrop

/-- A full block in front of a text is combined with the key stream of its own counter. -/
theorem counterMode_append (cipher : Permutation) (counter : Block) {block : Bytes}
    (rest : Bytes) (h : block.length = 16) :
    counterMode cipher counter (block ++ rest) =
      List.zipWith (· ^^^ ·) block (cipher counter).toBytes ++
        counterMode cipher (counter + 1) rest := by
  have hdrop : (block ++ rest).drop 16 = rest := by rw [← h, List.drop_left]
  have htake : (block ++ rest).take 16 = block := by rw [← h, List.take_left]
  rw [counterMode]
  split
  · next hnil =>
    rw [hdrop] at hnil
    rw [htake, hnil, counterMode_of_length_le _ _ (by simp)]
    simp
  · next b bs hcons =>
    rw [hdrop] at hcons
    rw [htake, ← hcons]

/-- A text of more than one block starts with a full block. -/
theorem exists_block_append {text : Bytes} (h : ¬ text.length ≤ 16) :
    ∃ block rest : Bytes, block.length = 16 ∧ rest.length < text.length ∧ text = block ++ rest := by
  refine ⟨text.take 16, text.drop 16, ?_, ?_, (List.take_append_drop 16 text).symm⟩
  · rw [List.length_take]
    omega
  · rw [List.length_drop]
    omega

/-- Counter mode keeps the length of a text. -/
@[simp]
theorem length_counterMode (cipher : Permutation) (counter : Block) (text : Bytes) :
    (counterMode cipher counter text).length = text.length := by
  induction hlen : text.length using Nat.strongRecOn generalizing counter text with
  | ind n ih =>
    by_cases hshort : text.length ≤ 16
    · rw [counterMode_of_length_le _ _ hshort, List.length_zipWith, Block.length_toBytes]
      omega
    · obtain ⟨block, rest, hblock, hrest, rfl⟩ := exists_block_append hshort
      rw [counterMode_append _ _ _ hblock, List.length_append, ih _ (hlen ▸ hrest) _ _ rfl,
        List.length_zipWith, Block.length_toBytes, hblock, ← hlen, List.length_append, hblock,
        Nat.min_self]

/-- Counter mode is its own inverse. -/
theorem counterMode_counterMode (cipher : Permutation) (counter : Block) (text : Bytes) :
    counterMode cipher counter (counterMode cipher counter text) = text := by
  induction hlen : text.length using Nat.strongRecOn generalizing counter text with
  | ind n ih =>
    by_cases hshort : text.length ≤ 16
    · have hcovered : text.length ≤ (cipher counter).toBytes.length := by
        rwa [Block.length_toBytes]
      rw [counterMode_of_length_le _ _ (by rwa [length_counterMode]),
        counterMode_of_length_le _ _ hshort, zipWith_xor_cancel hcovered]
    · obtain ⟨block, rest, hblock, hrest, rfl⟩ := exists_block_append hshort
      have hcovered : block.length ≤ (cipher counter).toBytes.length := by
        rw [Block.length_toBytes]
        exact Nat.le_of_eq hblock
      have hmixed : (List.zipWith (· ^^^ ·) block (cipher counter).toBytes).length = 16 := by
        rw [List.length_zipWith, hblock, Block.length_toBytes, Nat.min_self]
      rw [counterMode_append _ _ _ hblock, counterMode_append _ _ _ hmixed,
        zipWith_xor_cancel hcovered, ih _ (hlen ▸ hrest) _ _ rfl]

/-- A sealed text is sixteen octets longer than what was sealed. -/
theorem length_sivSeal (key : SivKey) (components : List Bytes) (plaintext : Bytes) :
    (sivSeal key components plaintext).length = 16 + plaintext.length := by
  simp [sivSeal]

/-- Opening gives back what was sealed under the same key and with the same components. -/
theorem sivOpen?_sivSeal (key : SivKey) (components : List Bytes) (plaintext : Bytes) :
    sivOpen? key components (sivSeal key components plaintext) = some plaintext := by
  have htag := Block.length_toBytes (vectorTag key.authentication components plaintext)
  rw [sivOpen?, sivSeal, List.take_left' htag, List.drop_left' htag]
  simp only [Block.ofBytes_toBytes, counterMode_counterMode, if_pos]

/-- A text of at least sixteen octets is opened exactly if it is the seal of what it opens to. -/
theorem sivOpen?_eq_some_iff {key : SivKey} {components : List Bytes} {text plaintext : Bytes}
    (h : 16 ≤ text.length) :
    sivOpen? key components text = some plaintext ↔ sivSeal key components plaintext = text := by
  constructor
  · intro hopen
    rw [sivOpen?] at hopen
    split at hopen
    · next htag =>
      obtain rfl := Option.some.inj hopen
      have htext : (text.take 16).length = 16 := List.length_take_of_le h
      rw [sivSeal, htag]
      simp only [counterMode_counterMode, Block.toBytes_ofBytes htext, List.take_append_drop]
    · cases hopen
  · rintro rfl
    exact sivOpen?_sivSeal key components plaintext

/-- What a cipher sealed is sixteen octets longer than the plaintext. -/
theorem Cipher.length_encrypt (c : Cipher) (nonce associated plaintext : Bytes) :
    (c.encrypt nonce associated plaintext).length = 16 + plaintext.length :=
  length_sivSeal c.sivKey [associated, nonce] plaintext

/-- A cipher opens what it sealed under a nonce that is not empty. -/
theorem Cipher.decrypt_encrypt (c : Cipher) {nonce : Bytes} (associated plaintext : Bytes)
    (h : nonce ≠ []) :
    c.decrypt nonce associated (c.encrypt nonce associated plaintext) = .ok plaintext := by
  have hlength : ¬ (c.encrypt nonce associated plaintext).length < 16 := by
    rw [c.length_encrypt]
    omega
  have hnonce : ¬ nonce.isEmpty = true := by simpa using h
  rw [Cipher.decrypt, if_neg hlength, if_neg hnonce, Cipher.encrypt, sivOpen?_sivSeal]

/-- A cipher opens exactly what it sealed under a nonce that is not empty. -/
theorem Cipher.decrypt_eq_ok_iff {c : Cipher} {nonce associated text plaintext : Bytes} :
    c.decrypt nonce associated text = .ok plaintext ↔
      nonce ≠ [] ∧ c.encrypt nonce associated plaintext = text := by
  constructor
  · intro h
    rw [Cipher.decrypt] at h
    split at h
    · cases h
    split at h
    · cases h
    next hlength hnonce =>
    cases hopen : sivOpen? c.sivKey [associated, nonce] text with
    | none => simp [hopen] at h
    | some opened =>
      simp only [hopen, Except.ok.injEq] at h
      subst h
      exact ⟨by simpa using hnonce, (sivOpen?_eq_some_iff (Nat.not_lt.mp hlength)).mp hopen⟩
  · rintro ⟨hnonce, rfl⟩
    exact c.decrypt_encrypt associated plaintext hnonce

end TimeProbe.Aead

import TimeProbe.Aead.Aes
import TimeProbe.Aead.Siv

/-!
# The ciphers of Network Time Security

An algorithm is one of the three AES-SIV variants with their registered numbers.
A cipher is a key of the algorithm's length. What it seals is bound to the
associated data and to a nonce that must not be empty.
-/

namespace TimeProbe.Aead

/-- The registered algorithms that can be used. -/
inductive Algorithm
  | sivCmac256
  | sivCmac384
  | sivCmac512
deriving DecidableEq, Inhabited

namespace Algorithm

/-- The registered number. -/
def number : Algorithm → Nat
  | sivCmac256 => 15
  | sivCmac384 => 16
  | sivCmac512 => 17

/-- The algorithm with a registered number. -/
def ofNumber? : Nat → Option Algorithm
  | 15 => some sivCmac256
  | 16 => some sivCmac384
  | 17 => some sivCmac512
  | _ => none

/-- The key length in octets. -/
def keyLength : Algorithm → Nat
  | sivCmac256 => 32
  | sivCmac384 => 48
  | sivCmac512 => 64

/-- The registered name. -/
def name : Algorithm → String
  | sivCmac256 => "AEAD_AES_SIV_CMAC_256"
  | sivCmac384 => "AEAD_AES_SIV_CMAC_384"
  | sivCmac512 => "AEAD_AES_SIV_CMAC_512"

theorem ofNumber?_number (a : Algorithm) : ofNumber? a.number = some a := by cases a <;> rfl

theorem number_of_ofNumber? {n : Nat} {a : Algorithm} (h : ofNumber? n = some a) :
    a.number = n := by
  unfold ofNumber? at h
  split at h <;> simp_all [number] <;> subst h <;> rfl

end Algorithm

/-- A key of the length its algorithm asks for. -/
structure Cipher where
  algorithm : Algorithm
  key : Bytes
  key_length : key.length = algorithm.keyLength
deriving DecidableEq

namespace Cipher

/-- Why no cipher can be made: the key has the wrong length. -/
structure KeyError where
  algorithm : Algorithm
  length : Nat

/-- The cipher of a key, if the length fits. -/
def make (algorithm : Algorithm) (key : Bytes) : Except KeyError Cipher :=
  if h : key.length = algorithm.keyLength then .ok ⟨algorithm, key, h⟩
  else .error ⟨algorithm, key.length⟩

/-- The two block ciphers of a key: the first half authenticates. -/
def sivKey (c : Cipher) : SivKey :=
  let half := c.key.length / 2
  ⟨Aes.permutation (c.key.take half), Aes.permutation (c.key.drop half)⟩

/-- The tag followed by the ciphertext, for a nonce that is not empty. -/
def encrypt (c : Cipher) (nonce associated plaintext : Bytes) : Bytes :=
  sivSeal c.sivKey [associated, nonce] plaintext

/-- Why a sealed string was not opened. -/
inductive DecryptError
  | shorterThanTag (length : Nat)
  | emptyNonce
  | rejected
deriving DecidableEq

/-- The plaintext of a sealed string. -/
def decrypt (c : Cipher) (nonce associated sealed : Bytes) : Except DecryptError Bytes :=
  if sealed.length < 16 then .error (.shorterThanTag sealed.length)
  else if nonce.isEmpty then .error .emptyNonce
  else match sivOpen? c.sivKey [associated, nonce] sealed with
    | some plaintext => .ok plaintext
    | none => .error .rejected

/-- The cipher by the name of its algorithm; the key stays hidden. -/
def describe (c : Cipher) : String := "NtsCipher(" ++ c.algorithm.name ++ ")"

end Cipher

end TimeProbe.Aead

import TimeProbe.Packet.Extension

/-!
# The content of an authenticator field

The payload declares the lengths of a nonce and of a ciphertext, then holds both
with padding between them. `split` takes it apart again.
-/

namespace TimeProbe

/-- A nonce and what was sealed under it. -/
structure Authenticator where
  nonce : Bytes
  ciphertext : Bytes
deriving DecidableEq

/-- Why a payload is no authenticator. -/
inductive AuthenticatorError
  | tooShort
  | emptyNonce
  | overrun (nonceLength ciphertextLength fieldLength : Nat)
deriving DecidableEq

namespace AuthenticatorError

/-- What the error says. -/
def message : AuthenticatorError → String
  | tooShort => "Authenticator field too short for its length header"
  | emptyNonce => "Authenticator carries an empty nonce"
  | overrun .. => "Authenticator nonce and ciphertext lengths exceed the field"

end AuthenticatorError

namespace Authenticator

/-- The nonce and the ciphertext of a payload. -/
def split (payload : Bytes) : Except AuthenticatorError Authenticator :=
  match payload with
  | n1 :: n0 :: c1 :: c0 :: rest =>
    let nonceLength := Bytes.toNat [n1, n0]
    let ciphertextLength := Bytes.toNat [c1, c0]
    let start := nonceLength + Bytes.gap nonceLength
    if nonceLength = 0 then .error .emptyNonce
    else if rest.length < start + ciphertextLength then
      .error (.overrun nonceLength ciphertextLength payload.length)
    else .ok ⟨rest.take nonceLength, (rest.drop start).take ciphertextLength⟩
  | _ => .error .tooShort

end Authenticator

end TimeProbe

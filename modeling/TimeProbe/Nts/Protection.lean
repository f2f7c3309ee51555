import TimeProbe.Aead.Cipher
import TimeProbe.Entropy
import TimeProbe.Nts.Authenticator
import TimeProbe.Packet.Basic

/-!
# Protected packets

A protected request carries, behind its own fields, a unique identifier, a cookie,
placeholders for further cookies, and an authenticator over everything before it.
Opening a reply verifies the first authenticator it has; a reply without one is
returned as it is, marked as not authenticated.
-/

namespace TimeProbe

open TimeProbe.Aead

/-- The ciphers of both directions. -/
structure KeyPair where
  clientToServer : Cipher
  serverToClient : Cipher
deriving DecidableEq

/-- The number of random octets of a unique identifier and of a nonce. -/
def uidLength : Nat := 32

/-- The number of octets of a nonce that is drawn. -/
def nonceLength : Nat := 16

/-- A unique identifier field; an absent or empty identifier is drawn at random. -/
def ExtensionField.freshIdentifier (uid : Option Bytes) (e : Entropy) :
    ExtensionField × Entropy :=
  match uid with
  | some (b :: bs) => (uniqueIdentifier (b :: bs), e)
  | _ =>
    let (bs, e) := e.draw uidLength
    (uniqueIdentifier bs, e)

/-- The nonce of a message: the given one, or a random one if it is absent or empty. -/
def freshNonce (nonce : Option Bytes) (e : Entropy) : Bytes × Entropy :=
  match nonce with
  | some (b :: bs) => (b :: bs, e)
  | _ => e.draw nonceLength

/-- What a protected request adds to a packet. -/
structure Protection where
  cookie : Bytes
  placeholders : Nat := 0
  uid : Option Bytes := none
  /-- Fields that travel inside the ciphertext. -/
  plaintextFields : List ExtensionField := []

namespace Protection

/-- The packet in front of the authenticator. -/
def associated (p : Protection) (packet : Packet) (uidField : ExtensionField) : Packet :=
  packet.withFields ([uidField, ExtensionField.cookie p.cookie] ++
    List.replicate p.placeholders (ExtensionField.cookiePlaceholder p.cookie.length))

/-- The request octets, and what a reply has to echo. -/
def apply (p : Protection) (packet : Packet) (cipher : Cipher) (e : Entropy) :
    Except WordError (Bytes × Identifier) × Entropy :=
  let uidField := ExtensionField.freshIdentifier p.uid e
  let nonce := freshNonce none uidField.2
  let associated := (p.associated packet uidField.1).encode
  let plaintext := p.plaintextFields.flatMap (·.encode)
  let field := ExtensionField.authenticator nonce.1 (cipher.encrypt nonce.1 associated plaintext)
  (field.map fun f => (associated ++ f.encode, ⟨packet.transmitTimestamp, some uidField.1.payload⟩),
    nonce.2)

end Protection

/-- A reply that was opened. -/
structure OpenedReply where
  packet : Packet
  authenticated : Bool
  encrypted : List ExtensionField
deriving DecidableEq, Inhabited

/-- Why a datagram is no acceptable reply. -/
inductive ReplyError
  | packet (error : PacketError)
  | authenticator (error : AuthenticatorError)
  | cipher (error : Cipher.DecryptError)
  | encrypted (error : ExtensionError)
deriving DecidableEq

/-- Whether a field found by a scan is an authenticator. -/
def isAuthenticator (entry : Int × ExtensionField) : Bool :=
  entry.2.fieldType == ExtensionType.ntsAuthenticator.code

namespace OpenedReply

/-- The fields inside an authenticator that stands at an offset of a datagram. -/
def openField (data : Bytes) (cipher : Cipher) (offset : Int) (f : ExtensionField) :
    Except ReplyError (List ExtensionField) :=
  match Authenticator.split f.payload with
  | .error e => .error (.authenticator e)
  | .ok a =>
    match cipher.decrypt a.nonce (data.take offset.toNat) a.ciphertext with
    | .error e => .error (.cipher e)
    | .ok plaintext =>
      match (ExtensionScan.scan 0 plaintext).complete with
      | .error e => .error (.encrypted e)
      | .ok fields => .ok fields

/-- The reply that a datagram holds, verified if it has an authenticator. -/
def ofDatagram (data : Bytes) (cipher : Cipher) : Except ReplyError OpenedReply :=
  match Packet.decode data with
  | .error e => .error (.packet e)
  | .ok packet =>
    let scan := ExtensionScan.scan Packet.headerLength (data.drop Packet.headerLength)
    match scan.fields.find? isAuthenticator with
    | none => .ok ⟨packet, false, []⟩
    | some (offset, f) => (openField data cipher offset f).map (⟨packet, true, ·⟩)

/-- The cookies that came under protection. -/
def newCookies (r : OpenedReply) : List Bytes :=
  (r.encrypted.filter (·.fieldType = ExtensionType.ntsCookie.code)).map (·.payload)

end OpenedReply

end TimeProbe

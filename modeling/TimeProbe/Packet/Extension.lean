import TimeProbe.Bytes
import TimeProbe.Text.Quoted

/-!
# Extension fields

An extension field is a type, a length and a payload behind the packet header.
A field may declare another length than it has, so that requests can break the
wire rules on purpose. `scan` splits a byte string into fields and says where
and why it stops, and `scanFrom` does so from an offset that may count from the end;
`encode` writes a field.
-/

namespace TimeProbe

/-- Why a number does not fit into a sixteen bit word of a wire format. -/
inductive WordError
  | outOfWord
  | outOfRange
deriving DecidableEq

namespace WordError

/-- The error of a number outside the range of a word. A number below zero or of more
than sixty-four bits is told apart from the others. -/
def ofInt (i : Int) : WordError := if 0 ≤ i ∧ i < Bytes.span 8 then outOfWord else outOfRange

/-- What the error says. -/
def message : WordError → String
  | outOfWord => "'H' format requires 0 <= number <= 65535"
  | outOfRange => "argument out of range"

end WordError

/-- A sixteen bit word, refused where the number does not fit. -/
def Bytes.word? (i : Int) : Except WordError Bytes :=
  if 0 ≤ i ∧ i ≤ 65535 then .ok (Bytes.ofInt 2 i) else .error (.ofInt i)

/-- The types of the extension fields that time security uses. -/
inductive ExtensionType
  | uniqueIdentifier
  | ntsCookie
  | ntsCookiePlaceholder
  | ntsAuthenticator
deriving DecidableEq

namespace ExtensionType

/-- The number of a type. -/
def code : ExtensionType → Int
  | uniqueIdentifier => 0x0104
  | ntsCookie => 0x0204
  | ntsCookiePlaceholder => 0x0304
  | ntsAuthenticator => 0x0404

/-- The name of a type in descriptions. -/
def name : ExtensionType → String
  | uniqueIdentifier => "UNIQUE_IDENTIFIER"
  | ntsCookie => "NTS_COOKIE"
  | ntsCookiePlaceholder => "NTS_COOKIE_PLACEHOLDER"
  | ntsAuthenticator => "NTS_AUTHENTICATOR"

/-- The type with a number. -/
def ofCode? (i : Int) : Option ExtensionType :=
  [uniqueIdentifier, ntsCookie, ntsCookiePlaceholder, ntsAuthenticator].find? (·.code = i)

end ExtensionType

/-- One field behind the packet header. The payload is kept as it stands on the
wire, padding included. -/
structure ExtensionField where
  fieldType : Int
  payload : Bytes := []
  declaredLength : Option Int := none
deriving DecidableEq, Inhabited

namespace ExtensionField

/-- The octets in front of a payload. -/
def headerLength : Nat := 4

/-- The least length of a field that is built to the rules. -/
def minimumLength : Nat := 16

/-- A value padded with zeros to a multiple of four and to a least length. -/
def padPayload (minimum : Nat) (data : Bytes) : Bytes := data.align.extend minimum

/-- A field built to the rules. -/
def build (fieldType : Int) (data : Bytes) : ExtensionField :=
  ⟨fieldType, padPayload (minimumLength - headerLength) data, none⟩

/-- A field with a unique identifier. -/
def uniqueIdentifier (uid : Bytes) : ExtensionField :=
  build ExtensionType.uniqueIdentifier.code uid

/-- A field with a cookie. -/
def cookie (data : Bytes) : ExtensionField := build ExtensionType.ntsCookie.code data

/-- A field that asks for one more cookie of the given length. -/
def cookiePlaceholder (length : Nat) : ExtensionField :=
  build ExtensionType.ntsCookiePlaceholder.code (Bytes.zeros length)

/-- The field that authenticates all octets before it: two lengths, then the nonce
and the ciphertext, each padded. -/
def authenticator (nonce ciphertext : Bytes) : Except WordError ExtensionField := do
  let nonceLength ← Bytes.word? nonce.length
  let ciphertextLength ← Bytes.word? ciphertext.length
  return build ExtensionType.ntsAuthenticator.code
    (nonceLength ++ ciphertextLength ++ nonce.align ++ ciphertext.align)

/-- Whether the type is one of those that time security uses. -/
def isKnown (f : ExtensionField) : Bool := (ExtensionType.ofCode? f.fieldType).isSome

/-- The octets of a field with a body and a length of their own: both words are
reduced to sixteen bits. -/
def frame (fieldType length : Int) (body : Bytes) : Bytes :=
  Bytes.ofInt 2 fieldType ++ Bytes.ofInt 2 length ++ body

/-- The octets of a field. -/
def encode (f : ExtensionField) : Bytes :=
  let body := f.payload.align
  frame f.fieldType (f.declaredLength.getD (headerLength + body.length)) body

/-- A number in four or more lower-case hexadecimal digits, the sign counted. -/
def hexCode (i : Int) : String :=
  if i < 0 then "-" ++ Text.hexPadded 3 i.natAbs else Text.hexPadded 4 i.natAbs

/-- The text of a field in messages. -/
def describe (f : ExtensionField) : String :=
  let name := match ExtensionType.ofCode? f.fieldType with
    | some t => t.name
    | none => "0x" ++ hexCode f.fieldType
  let extra := match f.declaredLength with
    | some n => s!", declared_length={n}"
    | none => ""
  "ExtensionField(" ++ name ++ ", " ++ Bytes.hex f.payload ++ extra ++ ")"

end ExtensionField

/-- Why a byte string is no sequence of extension fields, and where it goes wrong. -/
inductive ExtensionError
  | noHeader (offset : Int) (remaining : Nat)
  | badLength (offset : Int) (length : Nat)
  | overrun (offset : Int) (length remaining : Nat)
deriving DecidableEq

namespace ExtensionError

/-- The place in the datagram at which the error is. -/
def offset : ExtensionError → Int
  | noHeader offset _ => offset
  | badLength offset _ => offset
  | overrun offset _ _ => offset

/-- What the error says. -/
def message : ExtensionError → String
  | noHeader _ remaining => s!"{remaining} trailing bytes cannot hold an extension field header"
  | badLength _ length => s!"Extension field length {length} is not a valid multiple of 4"
  | overrun _ length remaining =>
    s!"Extension field length {length} exceeds remaining {remaining} bytes"

end ExtensionError

/-- The fields found, each with its offset, and the error that ended the search. -/
structure ExtensionScan where
  fields : List (Int × ExtensionField) := []
  stopped : Option ExtensionError := none
deriving DecidableEq, Inhabited

namespace ExtensionScan

/-- The scan with one more field in front. -/
def cons (offset : Int) (f : ExtensionField) (s : ExtensionScan) : ExtensionScan :=
  { s with fields := (offset, f) :: s.fields }

/-- The fields of a byte string that starts at the given offset of its datagram. -/
def scan (offset : Int) (data : Bytes) : ExtensionScan :=
  match data with
  | [] => {}
  | t1 :: t0 :: n1 :: n0 :: rest =>
    let length := Bytes.toNat [n1, n0]
    let size := length - ExtensionField.headerLength
    if length < ExtensionField.headerLength ∨ length % 4 ≠ 0 then
      { stopped := some (.badLength offset length) }
    else
      let payload := rest.take size
      if payload.length < size then
        { stopped := some (.overrun offset length (rest.length + ExtensionField.headerLength)) }
      else
        (scan (offset + length) (rest.drop size)).cons offset
          ⟨Bytes.toNat [t1, t0], payload, none⟩
  | short => { stopped := some (.noHeader offset short.length) }
termination_by data.length

/-- All fields, or the error if the search was ended by one. -/
def complete (s : ExtensionScan) : Except ExtensionError (List ExtensionField) :=
  match s.stopped with
  | some e => .error e
  | none => .ok (s.fields.map (·.2))

end ExtensionScan

/-- Why no field header can be read at an offset below zero, which counts from the end. -/
inductive OffsetError
  /-- The header would reach over the end. -/
  | acrossEnd (offset : Int)
  /-- The offset lies in front of the octets. -/
  | beforeStart (offset : Int) (length : Nat)
deriving DecidableEq

/-- What the error says. -/
def OffsetError.message : OffsetError → String
  | acrossEnd offset => s!"not enough data to unpack 4 bytes at offset {offset}"
  | beforeStart offset length => s!"offset {offset} out of range for {length}-byte buffer"

namespace ExtensionScan

/-- The octets between two offsets, each of which counts from the end if it is below zero. -/
def between (data : Bytes) (start stop : Int) : Bytes :=
  let place (i : Int) : Nat := (if i < 0 then data.length + i else i).toNat
  (data.take (place stop)).drop (place start)

/-- The fields of a datagram from an offset on. An offset below zero counts from the end,
but as far as the octets that remain are concerned it lies in front of the datagram, so
the search goes on at the start once it reaches zero. -/
def scanFrom (data : Bytes) (offset : Int) : Except OffsetError ExtensionScan :=
  if 0 ≤ offset then .ok (scan offset (data.drop offset.toNat))
  else
    let remaining := (data.length - offset).toNat
    let header := (data.drop (data.length + offset).toNat).take 4
    let length := Bytes.toNat (header.drop 2)
    if remaining < 4 then .ok { stopped := some (.noHeader offset remaining) }
    else if 0 < offset + 4 then .error (.acrossEnd offset)
    else if data.length + offset < 0 then .error (.beforeStart offset data.length)
    else if length < 4 ∨ length % 4 ≠ 0 then .ok { stopped := some (.badLength offset length) }
    else if remaining < length then .ok { stopped := some (.overrun offset length remaining) }
    else
      (scanFrom data (offset + length)).map (·.cons offset
        ⟨Bytes.toNat (header.take 2), between data (offset + 4) (offset + length), none⟩)
termination_by (-offset).toNat
decreasing_by
  change (-(offset + (length : Int))).toNat < (-offset).toNat
  omega

end ExtensionScan

end TimeProbe

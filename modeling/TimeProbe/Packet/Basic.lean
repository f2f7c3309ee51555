import TimeProbe.Packet.Extension

/-!
# NTP packets

A packet is the header of 48 octets and the extension fields behind it. Header
values may be any integers; writing reduces them to the width of their field,
and reading returns the two signed ones with their sign. `decode` accepts the
versions three and four.
-/

namespace TimeProbe

/-- The association modes. -/
inductive Mode
  | reserved
  | symmetricActive
  | symmetricPassive
  | client
  | server
  | broadcast
  | control
  | privateUse
deriving DecidableEq, Inhabited

namespace Mode

/-- All modes, by number. -/
def all : List Mode :=
  [reserved, symmetricActive, symmetricPassive, client, server, broadcast, control, privateUse]

/-- The number of a mode. -/
def code : Mode → Int
  | reserved => 0
  | symmetricActive => 1
  | symmetricPassive => 2
  | client => 3
  | server => 4
  | broadcast => 5
  | control => 6
  | privateUse => 7

/-- The mode with a number. -/
def ofCode? (i : Int) : Option Mode := all.find? (·.code = i)

/-- The name of a mode in descriptions. -/
def name : Mode → String
  | reserved => "RESERVED"
  | symmetricActive => "SYMMETRIC_ACTIVE"
  | symmetricPassive => "SYMMETRIC_PASSIVE"
  | client => "CLIENT"
  | server => "SERVER"
  | broadcast => "BROADCAST"
  | control => "CONTROL"
  | privateUse => "PRIVATE"

end Mode

/-- A packet header with the extension fields that follow it. -/
structure Packet where
  leap : Int := 0
  version : Int := 4
  mode : Int := Mode.client.code
  stratum : Int := 0
  poll : Int := 0
  precision : Int := 0
  rootDelay : Int := 0
  rootDispersion : Int := 0
  referenceId : Bytes := [0, 0, 0, 0]
  referenceTimestamp : Int := 0
  originTimestamp : Int := 0
  receiveTimestamp : Int := 0
  transmitTimestamp : Int := 0
  extensionFields : List ExtensionField := []
deriving DecidableEq, Inhabited

/-- Why a datagram is no packet. -/
inductive PacketError
  | truncated (length : Nat)
  | unsupportedVersion (version : Nat)
  | extension (error : ExtensionError)
deriving DecidableEq

namespace PacketError

/-- What the error says. -/
def message : PacketError → String
  | truncated length => s!"Packet has {length} bytes, header needs 48"
  | unsupportedVersion version => s!"Unsupported NTP version {version}"
  | extension e => e.message

end PacketError

namespace Packet

/-- The length of the header. -/
def headerLength : Nat := 48

/-- The versions that are decoded. -/
def supportedVersions : List Nat := [3, 4]

/-- The poll exponent of a request unless another one is asked for. -/
def defaultPoll : Int := 4

/-- The first octet: two bits of leap, three of version, three of mode. -/
def firstOctet (p : Packet) : Int := p.leap % 4 * 64 + p.version % 8 * 8 + p.mode % 8

/-- The header; every value is reduced to the width of its field. -/
def encodeHeader (p : Packet) : Bytes :=
  Bytes.ofInt 1 p.firstOctet ++ Bytes.ofInt 1 p.stratum ++ Bytes.ofInt 1 p.poll ++
    Bytes.ofInt 1 p.precision ++ Bytes.ofInt 4 p.rootDelay ++ Bytes.ofInt 4 p.rootDispersion ++
    (p.referenceId ++ Bytes.zeros 4).take 4 ++ Bytes.ofInt 8 p.referenceTimestamp ++
    Bytes.ofInt 8 p.originTimestamp ++ Bytes.ofInt 8 p.receiveTimestamp ++
    Bytes.ofInt 8 p.transmitTimestamp

/-- The octets of a packet. -/
def encode (p : Packet) : Bytes := p.encodeHeader ++ p.extensionFields.flatMap (·.encode)

/-- The `length` octets of a string from an offset on, as a number. -/
def word (data : Bytes) (offset length : Nat) : Nat :=
  Bytes.toNat ((data.drop offset).take length)

/-- The header that the first 48 octets hold. -/
def decodeHeader (header : Bytes) : Packet :=
  let first := word header 0 1
  { leap := first / 64
    version := first / 8 % 8
    mode := first % 8
    stratum := word header 1 1
    poll := Bytes.signed (UInt8.ofNat (word header 2 1))
    precision := Bytes.signed (UInt8.ofNat (word header 3 1))
    rootDelay := word header 4 4
    rootDispersion := word header 8 4
    referenceId := (header.drop 12).take 4
    referenceTimestamp := word header 16 8
    originTimestamp := word header 24 8
    receiveTimestamp := word header 32 8
    transmitTimestamp := word header 40 8
    extensionFields := [] }

/-- The packet that a datagram holds. -/
def decode (data : Bytes) : Except PacketError Packet :=
  let header := data.take headerLength
  if header.length < headerLength then .error (.truncated header.length)
  else
    let version := word header 0 1 / 8 % 8
    if version ∉ supportedVersions then .error (.unsupportedVersion version)
    else match (ExtensionScan.scan headerLength (data.drop headerLength)).complete with
      | .error e => .error (.extension e)
      | .ok fields => .ok { decodeHeader header with extensionFields := fields }

/-- The fields of one type, in order. -/
def fieldsOfType (p : Packet) (fieldType : Int) : List ExtensionField :=
  p.extensionFields.filter (·.fieldType = fieldType)

/-- The packet with more fields behind its own. -/
def withFields (p : Packet) (fields : List ExtensionField) : Packet :=
  { p with extensionFields := p.extensionFields ++ fields }

/-- An octet as ASCII, with a replacement character for those that are none. -/
def asciiChar (b : UInt8) : Char := if b.toNat < 128 then Char.ofNat b.toNat else '\ufffd'

/-- The code that a server of stratum zero puts in place of a reference. -/
def kissCode? (p : Packet) : Option String :=
  if p.stratum = 0 then some (String.ofList (p.referenceId.map asciiChar)) else none

/-- The text of a packet in messages. -/
def describe (p : Packet) : String :=
  "NtpPacket(" ++ String.intercalate ", " [
    s!"leap={p.leap}", s!"version={p.version}", s!"mode={p.mode}", s!"stratum={p.stratum}",
    s!"poll={p.poll}", s!"precision={p.precision}", s!"root_delay={p.rootDelay}",
    s!"root_dispersion={p.rootDispersion}", "reference_id=" ++ Text.quotedBytes p.referenceId,
    s!"reference_timestamp={p.referenceTimestamp}", s!"origin_timestamp={p.originTimestamp}",
    s!"receive_timestamp={p.receiveTimestamp}", s!"transmit_timestamp={p.transmitTimestamp}",
    "extension_fields=" ++ Text.listed (p.extensionFields.map (·.describe))] ++ ")"

end Packet

/-- What a reply has to echo to answer one request. -/
structure Identifier where
  origin : Int
  uid : Option Bytes := none
deriving DecidableEq, Inhabited

namespace Identifier

/-- Whether a packet echoes the origin timestamp and, where there is one, the
unique identifier. -/
def accepts (id : Identifier) (p : Packet) : Bool :=
  p.originTimestamp == id.origin && match id.uid with
    | none => true
    | some uid =>
      (p.fieldsOfType ExtensionType.uniqueIdentifier.code).any (·.payload == uid)

end Identifier

end TimeProbe

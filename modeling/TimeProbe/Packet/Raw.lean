import TimeProbe.Packet.Basic

/-!
# Packets beyond the rules

A raw packet is a list of parts, so that a test can send octets that no
conforming encoder writes: forged lengths, unpadded fields, arbitrary tails.
-/

namespace TimeProbe

/-- One part of a raw packet. -/
inductive RawPart
  /-- The header of a packet, without its fields. -/
  | header (p : Packet)
  /-- A field, with the length to declare if it is not the real one. -/
  | field (fieldType : Int) (payload : Bytes) (length : Option Int) (pad : Bool)
  /-- Octets as they are. -/
  | octets (data : Bytes)

/-- The parts of a raw packet, in order. -/
abbrev RawPacket := List RawPart

namespace RawPart

/-- The octets of a part. -/
def encode : RawPart → Bytes
  | header p => p.encodeHeader
  | field fieldType payload length pad =>
    let body := if pad then payload.align else payload
    ExtensionField.frame fieldType (length.getD (ExtensionField.headerLength + body.length)) body
  | octets data => data

end RawPart

/-- The octets of a raw packet. -/
def RawPacket.encode (parts : RawPacket) : Bytes := parts.flatMap (·.encode)

end TimeProbe

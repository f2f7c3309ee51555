import TimeProbe.Packet.Raw
import TimeProbe.Proofs.AuthenticatorField
import TimeProbe.Proofs.PacketCodec

/-!
# The layout of raw packets

A raw packet is written part by part, and a packet field by field. Both lay a field out in the same
way, whatever its type, its payload and the length that it declares. So a header with padded fields
behind it comes to the octets of the packet with these fields, and octets that are put between the
parts stay as they are.
-/

namespace TimeProbe

/-- An integer as a word of two octets: it is reduced to sixteen bits, and the upper half comes
first. -/
theorem Bytes.ofInt_two {i : Int} {n : Nat} (h : (n : Int) = i % 65536) :
    ofInt 2 i = [UInt8.ofNat (n / 256), UInt8.ofNat (n % 256)] := by
  have hspan : (span 2 : Int) = 65536 := by decide
  have hn : (i % (span 2 : Int)).toNat = n := by
    rw [hspan]
    omega
  have hlow : UInt8.ofNat (n % 256) = UInt8.ofNat n := by
    apply UInt8.toNat_inj.mp
    simp
  simp [ofInt, ofNat, hn, hlow, Nat.shiftRight_eq_div_pow]

/-- Octets are laid out as a field: two octets of the type and two of a length, both reduced to
sixteen bits, then the payload, and behind it the zeros that bring it to a multiple of four. The
length is the one declared, or else that of all these octets. -/
def LaidOut (fieldType : Int) (payload : Bytes) (declared : Option Int) (octets : Bytes) : Prop :=
  ∃ type length padding : Nat, (type : Int) = fieldType % 65536 ∧
    (length : Int) = declared.getD (4 + payload.length + padding) % 65536 ∧
    padding < 4 ∧ 4 ∣ payload.length + padding ∧
    octets = [UInt8.ofNat (type / 256), UInt8.ofNat (type % 256), UInt8.ofNat (length / 256),
      UInt8.ofNat (length % 256)] ++ payload ++ List.replicate padding 0

section

variable {fieldType : Int} {payload octets : Bytes} {declared : Option Int}

/-- A field can be laid out in one way only: its padded payload is framed. -/
theorem laidOut_iff :
    LaidOut fieldType payload declared octets ↔
      octets = ExtensionField.frame fieldType
        (declared.getD (ExtensionField.headerLength + payload.align.length)) payload.align := by
  have hlength : ((4 : Int) + payload.length + Bytes.gap payload.length) =
      ExtensionField.headerLength + payload.align.length := by
    rw [Bytes.length_align]
    push_cast [ExtensionField.headerLength]
    omega
  -- The words of the frame, by the numbers to which type and length are reduced.
  have hframe {type length : Nat} (htype : (type : Int) = fieldType % 65536)
      (hdeclared : (length : Int) =
        declared.getD (4 + payload.length + Bytes.gap payload.length) % 65536) :
      ExtensionField.frame fieldType
          (declared.getD (ExtensionField.headerLength + payload.align.length)) payload.align =
        [UInt8.ofNat (type / 256), UInt8.ofNat (type % 256), UInt8.ofNat (length / 256),
          UInt8.ofNat (length % 256)] ++ payload ++
          List.replicate (Bytes.gap payload.length) 0 := by
    rw [hlength] at hdeclared
    rw [ExtensionField.frame, Bytes.ofInt_two htype, Bytes.ofInt_two hdeclared,
      Bytes.align_eq_append]
    simp [Bytes.zeros]
  constructor
  · rintro ⟨type, length, padding, htype, hdeclared, hlt, hdvd, rfl⟩
    have hpadding : padding = Bytes.gap payload.length := by
      rw [Bytes.gap]
      omega
    rw [hpadding] at hdeclared ⊢
    exact (hframe htype hdeclared).symm
  · intro h
    have htype : ((fieldType % 65536).toNat : Int) = fieldType % 65536 := by omega
    obtain ⟨length, hdeclared⟩ : ∃ length : Nat, (length : Int) =
        declared.getD (4 + payload.length + Bytes.gap payload.length) % 65536 :=
      ⟨_, Int.toNat_of_nonneg (Int.emod_nonneg _ (by decide))⟩
    exact ⟨_, length, _, htype, hdeclared, Bytes.gap_lt _,
      Nat.dvd_of_mod_eq_zero (Bytes.add_gap_mod _), h.trans (hframe htype hdeclared)⟩

/-- A field of a packet is laid out as a field. -/
theorem ExtensionField.laidOut_encode (f : ExtensionField) :
    LaidOut f.fieldType f.payload f.declaredLength f.encode := by
  rw [laidOut_iff, encode]

/-- A padded part of a raw packet is laid out as a field. -/
theorem RawPart.laidOut_encode (fieldType : Int) (payload : Bytes) (declared : Option Int) :
    LaidOut fieldType payload declared (field fieldType payload declared true).encode := by
  rw [laidOut_iff, encode, if_pos rfl]

/-- The layout leaves no choice. -/
theorem LaidOut.unique {octets' : Bytes} (h : LaidOut fieldType payload declared octets)
    (h' : LaidOut fieldType payload declared octets') : octets = octets' :=
  (laidOut_iff.mp h).trans (laidOut_iff.mp h').symm

end

namespace RawPacket

/-- Padded parts come to the octets of the fields with the same types, payloads and lengths. -/
theorem encode_padded (fields : List (Int × Bytes × Option Int)) :
    encode (fields.map fun f => .field f.1 f.2.1 f.2.2 true) =
      (fields.map fun f => (⟨f.1, f.2.1, f.2.2⟩ : ExtensionField)).flatMap (·.encode) := by
  induction fields with
  | nil => simp [encode]
  | cons f fields ih =>
    have hsame : (RawPart.field f.1 f.2.1 f.2.2 true).encode =
        (⟨f.1, f.2.1, f.2.2⟩ : ExtensionField).encode :=
      (RawPart.laidOut_encode f.1 f.2.1 f.2.2).unique
        (ExtensionField.laidOut_encode ⟨f.1, f.2.1, f.2.2⟩)
    simp only [encode] at ih
    simp [encode, hsame, ih]

/-- What is put behind a raw packet comes behind its octets. -/
theorem encode_append (parts more : RawPacket) :
    encode (parts ++ more) = encode parts ++ encode more := by
  simp [encode]

/-- A header part is the header of its packet, whatever fields this has. -/
theorem encode_header (p : Packet) :
    (RawPart.header p).encode = p.encode.take Packet.headerLength := by
  rw [RawPart.encode, Packet.encode, List.take_left' (Packet.length_encodeHeader p)]

/-- **The two ways to build a packet agree.** For every packet and every list of types, payloads and
lengths, its header with padded parts behind it comes to the octets of the packet that has these
fields instead of its own. Of every such part the octets are determined: it is laid out as a field.
A header part is the header alone. And the parts of a raw packet come one after the other, so that
octets put between others stay as they are, at the place at which they were put. -/
theorem builders_agree :
    (∀ (p : Packet) (fields : List (Int × Bytes × Option Int)),
      encode (.header p :: fields.map fun f => .field f.1 f.2.1 f.2.2 true) =
        Packet.encode { p with extensionFields := fields.map fun f => ⟨f.1, f.2.1, f.2.2⟩ }) ∧
    (∀ fieldType payload declared octets,
      octets = (RawPart.field fieldType payload declared true).encode ↔
        LaidOut fieldType payload declared octets) ∧
    (∀ p : Packet, (RawPart.header p).encode = p.encode.take Packet.headerLength) ∧
    (∀ before data behind, encode (before ++ .octets data :: behind) =
      encode before ++ data ++ encode behind) ∧
    ∀ parts, encode parts = (parts.map RawPart.encode).flatten := by
  refine ⟨?_, ?_, encode_header, ?_, ?_⟩
  · intro p fields
    have hfields := encode_padded fields
    have hheader : encode [.header p] = p.encodeHeader := by simp [encode, RawPart.encode]
    rw [← List.singleton_append, encode_append, hheader, hfields, Packet.encode]
    rfl
  · intro fieldType payload declared octets
    have hpart := RawPart.laidOut_encode fieldType payload declared
    constructor
    · rintro rfl
      exact hpart
    · intro h
      exact h.unique hpart
  · intro before data behind
    have hdata : encode [.octets data] = data := by simp [encode, RawPart.encode]
    rw [encode_append, ← List.singleton_append, encode_append, hdata, List.append_assoc]
  · intro parts
    simp [encode, List.flatMap_def]

/-- A field of a type below zero that declares a length beyond sixteen bits. -/
example : (RawPart.field (-2) [1, 2, 3, 4, 5] (some 65540) true).encode =
    [255, 254, 0, 4, 1, 2, 3, 4, 5, 0, 0, 0] := by decide

end RawPacket

end TimeProbe

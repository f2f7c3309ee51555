import TimeProbe.Proofs.WireGrammar

/-!
# Reading and writing packets

Reading is undone by writing, octet by octet. Writing is undone by reading up to a normal form:
values are reduced to the width of their places and payloads are padded. A packet is read back
as it was written exactly if it is of a supported version, in normal form, and free of forged
lengths and of payloads that no length word can count.
-/

namespace TimeProbe

namespace Bytes

/-- Only the residue of an integer matters to the octets that write it. -/
theorem ofInt_congr {width : Nat} {i j : Int} (h : i % span width = j % span width) :
    ofInt width i = ofInt width j := by
  rw [ofInt, ofInt, h]

/-- An octet is written alike with its sign and without. -/
theorem ofInt_signed (n : Nat) : ofInt 1 (signed (UInt8.ofNat n)) = ofInt 1 n := by
  have hspan : (span 1 : Int) = 256 := rfl
  have hoctet : (UInt8.ofNat n).toNat = n % 256 := UInt8.toNat_ofNat' ..
  apply ofInt_congr
  rw [hspan, signed, hoctet]
  split <;> omega

/-- Padding a padded string changes nothing. -/
theorem align_align (bs : Bytes) : bs.align.align = bs.align :=
  align_eq_self (length_align_mod bs)

end Bytes

namespace ExtensionField

/-- The field that is read where a field was written: its type is reduced to a word, and its
payload is padded. -/
def normal (f : ExtensionField) : ExtensionField :=
  { f with fieldType := f.fieldType % 65536, payload := f.payload.align }

/-- A field and its normal form are written alike. -/
theorem encode_normal (f : ExtensionField) : f.normal.encode = f.encode := by
  have htype : Bytes.ofInt 2 (f.fieldType % 65536) = Bytes.ofInt 2 f.fieldType :=
    Bytes.ofInt_congr (Int.emod_emod_of_dvd _ (Int.dvd_refl _))
  simp only [encode, normal, frame, Bytes.align_align, htype]

/-- Without a declared length and with a payload that a length word can count, the normal form
of a field is canonical. -/
theorem canonical_normal {f : ExtensionField} (hshort : f.payload.length ≤ 65528)
    (hundeclared : f.declaredLength = none) : f.normal.Canonical where
  type_nonneg := Int.emod_nonneg _ (by decide)
  type_lt := Int.emod_lt_of_pos _ (by decide)
  aligned := Bytes.length_align_mod _
  short := by
    simp only [normal, Bytes.length_align, Bytes.gap]
    omega
  undeclared := hundeclared

/-- A canonical field is its own normal form. -/
theorem Canonical.normal_eq {f : ExtensionField} (h : f.Canonical) : f.normal = f := by
  rw [normal, Int.emod_eq_of_lt h.type_nonneg h.type_lt, Bytes.align_eq_self h.aligned]

end ExtensionField

namespace Packet

/-- A word that is read is written back as the octets it was read from. -/
theorem ofInt_word {data : Bytes} {offset length : Nat} (h : offset + length ≤ data.length) :
    Bytes.ofInt length (word data offset length) = (data.drop offset).take length := by
  have hlength : ((data.drop offset).take length).length = length := by
    rw [List.length_take, List.length_drop]
    omega
  have hwritten := Bytes.ofInt_toNat ((data.drop offset).take length)
  rwa [hlength] at hwritten

/-- Two slices of which one starts where the other ends are one slice. -/
theorem slice_append_slice {data : Bytes} {offset next j k : Nat} (h : offset + j = next) :
    (data.drop offset).take j ++ (data.drop next).take k = (data.drop offset).take (j + k) := by
  rw [List.take_add, List.drop_drop, h]

/-- Reading a header and writing it gives the same octets. -/
theorem encodeHeader_decodeHeader {header : Bytes} (h : header.length = headerLength) :
    (decodeHeader header).encodeHeader = header := by
  have hlength : header.length = 48 := h
  have hfirst : (decodeHeader header).firstOctet = word header 0 1 := by
    have hlt : word header 0 1 < 256 := by
      have hslice := Bytes.toNat_lt ((header.drop 0).take 1)
      have hone : ((header.drop 0).take 1).length = 1 := by
        rw [List.length_take, List.length_drop]
        omega
      rwa [hone] at hslice
    simp only [firstOctet, decodeHeader]
    omega
  have hreference :
      ((header.drop 12).take 4 ++ Bytes.zeros 4).take 4 = (header.drop 12).take 4 := by
    rw [List.take_left']
    rw [List.length_take, List.length_drop]
    omega
  rw [encodeHeader, hfirst]
  simp only [decodeHeader, Bytes.ofInt_signed, hreference]
  simp (disch := omega) only [ofInt_word]
  -- What is written now are the slices of the header, from its start to its end.
  simp (disch := rfl) only [slice_append_slice, Nat.reduceAdd]
  rw [List.drop_zero, List.take_of_length_le (Nat.le_of_eq hlength)]

/-- What is decoded is written back as the datagram it was decoded from. -/
theorem encode_eq_of_decode {d : Bytes} {p : Packet} (h : decode d = .ok p) : p.encode = d := by
  obtain ⟨header, fs, hlength, -, -, rfl, rfl⟩ := decode_eq_ok_iff.mp h
  rw [encode]
  exact congrArg (· ++ _) (encodeHeader_decodeHeader hlength)

/-- **Writing undoes reading.** A datagram that is decoded into a packet is what the packet is
written as, octet by octet, so no other datagram is decoded into it. -/
theorem encode_decode {d : Bytes} {p : Packet} (h : decode d = .ok p) :
    p.encode = d ∧ ∀ d', decode d' = .ok p → d' = d := by
  refine ⟨encode_eq_of_decode h, fun d' h' => ?_⟩
  rw [← encode_eq_of_decode h', encode_eq_of_decode h]

/-- A server's answer with negative exponents and an unknown field is one such datagram. -/
theorem encode_decode_unknown_field :
    let header : Bytes :=
      [0x24, 2, 0xfd, 0xe3, 0, 1, 0x23, 0x45, 0, 0, 6, 0x78, 0x47, 0x50, 0x53, 0] ++
        List.replicate 32 7
    let d := header ++ [0x77, 0x77, 0, 8, 1, 2, 3, 4]
    let p : Packet :=
      { version := 4, mode := 4, stratum := 2, poll := -3, precision := -29,
        rootDelay := 0x12345, rootDispersion := 0x678, referenceId := [0x47, 0x50, 0x53, 0],
        referenceTimestamp := 0x0707070707070707, originTimestamp := 0x0707070707070707,
        receiveTimestamp := 0x0707070707070707, transmitTimestamp := 0x0707070707070707,
        extensionFields := [⟨0x7777, [1, 2, 3, 4], none⟩] }
    decode d = .ok p ∧ p.encode = d ∧ ∀ d', decode d' = .ok p → d' = d := by
  intro header d p
  have hdecode : decode d = .ok p :=
    decode_eq_ok_iff.mpr ⟨header, [⟨0x7777, [1, 2, 3, 4], none⟩], by decide, by decide, by decide,
      by decide, by decide⟩
  exact ⟨hdecode, encode_decode hdecode⟩

/-- The packet that is read where a packet was written: its values are reduced to the width of
their places, and so are its fields. -/
def normal (p : Packet) : Packet :=
  { p.reduced with extensionFields := p.extensionFields.map (·.normal) }

/-- Reducing the values of a header changes none of its octets. -/
theorem encodeHeader_reduced (p : Packet) : p.reduced.encodeHeader = p.encodeHeader := by
  rw [← decodeHeader_encodeHeader, encodeHeader_decodeHeader p.length_encodeHeader]

/-- The fields of a packet and of its normal form are written alike. -/
theorem flatMap_encode_normal (fs : List ExtensionField) :
    (fs.map (·.normal)).flatMap (·.encode) = fs.flatMap (·.encode) := by
  simp only [List.flatMap_map, ExtensionField.encode_normal]

/-- A packet and its normal form are written alike. -/
theorem encode_normal (p : Packet) : p.normal.encode = p.encode := by
  rw [encode, encode, normal, flatMap_encode_normal]
  exact congrArg (· ++ _) p.encodeHeader_reduced

/-- The version bits of a written packet are its version, reduced. -/
theorem versionBits_encode (p : Packet) : (versionBits p.encode : Int) = p.version % 8 := by
  have hlong : headerLength ≤ p.encode.length := by simp [encode]
  have htake : p.encode.take headerLength = p.encodeHeader := List.take_left' p.length_encodeHeader
  rw [← version_decodeHeader_take hlong, htake, decodeHeader_encodeHeader]
  rfl

/-- A written packet of a supported version, without forged or excessive lengths, is read back
in normal form. -/
theorem decode_encode_of_version {p : Packet} (hversion : p.version % 8 = 3 ∨ p.version % 8 = 4)
    (hfields : ∀ f ∈ p.extensionFields, f.payload.length ≤ 65528 ∧ f.declaredLength = none) :
    decode p.encode = .ok p.normal := by
  refine decode_eq_ok_iff.mpr ⟨p.encodeHeader, p.extensionFields.map (·.normal),
    p.length_encodeHeader, ?_, ?_, ?_, ?_⟩
  · rw [decodeHeader_encodeHeader]
    exact hversion
  · intro g hg
    obtain ⟨f, hf, rfl⟩ := List.mem_map.mp hg
    exact ExtensionField.canonical_normal (hfields f hf).1 (hfields f hf).2
  · rw [flatMap_encode_normal, encode]
  · rw [decodeHeader_encodeHeader, normal]

/-- A written packet of any other version is refused for its version. -/
theorem decode_encode_of_not_version {p : Packet}
    (hversion : ¬ (p.version % 8 = 3 ∨ p.version % 8 = 4)) :
    decode p.encode = .error (.unsupportedVersion (p.version % 8).toNat) := by
  have hbits := p.versionBits_encode
  have hlong : headerLength ≤ p.encode.length := by simp [encode]
  rw [decode_of_version hlong (by omega)]
  congr
  omega

/-- A packet that was decoded is its own normal form, and its fields carry their true lengths. -/
theorem normal_eq_of_decode {d : Bytes} {p : Packet} (h : decode d = .ok p) :
    (p.version = 3 ∨ p.version = 4) ∧ p = p.normal ∧
      ∀ f ∈ p.extensionFields, f.declaredLength = none ∧ f.payload.length ≤ 65528 := by
  obtain ⟨header, fs, hlength, hversion, hfs, -, rfl⟩ := decode_eq_ok_iff.mp h
  have hreduced : (decodeHeader header).reduced = decodeHeader header := by
    rw [← decodeHeader_encodeHeader, encodeHeader_decodeHeader hlength]
  have hnormal : fs.map (·.normal) = fs :=
    (List.map_congr_left fun f hf => (hfs f hf).normal_eq).trans (List.map_id fs)
  refine ⟨hversion, ?_, fun f hf => ⟨(hfs f hf).undeclared, (hfs f hf).short⟩⟩
  change _ = { (decodeHeader header).reduced with extensionFields := fs.map ExtensionField.normal }
  rw [hreduced, hnormal]

/-- **Reading undoes writing up to the normal form.** A packet whose version is supported after
reduction, and whose fields have no declared length and payloads that a length word can count, is
read back in normal form; one of any other version is refused for it; and the normal form is
written as the packet is. A packet is read back as itself exactly if it is of a supported
version, in normal form, and its fields are of this kind. -/
theorem decode_encode_normal (p : Packet) :
    ((∀ f ∈ p.extensionFields, f.payload.length ≤ 65528 ∧ f.declaredLength = none) →
      p.version % 8 = 3 ∨ p.version % 8 = 4 → decode p.encode = .ok p.normal) ∧
    (¬ (p.version % 8 = 3 ∨ p.version % 8 = 4) →
      decode p.encode = .error (.unsupportedVersion (p.version % 8).toNat)) ∧
    p.normal.encode = p.encode ∧
    (decode p.encode = .ok p ↔
      (p.version = 3 ∨ p.version = 4) ∧ p = p.normal ∧
        ∀ f ∈ p.extensionFields, f.declaredLength = none ∧ f.payload.length ≤ 65528) := by
  refine ⟨fun hfields hversion => decode_encode_of_version hversion hfields,
    decode_encode_of_not_version, p.encode_normal, normal_eq_of_decode, ?_⟩
  rintro ⟨hversion, hnormal, hfields⟩
  have hversion' : p.version % 8 = 3 ∨ p.version % 8 = 4 := by omega
  rw [decode_encode_of_version hversion' fun f hf => (hfields f hf).symm, ← hnormal]

/-- A packet with values beyond all places, of version 12, is read back as one of version 4. -/
theorem decode_encode_normal_excessive :
    let p : Packet :=
      { leap := -1, version := 12, mode := 9, stratum := 300, poll := -3, precision := 200,
        rootDelay := -1, referenceId := [1], transmitTimestamp := 18446744073709551617,
        extensionFields := [⟨-1, [1, 2, 3, 4, 5], none⟩] }
    decode p.encode = .ok
      { leap := 3, version := 4, mode := 1, stratum := 44, poll := -3, precision := -56,
        rootDelay := 4294967295, referenceId := [1, 0, 0, 0], transmitTimestamp := 1,
        extensionFields := [⟨65535, [1, 2, 3, 4, 5, 0, 0, 0], none⟩] } ∧
      ¬ decode p.encode = .ok p := by
  intro p
  obtain ⟨hread, -, -, hsame⟩ := decode_encode_normal p
  refine ⟨?_, fun h => ?_⟩
  · rw [hread (by decide) (by decide)]
    decide
  · exact absurd (hsame.mp h).1 (by decide)

end Packet

end TimeProbe

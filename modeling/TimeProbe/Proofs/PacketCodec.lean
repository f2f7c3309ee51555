import TimeProbe.Packet.Basic
import TimeProbe.Proofs.FieldSequence

/-!
# Exactness of packets

Reading a written header reduces every value to the width of its place. A datagram is
accepted exactly if it is a header of a supported version and a sequence of canonical
fields.
-/

namespace TimeProbe

namespace Packet

/-- A slice behind a part of a string is a slice of what follows the part. -/
theorem slice_append_right {a b : Bytes} {offset length : Nat} (h : a.length ≤ offset) :
    ((a ++ b).drop offset).take length = (b.drop (offset - a.length)).take length := by
  rw [List.drop_append, List.drop_of_length_le h, List.nil_append]

/-- The slice at the start of a string that has the length of its first part. -/
theorem slice_append_left {a b : Bytes} {length : Nat} (h : a.length = length) :
    ((a ++ b).drop 0).take length = a := by
  rw [List.drop_zero, List.take_left' h]

/-- The packet with every value reduced to what its place in the header can hold, and
without its fields. -/
def reduced (p : Packet) : Packet :=
  { leap := p.leap % 4
    version := p.version % 8
    mode := p.mode % 8
    stratum := p.stratum % 256
    poll := p.poll.bmod 256
    precision := p.precision.bmod 256
    rootDelay := p.rootDelay % 4294967296
    rootDispersion := p.rootDispersion % 4294967296
    referenceId := (p.referenceId ++ Bytes.zeros 4).take 4
    referenceTimestamp := p.referenceTimestamp % 18446744073709551616
    originTimestamp := p.originTimestamp % 18446744073709551616
    receiveTimestamp := p.receiveTimestamp % 18446744073709551616
    transmitTimestamp := p.transmitTimestamp % 18446744073709551616 }

/-- The header takes 48 octets, whatever its values are. -/
@[simp]
theorem length_encodeHeader (p : Packet) : p.encodeHeader.length = headerLength := by
  simp [encodeHeader, headerLength]

/-- An octet written from an integer is read with its sign as the balanced residue. -/
theorem signed_toNat_ofInt (i : Int) :
    Bytes.signed (UInt8.ofNat (Bytes.toNat (Bytes.ofInt 1 i))) = i.bmod 256 := by
  have hword : (Bytes.toNat (Bytes.ofInt 1 i) : Int) = i % 256 := Bytes.toNat_ofInt 1 i
  have hoctet : (UInt8.ofNat (Bytes.toNat (Bytes.ofInt 1 i))).toNat =
      Bytes.toNat (Bytes.ofInt 1 i) := by
    rw [UInt8.toNat_ofNat', Nat.mod_eq_of_lt (by omega)]
  rw [Bytes.signed, hoctet, Int.bmod_def]
  split <;> split <;> omega

/-- Reading a written header reduces every value to the width of its place. -/
theorem decodeHeader_encodeHeader (p : Packet) : decodeHeader p.encodeHeader = p.reduced := by
  have hnonneg : 0 ≤ p.firstOctet := by
    simp only [firstOctet]
    omega
  have hlt : p.firstOctet < 256 := by
    simp only [firstOctet]
    omega
  have hfirst : (Bytes.toNat (Bytes.ofInt 1 p.firstOctet) : Int) = p.firstOctet :=
    Bytes.toNat_ofInt_of_lt hnonneg hlt
  have hreference : ((p.referenceId ++ Bytes.zeros 4).take 4).length = 4 := by simp
  have hstratum : (Bytes.toNat (Bytes.ofInt 1 p.stratum) : Int) = p.stratum % 256 :=
    Bytes.toNat_ofInt 1 p.stratum
  have hshort (i : Int) : (Bytes.toNat (Bytes.ofInt 4 i) : Int) = i % 4294967296 :=
    Bytes.toNat_ofInt 4 i
  have hlong (i : Int) : (Bytes.toNat (Bytes.ofInt 8 i) : Int) = i % 18446744073709551616 :=
    Bytes.toNat_ofInt 8 i
  have hlast (i : Int) : ((Bytes.ofInt 8 i).drop 0).take 8 = Bytes.ofInt 8 i := by
    rw [List.drop_zero, List.take_of_length_le (by simp)]
  simp only [decodeHeader, word, encodeHeader, List.append_assoc]
  simp (disch := simp [hreference]) only [slice_append_right, slice_append_left,
    Bytes.length_ofInt, hreference, Nat.reduceSub, Nat.sub_self, hlast, signed_toNat_ofInt, hshort,
    hlong, hstratum, hfirst]
  simp only [reduced, firstOctet, Packet.mk.injEq, and_true]
  omega

/-- A packet whose values fit their places in the header, of a version that is decoded. -/
structure InRange (p : Packet) : Prop where
  version : p.version = 3 ∨ p.version = 4
  leap : 0 ≤ p.leap ∧ p.leap < 4
  mode : 0 ≤ p.mode ∧ p.mode < 8
  stratum : 0 ≤ p.stratum ∧ p.stratum < 256
  poll : -128 ≤ p.poll ∧ p.poll < 128
  precision : -128 ≤ p.precision ∧ p.precision < 128
  rootDelay : 0 ≤ p.rootDelay ∧ p.rootDelay < 4294967296
  rootDispersion : 0 ≤ p.rootDispersion ∧ p.rootDispersion < 4294967296
  referenceId : p.referenceId.length = 4
  referenceTimestamp : 0 ≤ p.referenceTimestamp ∧ p.referenceTimestamp < 18446744073709551616
  originTimestamp : 0 ≤ p.originTimestamp ∧ p.originTimestamp < 18446744073709551616
  receiveTimestamp : 0 ≤ p.receiveTimestamp ∧ p.receiveTimestamp < 18446744073709551616
  transmitTimestamp : 0 ≤ p.transmitTimestamp ∧ p.transmitTimestamp < 18446744073709551616

/-- Reducing values that are in range leaves them as they are. -/
theorem InRange.reduced_eq {p : Packet} (h : p.InRange) :
    p.reduced = { p with extensionFields := [] } := by
  obtain ⟨hversion, hleap, hmode, hstratum, hpoll, hprecision, hdelay, hdispersion, hreference,
    hreferenceTime, horigin, hreceive, htransmit⟩ := h
  have hversion' : p.version % 8 = p.version := by omega
  have hpoll' : p.poll.bmod 256 = p.poll := by rw [Int.bmod_def]; split <;> omega
  have hprecision' : p.precision.bmod 256 = p.precision := by rw [Int.bmod_def]; split <;> omega
  simp only [reduced, hversion', hpoll', hprecision', List.take_left' hreference,
    Int.emod_eq_of_lt hleap.1 hleap.2, Int.emod_eq_of_lt hmode.1 hmode.2,
    Int.emod_eq_of_lt hstratum.1 hstratum.2, Int.emod_eq_of_lt hdelay.1 hdelay.2,
    Int.emod_eq_of_lt hdispersion.1 hdispersion.2,
    Int.emod_eq_of_lt hreferenceTime.1 hreferenceTime.2, Int.emod_eq_of_lt horigin.1 horigin.2,
    Int.emod_eq_of_lt hreceive.1 hreceive.2, Int.emod_eq_of_lt htransmit.1 htransmit.2]

/-- A datagram is a packet exactly if it is a header of a supported version and behind it
a concatenation of canonical fields. -/
theorem decode_eq_ok_iff {data : Bytes} {p : Packet} :
    decode data = .ok p ↔
      ∃ (header : Bytes) (fs : List ExtensionField), header.length = headerLength ∧
        ((decodeHeader header).version = 3 ∨ (decodeHeader header).version = 4) ∧
        (∀ f ∈ fs, f.Canonical) ∧ data = header ++ fs.flatMap (·.encode) ∧
        p = { decodeHeader header with extensionFields := fs } := by
  have hsupported (header : Bytes) :
      word header 0 1 / 8 % 8 ∈ supportedVersions ↔
        (decodeHeader header).version = 3 ∨ (decodeHeader header).version = 4 := by
    simp only [supportedVersions, decodeHeader, List.mem_cons, List.not_mem_nil, or_false]
    omega
  constructor
  · intro h
    simp only [decode] at h
    split at h
    · cases h
    split at h
    · cases h
    next hlength hversion =>
    cases hscan : (ExtensionScan.scan headerLength (data.drop headerLength)).complete with
    | error e => simp [hscan] at h
    | ok fs =>
      obtain ⟨hfs, hdrop⟩ := (ExtensionScan.complete_scan_eq_ok_iff _).mp hscan
      simp only [hscan, Except.ok.injEq] at h
      have hfull : (data.take headerLength).length = headerLength := by
        rw [List.length_take] at hlength ⊢
        omega
      refine ⟨data.take headerLength, fs, hfull, ?_, hfs, ?_, h.symm⟩
      · exact (hsupported _).mp (Decidable.not_not.mp hversion)
      · rw [← hdrop, List.take_append_drop]
  · rintro ⟨header, fs, hlength, hversion, hfs, rfl, rfl⟩
    have hscan := (ExtensionScan.complete_scan_eq_ok_iff headerLength).mpr ⟨hfs, rfl⟩
    simp only [decode, List.take_left' hlength, List.drop_left' hlength, hlength,
      Nat.lt_irrefl, if_false, if_neg (Decidable.not_not.mpr ((hsupported header).mpr hversion)),
      hscan]

end Packet

end TimeProbe

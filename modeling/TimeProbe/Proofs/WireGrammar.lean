import TimeProbe.Fault
import TimeProbe.Proofs.PacketCodec

/-!
# The wire grammar

Behind its header a packet is a concatenation of fields, each of them two words and a payload.
The grammar says so in octets alone, without the functions that write. A scan reads the longest
concatenation of fields that it meets and blames the place behind it; a datagram is decoded
exactly if it is long enough, has a supported version and is read to its end.
-/

namespace TimeProbe

/-- One field on the wire: a type word, a length word, and the payload. The length counts the
two words as well, and it is a multiple of four. -/
inductive WireField : Bytes → ExtensionField → Prop
  | intro {t₁ t₀ n₁ n₀ : UInt8} {payload : Bytes} (least : 4 ≤ Bytes.toNat [n₁, n₀])
      (aligned : Bytes.toNat [n₁, n₀] % 4 = 0)
      (length : payload.length = Bytes.toNat [n₁, n₀] - 4) :
      WireField (t₁ :: t₀ :: n₁ :: n₀ :: payload) ⟨Bytes.toNat [t₁, t₀], payload, none⟩

/-- Fields on the wire, one behind the other. -/
inductive WireFields : Bytes → List ExtensionField → Prop
  | nil : WireFields [] []
  | cons {octets rest : Bytes} {f : ExtensionField} {fs : List ExtensionField}
      (field : WireField octets f) (fields : WireFields rest fs) :
      WireFields (octets ++ rest) (f :: fs)

/-- The front of a string is the longest prefix that is a concatenation of fields. Every other
such prefix is a part of it, with a part of its fields. -/
structure LongestFields (octets front : Bytes) (fs : List ExtensionField) : Prop where
  isPrefix : front <+: octets
  fields : WireFields front fs
  longest : ∀ other gs, WireFields other gs → other <+: octets → other <+: front ∧ gs <+: fs

/-- A field on the wire is what writing a canonical field gives. -/
theorem wireField_iff {octets : Bytes} {f : ExtensionField} :
    WireField octets f ↔ f.Canonical ∧ octets = f.encode := by
  constructor
  · rintro ⟨least, aligned, length⟩
    have hvalid : ¬ (Bytes.toNat [_, _] < ExtensionField.headerLength ∨
        Bytes.toNat [_, _] % 4 ≠ 0) :=
      not_or.mpr ⟨Nat.not_lt.mpr least, not_not.mpr aligned⟩
    obtain ⟨hcanonical, hencode⟩ := ExtensionField.canonical_of_words _ _ hvalid length
    exact ⟨hcanonical, hencode.symm⟩
  · rintro ⟨hcanonical, rfl⟩
    have haligned := hcanonical.aligned
    obtain ⟨t₁, t₀, n₁, n₀, hencode, hf, hlength⟩ := hcanonical.exists_words
    simp only [ExtensionField.headerLength] at hlength
    rw [hencode, hf]
    exact .intro (by omega) (by omega) (by dsimp only; omega)

/-- Fields on the wire are what writing canonical fields gives. -/
theorem wireFields_iff {octets : Bytes} {fs : List ExtensionField} :
    WireFields octets fs ↔ (∀ f ∈ fs, f.Canonical) ∧ octets = fs.flatMap (·.encode) := by
  constructor
  · intro h
    induction h with
    | nil => exact ⟨by simp, rfl⟩
    | cons field _ ih =>
      obtain ⟨hf, rfl⟩ := wireField_iff.mp field
      obtain ⟨hfs, rfl⟩ := ih
      exact ⟨List.forall_mem_cons.mpr ⟨hf, hfs⟩, rfl⟩
  · rintro ⟨hfs, rfl⟩
    induction fs with
    | nil => exact .nil
    | cons f fs ih =>
      obtain ⟨hf, hrest⟩ := List.forall_mem_cons.mp hfs
      exact .cons (wireField_iff.mpr ⟨hf, rfl⟩) (ih hrest)

namespace ExtensionScan

/-- A scan starts with the fields that its string starts with. -/
theorem placed_prefix_scan {fs : List ExtensionField} {octets : Bytes}
    (hfs : ∀ f ∈ fs, f.Canonical) (h : fs.flatMap (·.encode) <+: octets) (offset : Int) :
    placed offset fs <+: (scan offset octets).fields := by
  obtain ⟨rest, rfl⟩ := h
  rw [scan_flatMap_append hfs]
  exact List.prefix_append _ _

/-- Fields that are placed as a part of others from the front on are a part of these. -/
theorem fields_prefix_of_placed {offset : Int} {fs gs : List ExtensionField}
    (h : placed offset fs <+: placed offset gs) : fs <+: gs := by
  have hfields := h.map Prod.snd
  rwa [map_snd_placed, map_snd_placed] at hfields

/-- Fields whose octets start those of others are the first of these. -/
theorem fields_prefix_of_encode {fs gs : List ExtensionField} (hfs : ∀ f ∈ fs, f.Canonical)
    (hgs : ∀ g ∈ gs, g.Canonical) (h : fs.flatMap (·.encode) <+: gs.flatMap (·.encode)) :
    fs <+: gs := by
  have hplaced := placed_prefix_scan hfs h 0
  rw [scan_flatMap_encode hgs] at hplaced
  exact fields_prefix_of_placed hplaced

/-- An octet string consists of fields in one way only. -/
theorem wireFields_unique {octets : Bytes} {fs gs : List ExtensionField}
    (hfs : WireFields octets fs) (hgs : WireFields octets gs) : fs = gs := by
  have hscan := (complete_scan_eq_ok_iff 0).mpr (wireFields_iff.mp hfs)
  rw [(complete_scan_eq_ok_iff 0).mpr (wireFields_iff.mp hgs)] at hscan
  exact (Except.ok.inj hscan).symm

/-- A scan finds the longest concatenation of fields, each field in its place. It comes to the
end if that is all there is, and else it is stopped right behind it. -/
theorem exists_longestFields (offset : Int) (octets : Bytes) :
    ∃ front fs, LongestFields octets front fs ∧ (scan offset octets).fields = placed offset fs ∧
      (front = octets → (scan offset octets).stopped = none) ∧
      (front ≠ octets →
        ∃ e, (scan offset octets).stopped = some e ∧ e.offset = offset + front.length) := by
  obtain ⟨fs, rest, hfs, rfl, hrest⟩ := exists_front offset octets
  have hscan := scan_flatMap_append hfs offset rest
  have hnone : (scan (offset + (fs.flatMap (·.encode)).length) rest).fields = [] := by
    rcases hrest with rfl | ⟨e, -, he⟩
    · rw [scan]
    · rw [he]
  have hfields : (scan offset (fs.flatMap (·.encode) ++ rest)).fields = placed offset fs := by
    rw [hscan, hnone, List.append_nil]
  refine ⟨fs.flatMap (·.encode), fs,
    ⟨List.prefix_append _ _, wireFields_iff.mpr ⟨hfs, rfl⟩, ?_⟩, hfields, ?_, ?_⟩
  · intro other gs hother hprefix
    obtain ⟨hgs, rfl⟩ := wireFields_iff.mp hother
    have hplaced := placed_prefix_scan hgs hprefix offset
    rw [hfields] at hplaced
    obtain ⟨more, rfl⟩ := fields_prefix_of_placed hplaced
    rw [List.flatMap_append]
    exact ⟨List.prefix_append _ _, List.prefix_append _ _⟩
  · intro hall
    have hempty : rest = [] := List.self_eq_append_right.mp hall
    rw [hscan, hempty, scan]
  · intro hmore
    rcases hrest with rfl | ⟨e, hoffset, he⟩
    · exact absurd (List.append_nil _).symm hmore
    · exact ⟨e, by rw [hscan, he], hoffset⟩

/-- A field in its place stands behind the octets of the fields before it. -/
theorem exists_of_mem_placed {offset : Int} {fs : List ExtensionField}
    {x : Int × ExtensionField} (hx : x ∈ placed offset fs) :
    ∃ before behind, fs = before ++ x.2 :: behind ∧
      x.1 = offset + (before.flatMap (·.encode)).length := by
  induction fs generalizing offset with
  | nil => cases hx
  | cons f fs ih =>
    rcases List.mem_cons.mp hx with rfl | hx
    · exact ⟨[], fs, rfl, by simp⟩
    · obtain ⟨before, behind, rfl, hplace⟩ := ih hx
      refine ⟨f :: before, behind, rfl, ?_⟩
      rw [hplace, List.flatMap_cons, List.length_append, Int.natCast_add, Int.add_assoc]

/-- A field that is found stands at its offset, inside of the data. -/
theorem wireField_of_mem_placed {data front : Bytes} {fs : List ExtensionField} {offset : Nat}
    {x : Int × ExtensionField} (hfront : front <+: data.drop offset) (hfs : WireFields front fs)
    (hx : x ∈ placed offset fs) :
    ∃ place : Nat, x.1 = place ∧ offset ≤ place ∧ place + 4 + x.2.payload.length ≤ data.length ∧
      WireField ((data.drop place).take (4 + x.2.payload.length)) x.2 := by
  obtain ⟨before, behind, rfl, hplace⟩ := exists_of_mem_placed hx
  obtain ⟨hcanonical, rfl⟩ := wireFields_iff.mp hfs
  obtain ⟨rest, hrest⟩ := hfront
  have hx : x.2.Canonical := hcanonical x.2 (by simp)
  have hlength : x.2.encode.length = 4 + x.2.payload.length := hx.length_encode
  have hdrop : data.drop (offset + (before.flatMap (·.encode)).length) =
      x.2.encode ++ (behind.flatMap (·.encode) ++ rest) := by
    rw [← List.drop_drop, ← hrest]
    simp
  refine ⟨offset + (before.flatMap (·.encode)).length, by rw [hplace]; simp, by omega, ?_, ?_⟩
  · have hroom := congrArg List.length hdrop
    simp only [List.length_drop, List.length_append, hlength] at hroom
    omega
  · rw [hdrop, List.take_left' hlength]
    exact wireField_iff.mpr ⟨hx, rfl⟩

end ExtensionScan

/-- The details of an invalid extension field name its offset. -/
theorem Fault.lookup_offset_ofExtensionError (e : ExtensionError) :
    (ofExtensionError e).details.lookup "offset" = some (.int e.offset) := by
  cases e <;> rfl

namespace Packet

/-- The three version bits of a datagram, in its first octet. -/
def versionBits (d : Bytes) : Nat := (d.headD 0).toNat / 8 % 8

/-- A header starts with the first octet of its datagram. -/
theorem word_take_headerLength {d : Bytes} (h : headerLength ≤ d.length) :
    word (d.take headerLength) 0 1 = (d.headD 0).toNat := by
  cases d with
  | nil => simp [headerLength] at h
  | cons b bs => simp [word, headerLength, Bytes.toNat]

/-- The version that is read is that of the version bits. -/
theorem version_decodeHeader_take {d : Bytes} (h : headerLength ≤ d.length) :
    (decodeHeader (d.take headerLength)).version = versionBits d := by
  simp only [decodeHeader, word_take_headerLength h, versionBits]
  omega

/-- A datagram that is shorter than a header is truncated. -/
theorem decode_of_short {d : Bytes} (h : d.length < headerLength) :
    decode d = .error (.truncated d.length) := by
  rw [decode, List.take_of_length_le (Nat.le_of_lt h)]
  exact if_pos h

/-- A datagram with a header is judged by its version bits, and then by its scan. -/
theorem decode_of_long {d : Bytes} (h : headerLength ≤ d.length) :
    decode d =
      if versionBits d ∉ supportedVersions then .error (.unsupportedVersion (versionBits d))
      else match (ExtensionScan.scan headerLength (d.drop headerLength)).complete with
        | .error e => .error (.extension e)
        | .ok fs => .ok { decodeHeader (d.take headerLength) with extensionFields := fs } := by
  have hlength : (d.take headerLength).length = headerLength := List.length_take_of_le h
  simp only [decode, hlength, Nat.lt_irrefl, if_false, word_take_headerLength h, versionBits]
  rfl

/-- A version is supported if it is three or four. -/
theorem mem_supportedVersions {v : Nat} : v ∈ supportedVersions ↔ v = 3 ∨ v = 4 := by
  simp [supportedVersions]

/-- A datagram of another version than three and four is refused for its version. -/
theorem decode_of_version {d : Bytes} (hlong : headerLength ≤ d.length)
    (hversion : ¬ (versionBits d = 3 ∨ versionBits d = 4)) :
    decode d = .error (.unsupportedVersion (versionBits d)) := by
  rw [decode_of_long hlong, if_pos (mem_supportedVersions.not.mpr hversion)]

/-- A datagram of a supported version with fields behind its header is a packet with these. -/
theorem decode_of_wireFields {d : Bytes} {fs : List ExtensionField}
    (hlong : headerLength ≤ d.length) (hversion : versionBits d = 3 ∨ versionBits d = 4)
    (hfs : WireFields (d.drop headerLength) fs) :
    decode d = .ok { decodeHeader (d.take headerLength) with extensionFields := fs } := by
  have hscan := (ExtensionScan.complete_scan_eq_ok_iff headerLength).mpr (wireFields_iff.mp hfs)
  rw [decode_of_long hlong, if_neg (not_not.mpr (mem_supportedVersions.mpr hversion)), hscan]

/-- A datagram of a supported version with anything else behind its header is refused for the
octets behind its longest concatenation of fields. -/
theorem decode_of_not_wireFields {d : Bytes} (hlong : headerLength ≤ d.length)
    (hversion : versionBits d = 3 ∨ versionBits d = 4)
    (hnone : ¬ ∃ fs, WireFields (d.drop headerLength) fs) :
    ∃ front fs e, LongestFields (d.drop headerLength) front fs ∧
      decode d = .error (.extension e) ∧ e.offset = headerLength + front.length := by
  obtain ⟨front, fs, hlongest, -, -, hstopped⟩ :=
    ExtensionScan.exists_longestFields headerLength (d.drop headerLength)
  have hne : front ≠ d.drop headerLength := fun hall => hnone ⟨fs, hall ▸ hlongest.fields⟩
  obtain ⟨e, hscan, hoffset⟩ := hstopped hne
  refine ⟨front, fs, e, hlongest, ?_, hoffset⟩
  rw [decode_of_long hlong, if_neg (not_not.mpr (mem_supportedVersions.mpr hversion)),
    ExtensionScan.complete, hscan]

/-- What decoding a datagram comes to, with what that says about its octets. -/
inductive Verdict (d : Bytes) : Except PacketError Packet → Prop
  | truncated (short : d.length < headerLength) : Verdict d (.error (.truncated d.length))
  | unsupportedVersion (long : headerLength ≤ d.length)
      (version : ¬ (versionBits d = 3 ∨ versionBits d = 4)) :
      Verdict d (.error (.unsupportedVersion (versionBits d)))
  | extension {front : Bytes} {fs : List ExtensionField} {e : ExtensionError}
      (long : headerLength ≤ d.length) (version : versionBits d = 3 ∨ versionBits d = 4)
      (none : ¬ ∃ fs, WireFields (d.drop headerLength) fs)
      (longest : LongestFields (d.drop headerLength) front fs)
      (place : e.offset = headerLength + front.length) : Verdict d (.error (.extension e))
  | packet {fs : List ExtensionField} (long : headerLength ≤ d.length)
      (version : versionBits d = 3 ∨ versionBits d = 4)
      (fields : WireFields (d.drop headerLength) fs) :
      Verdict d (.ok { decodeHeader (d.take headerLength) with extensionFields := fs })

/-- Decoding comes to one of the verdicts. -/
theorem verdict_decode (d : Bytes) : Verdict d (decode d) := by
  rcases Nat.lt_or_ge d.length headerLength with hshort | hlong
  · rw [decode_of_short hshort]
    exact .truncated hshort
  by_cases hversion : versionBits d = 3 ∨ versionBits d = 4
  · by_cases hfields : ∃ fs, WireFields (d.drop headerLength) fs
    · obtain ⟨fs, hfs⟩ := hfields
      rw [decode_of_wireFields hlong hversion hfs]
      exact .packet hlong hversion hfs
    · obtain ⟨front, fs, e, hlongest, hdecode, hplace⟩ :=
        decode_of_not_wireFields hlong hversion hfields
      rw [hdecode]
      exact .extension hlong hversion hfields hlongest hplace
  · rw [decode_of_version hlong hversion]
    exact .unsupportedVersion hlong hversion

/-- Whatever decoding comes to has a verdict. -/
theorem verdict_of_decode {d : Bytes} {r : Except PacketError Packet} (h : decode d = r) :
    Verdict d r := h ▸ verdict_decode d

/-- The fields of a packet are those behind the header of its datagram. -/
theorem wireFields_of_decode {d : Bytes} {p : Packet} (h : decode d = .ok p) :
    WireFields (d.drop headerLength) p.extensionFields := by
  cases verdict_of_decode h with
  | packet long version fields => exact fields

/-- **The decoder accepts the wire grammar and nothing else.** A datagram is truncated exactly
if it is shorter than a header, of an unsupported version exactly if its version bits are
neither three nor four, and broken in its fields exactly if something else than fields follows
its header; it is a packet in all other cases. From any offset on a scan finds the fields of the
longest prefix that is a concatenation of fields, each at its place inside of the data, and it
blames the octet behind this prefix unless the data end there. -/
theorem wireGrammar_exact :
    (∀ d : Bytes,
      ((∃ n, decode d = .error (.truncated n)) ↔ d.length < 48) ∧
      (∀ v, decode d = .error (.unsupportedVersion v) ↔
        48 ≤ d.length ∧ v = versionBits d ∧ ¬ (v = 3 ∨ v = 4)) ∧
      ((∃ e, decode d = .error (.extension e)) ↔
        48 ≤ d.length ∧ (versionBits d = 3 ∨ versionBits d = 4) ∧
          ¬ ∃ fs, WireFields (d.drop 48) fs) ∧
      (∀ p, decode d = .ok p ↔
        48 ≤ d.length ∧ (versionBits d = 3 ∨ versionBits d = 4) ∧
          ∃ fs, WireFields (d.drop 48) fs ∧
            p = { decodeHeader (d.take 48) with extensionFields := fs }) ∧
      ∀ e, decode d = .error (.extension e) →
        ∃ front fs, LongestFields (d.drop 48) front fs ∧ e.offset = 48 + front.length) ∧
    ∀ (data : Bytes) (offset : Nat), ∃ front fs s,
      LongestFields (data.drop offset) front fs ∧
      ExtensionScan.scanFrom data offset = .ok s ∧ s.fields = ExtensionScan.placed offset fs ∧
      (∀ x ∈ s.fields, ∃ place : Nat, x.1 = place ∧ offset ≤ place ∧
        place + 4 + x.2.payload.length ≤ data.length ∧
        WireField ((data.drop place).take (4 + x.2.payload.length)) x.2) ∧
      (front = data.drop offset → s.stopped = none) ∧
      (front ≠ data.drop offset → ∃ e, s.stopped = some e ∧
        (Fault.ofExtensionError e).kind = .extensionLength ∧
        (Fault.ofExtensionError e).details.lookup "offset" =
          some (.int (offset + front.length))) := by
  refine ⟨fun d => ⟨⟨?_, ?_⟩, fun v => ⟨?_, ?_⟩, ⟨?_, ?_⟩, fun p => ⟨?_, ?_⟩, fun e h => ?_⟩,
    fun data offset => ?_⟩
  · rintro ⟨n, h⟩
    cases verdict_of_decode h with
    | truncated short => exact short
  · exact fun hshort => ⟨_, decode_of_short hshort⟩
  · intro h
    cases verdict_of_decode h with
    | unsupportedVersion long version => exact ⟨long, rfl, version⟩
  · rintro ⟨hlong, rfl, hversion⟩
    exact decode_of_version hlong hversion
  · rintro ⟨e, h⟩
    cases verdict_of_decode h with
    | extension long version none => exact ⟨long, version, none⟩
  · rintro ⟨hlong, hversion, hnone⟩
    obtain ⟨front, fs, e, -, hdecode, -⟩ := decode_of_not_wireFields hlong hversion hnone
    exact ⟨e, hdecode⟩
  · intro h
    cases verdict_of_decode h with
    | packet long version fields => exact ⟨long, version, _, fields, rfl⟩
  · rintro ⟨hlong, hversion, fs, hfs, rfl⟩
    exact decode_of_wireFields hlong hversion hfs
  · cases verdict_of_decode h with
    | extension long version none longest place => exact ⟨_, _, longest, place⟩
  · obtain ⟨front, fs, hlongest, hfields, hend, hstopped⟩ :=
      ExtensionScan.exists_longestFields offset (data.drop offset)
    refine ⟨front, fs, _, hlongest, ?_, hfields, ?_, hend, ?_⟩
    · rw [ExtensionScan.scanFrom, if_pos (Int.natCast_nonneg offset), Int.toNat_natCast]
    · rw [hfields]
      intro x
      exact ExtensionScan.wireField_of_mem_placed hlongest.isPrefix hlongest.fields
    · intro hmore
      obtain ⟨e, hscan, hoffset⟩ := hstopped hmore
      exact ⟨e, hscan, rfl, by rw [Fault.lookup_offset_ofExtensionError, hoffset]⟩

end Packet

end TimeProbe

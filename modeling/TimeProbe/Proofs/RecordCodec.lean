import TimeProbe.Fault
import TimeProbe.Proofs.FieldSequence
import TimeProbe.Proofs.RecordSequence

/-!
# Exactness of the record codec

Reading and writing records are inverse to each other on the octet strings that consist of
records. A record is written as it is read if its type and the length of its body fit the words
they are written into, and records that are read always do, so that no others come back from the
octets they are written as.
-/

namespace TimeProbe

/-- Whether the type of a record and the length of its body fit the words on the wire. -/
structure Record.Fits (r : Record) : Prop where
  nonneg : 0 ≤ r.recordType
  recordType_lt : r.recordType < 0x8000
  body_le : r.body.length ≤ 65535

/-- The word with the type of a record and the critical bit on top. -/
def Record.typeWord (r : Record) : Int :=
  r.recordType % 0x8000 + if r.critical then 0x8000 else 0

/-- A record is written as two words and its body. -/
theorem Record.encode_eq_frame (r : Record) :
    r.encode = ExtensionField.frame r.typeWord r.body.length r.body := rfl

namespace WireRecord

variable {octets : Bytes} {r : Record}

/-- A record on the wire fits its words. -/
theorem fits (h : WireRecord octets r) : r.Fits := by
  cases h with
  | @intro t₁ t₀ n₁ n₀ body length =>
    have hword := Bytes.toNat_pair_lt n₁ n₀
    refine ⟨Int.natCast_nonneg _, ?_, ?_⟩
    · change ((Bytes.toNat [t₁, t₀] % 0x8000 : Nat) : Int) < 0x8000
      omega
    · change body.length ≤ 65535
      omega

/-- A record is written as the octets it stands in. -/
theorem encode_eq (h : WireRecord octets r) : r.encode = octets := by
  cases h with
  | @intro t₁ t₀ n₁ n₀ body length =>
    have htype : Record.typeWord ⟨(Bytes.toNat [t₁, t₀] % 0x8000 : Nat),
        decide (0x8000 ≤ Bytes.toNat [t₁, t₀]), body⟩ = Bytes.toNat [t₁, t₀] := by
      have hword := Bytes.toNat_pair_lt t₁ t₀
      simp only [Record.typeWord, decide_eq_true_eq]
      split <;> omega
    rw [Record.encode_eq_frame, htype]
    dsimp only
    rw [length, ExtensionField.frame_toNat]

end WireRecord

/-- A record that fits its words is read from the octets it is written as. -/
theorem Record.Fits.wireRecord_encode {r : Record} (h : r.Fits) : WireRecord r.encode r := by
  obtain ⟨recordType, critical, body⟩ := r
  obtain ⟨hnonneg, htype, hbody⟩ := h
  dsimp only at hnonneg htype hbody
  have hword : typeWord ⟨recordType, critical, body⟩ =
      recordType + if critical then 0x8000 else 0 :=
    congrArg (· + _) (Int.emod_eq_of_lt hnonneg htype)
  have hrange : 0 ≤ typeWord ⟨recordType, critical, body⟩ ∧
      typeWord ⟨recordType, critical, body⟩ < 65536 := by
    rw [hword]
    split <;> omega
  obtain ⟨t₁, t₀, n₁, n₀, hframe, ht, hn⟩ := ExtensionField.frame_eq body hrange.1 hrange.2
    (Int.natCast_nonneg body.length) (show (body.length : Int) < 65536 by omega)
  -- Below the critical bit stands the type, and the bit is set exactly if the record is critical.
  have hread : (⟨recordType, critical, body⟩ : Record) =
      ⟨(Bytes.toNat [t₁, t₀] % 0x8000 : Nat), decide (0x8000 ≤ Bytes.toNat [t₁, t₀]), body⟩ := by
    rw [hword] at ht
    rw [mk.injEq]
    cases critical with
    | false =>
      rw [if_neg Bool.false_ne_true] at ht
      exact ⟨by omega, (decide_eq_false (by omega)).symm, rfl⟩
    | true =>
      rw [if_pos rfl] at ht
      exact ⟨by omega, (decide_eq_true (by omega)).symm, rfl⟩
  rw [encode_eq_frame, hframe, hread]
  exact .intro (Int.ofNat_inj.mp hn.symm)

namespace WireRecords

variable {octets : Bytes} {rs : List Record}

/-- Records on the wire fit their words. -/
theorem fits (h : WireRecords octets rs) : ∀ r ∈ rs, r.Fits := by
  induction h with
  | nil => exact fun r hr => absurd hr List.not_mem_nil
  | cons record records ih => exact List.forall_mem_cons.mpr ⟨record.fits, ih⟩

/-- Records are written as the octets they stand in. -/
theorem encodeAll_eq (h : WireRecords octets rs) : Record.encodeAll rs = octets := by
  induction h with
  | nil => rfl
  | cons record records ih =>
    rw [Record.encodeAll, List.flatMap_cons, record.encode_eq]
    exact congrArg _ ih

end WireRecords

/-- What decoding an octet string comes to, by the octets behind its records. -/
theorem RecordSplit.decodeAll_eq {octets left : Bytes} {rs : List Record}
    (h : RecordSplit octets rs left) :
    Record.decodeAll octets =
      if left.length = 0 then .ok rs else .error (.trailing left.length) := by
  rw [Record.decodeAll, h.takeAll_eq]
  simp only [List.isEmpty_iff, List.length_eq_zero_iff]

namespace Record

/-- Octets with nothing left over behind their records consist of these. -/
theorem wireRecords_of_takeAll {data : Bytes} (h : (takeAll data).2 = []) :
    WireRecords data (takeAll data).1 := by
  obtain ⟨front, hfront, hdata⟩ := (recordSplit_takeAll data).front
  rw [h, List.append_nil] at hdata
  exact hdata.symm ▸ hfront

/-- Records that fit their words stand in the octets they are written as. -/
theorem wireRecords_encodeAll {rs : List Record} (h : ∀ r ∈ rs, r.Fits) :
    WireRecords (encodeAll rs) rs := by
  induction rs with
  | nil => exact .nil
  | cons r rs ih =>
    obtain ⟨hr, hrs⟩ := List.forall_mem_cons.mp h
    exact .cons hr.wireRecord_encode (ih hrs)

variable {data left : Bytes} {rs : List Record}

/-- Octets that end inside of a record are refused for those behind the last complete one. -/
theorem decodeAll_of_left (h : RecordSplit data rs left) (hleft : left ≠ []) :
    decodeAll data = .error (.trailing left.length) := by
  rw [h.decodeAll_eq]
  exact if_neg (by simpa using hleft)

/-- The records that are decoded are those that the octets consist of. -/
theorem decodeAll_eq_ok_iff : decodeAll data = .ok rs ↔ WireRecords data rs := by
  constructor
  · intro hdecoded
    by_cases hleft : (takeAll data).2 = []
    · have hrecords : (takeAll data).1 = rs := by simpa [decodeAll, hleft] using hdecoded
      exact hrecords ▸ wireRecords_of_takeAll hleft
    · rw [decodeAll_of_left (recordSplit_takeAll data) hleft] at hdecoded
      cases hdecoded
  · intro hrecords
    have hsplit : RecordSplit data rs [] :=
      ⟨⟨data, hrecords, (List.append_nil data).symm⟩, next?_eq_none_iff.mp rfl⟩
    rw [decodeAll, hsplit.takeAll_eq]
    rfl

/-- **The record codec is a bijection on its format.** An octet string is decoded exactly if it
is a concatenation of records, into these records, and they are encoded as that string again. Any
other octet string is a concatenation of records with some octets behind it in which no further
record is complete, and it is refused as invalid with the number of these octets. Records come
back from the octets they are encoded as exactly if the type of each is a number of fifteen bits
and its body has at most 65535 octets. -/
theorem recordCodec_exact :
    (∀ data, (∃ rs, decodeAll data = .ok rs) ↔ ∃ rs, WireRecords data rs) ∧
    (∀ data rs, decodeAll data = .ok rs → WireRecords data rs ∧ encodeAll rs = data) ∧
    (∀ data, (¬ ∃ rs, WireRecords data rs) →
      ∃ rs left, RecordSplit data rs left ∧ 0 < left.length ∧
        decodeAll data = .error (.trailing left.length) ∧
        (Fault.ofRecordError (.trailing left.length)).kind = .invalidRecord ∧
        (Fault.ofRecordError (.trailing left.length)).details =
          [("pending", .int left.length)]) ∧
    ∀ rs, decodeAll (encodeAll rs) = .ok rs ↔
      ∀ r ∈ rs, 0 ≤ r.recordType ∧ r.recordType < 0x8000 ∧ r.body.length ≤ 65535 := by
  refine ⟨fun data => exists_congr fun rs => decodeAll_eq_ok_iff, fun data rs hdecoded => ?_,
    fun data hnone => ?_, fun rs => ⟨fun hdecoded r hr => ?_, fun hfits => ?_⟩⟩
  · have hrecords := decodeAll_eq_ok_iff.mp hdecoded
    exact ⟨hrecords, hrecords.encodeAll_eq⟩
  · have hsplit := recordSplit_takeAll data
    have hleft : (takeAll data).2 ≠ [] :=
      fun hempty => hnone ⟨_, wireRecords_of_takeAll hempty⟩
    exact ⟨_, _, hsplit, List.length_pos_iff.mpr hleft, decodeAll_of_left hsplit hleft, rfl, rfl⟩
  · have hr := (decodeAll_eq_ok_iff.mp hdecoded).fits r hr
    exact ⟨hr.nonneg, hr.recordType_lt, hr.body_le⟩
  · refine decodeAll_eq_ok_iff.mpr (wireRecords_encodeAll fun r hr => ?_)
    obtain ⟨hnonneg, htype, hbody⟩ := hfits r hr
    exact ⟨hnonneg, htype, hbody⟩

end Record

end TimeProbe

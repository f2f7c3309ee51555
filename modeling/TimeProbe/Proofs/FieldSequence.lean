import Mathlib.Data.List.Basic
import TimeProbe.Packet.Extension
import TimeProbe.Proofs.Words

/-!
# Sequences of extension fields

The scan of a byte string and the concatenation of encoded fields are inverse to each
other. A string that is scanned to its end is the concatenation of canonical fields,
and such a concatenation is scanned into its fields, each at the place where its
encoding starts.
-/

namespace TimeProbe

namespace ExtensionField

/-- A field that stands on the wire exactly as it is stored: its type is a word, its
payload is aligned and leaves room in the length word, and it declares no other length. -/
structure Canonical (f : ExtensionField) : Prop where
  type_nonneg : 0 ≤ f.fieldType
  type_lt : f.fieldType < 65536
  aligned : f.payload.length % 4 = 0
  short : f.payload.length ≤ 65528
  undeclared : f.declaredLength = none

/-- Whether a field is canonical can be computed. -/
instance (f : ExtensionField) : Decidable f.Canonical :=
  decidable_of_iff
    (0 ≤ f.fieldType ∧ f.fieldType < 65536 ∧ f.payload.length % 4 = 0 ∧
      f.payload.length ≤ 65528 ∧ f.declaredLength = none)
    ⟨fun ⟨h₁, h₂, h₃, h₄, h₅⟩ => ⟨h₁, h₂, h₃, h₄, h₅⟩,
      fun h => ⟨h.type_nonneg, h.type_lt, h.aligned, h.short, h.undeclared⟩⟩

/-- A canonical field is written as its type, its true length, and its payload. -/
theorem Canonical.encode_eq {f : ExtensionField} (h : f.Canonical) :
    f.encode = frame f.fieldType (headerLength + f.payload.length) f.payload := by
  simp [encode, h.undeclared, Bytes.align_eq_self h.aligned]

/-- A canonical field takes four octets more than its payload. -/
theorem Canonical.length_encode {f : ExtensionField} (h : f.Canonical) :
    f.encode.length = headerLength + f.payload.length := by
  simp [h.encode_eq, frame, headerLength]
  omega

/-- The octets of two words are four octets that denote the numbers written. -/
theorem frame_eq (body : Bytes) {fieldType length : Int} (htype : 0 ≤ fieldType)
    (htype' : fieldType < 65536) (hlength : 0 ≤ length) (hlength' : length < 65536) :
    ∃ t₁ t₀ n₁ n₀, frame fieldType length body = t₁ :: t₀ :: n₁ :: n₀ :: body ∧
      (Bytes.toNat [t₁, t₀] : Int) = fieldType ∧ (Bytes.toNat [n₁, n₀] : Int) = length := by
  obtain ⟨t₁, t₀, ht⟩ := List.length_eq_two.mp (Bytes.length_ofInt 2 fieldType)
  obtain ⟨n₁, n₀, hn⟩ := List.length_eq_two.mp (Bytes.length_ofInt 2 length)
  refine ⟨t₁, t₀, n₁, n₀, by simp [frame, ht, hn], ?_, ?_⟩
  · rw [← ht]
    exact Bytes.toNat_ofInt_of_lt htype htype'
  · rw [← hn]
    exact Bytes.toNat_ofInt_of_lt hlength hlength'

/-- A canonical field is written as two words, which denote its type and its true length, and
its payload. -/
theorem Canonical.exists_words {f : ExtensionField} (h : f.Canonical) :
    ∃ t₁ t₀ n₁ n₀, f.encode = t₁ :: t₀ :: n₁ :: n₀ :: f.payload ∧
      f = ⟨Bytes.toNat [t₁, t₀], f.payload, none⟩ ∧
      Bytes.toNat [n₁, n₀] = headerLength + f.payload.length := by
  have hshort := h.short
  have hnonneg : (0 : Int) ≤ headerLength + f.payload.length := by omega
  have hword : (headerLength + f.payload.length : Int) < 65536 := by
    simp only [headerLength]
    omega
  obtain ⟨t₁, t₀, n₁, n₀, hframe, ht, hn⟩ :=
    frame_eq f.payload h.type_nonneg h.type_lt hnonneg hword
  refine ⟨t₁, t₀, n₁, n₀, h.encode_eq.trans hframe, ?_, by exact_mod_cast hn⟩
  rw [ht, ← h.undeclared]

/-- Two words and a body are written back by the numbers that the words denote. -/
theorem frame_toNat (t₁ t₀ n₁ n₀ : UInt8) (body : Bytes) :
    frame (Bytes.toNat [t₁, t₀]) (Bytes.toNat [n₁, n₀]) body = t₁ :: t₀ :: n₁ :: n₀ :: body := by
  have ht := Bytes.ofInt_toNat [t₁, t₀]
  have hn := Bytes.ofInt_toNat [n₁, n₀]
  simp only [List.length_cons, List.length_nil, Nat.zero_add] at ht hn
  simp [frame, ht, hn]

/-- Two words and as many octets as the second one announces are a canonical field. -/
theorem canonical_of_words (t₁ t₀ : UInt8) {n₁ n₀ : UInt8} {payload : Bytes}
    (hvalid : ¬ (Bytes.toNat [n₁, n₀] < headerLength ∨ Bytes.toNat [n₁, n₀] % 4 ≠ 0))
    (hpayload : payload.length = Bytes.toNat [n₁, n₀] - headerLength) :
    Canonical ⟨Bytes.toNat [t₁, t₀], payload, none⟩ ∧
      encode ⟨Bytes.toNat [t₁, t₀], payload, none⟩ = t₁ :: t₀ :: n₁ :: n₀ :: payload := by
  have hlt : Bytes.toNat [n₁, n₀] < 65536 := Bytes.toNat_pair_lt n₁ n₀
  have htype : (Bytes.toNat [t₁, t₀] : Int) < 65536 := Int.ofNat_lt.mpr (Bytes.toNat_pair_lt t₁ t₀)
  have htotal : headerLength + payload.length = Bytes.toNat [n₁, n₀] := by omega
  have hheader : headerLength = 4 := rfl
  have haligned : payload.length % 4 = 0 := by omega
  have hshort : payload.length ≤ 65528 := by omega
  have hcanonical : Canonical ⟨Bytes.toNat [t₁, t₀], payload, none⟩ :=
    ⟨Int.natCast_nonneg _, htype, haligned, hshort, rfl⟩
  refine ⟨hcanonical, ?_⟩
  rw [hcanonical.encode_eq, ← Int.natCast_add, htotal, frame_toNat]

end ExtensionField

namespace ExtensionScan

open ExtensionField

/-- Fields with the offsets at which their encodings start, one behind the other. -/
def placed (offset : Int) : List ExtensionField → List (Int × ExtensionField)
  | [] => []
  | f :: fs => (offset, f) :: placed (offset + f.encode.length) fs

/-- Placing two runs of fields places the second one behind the octets of the first. -/
theorem placed_append (offset : Int) (fs gs : List ExtensionField) :
    placed offset (fs ++ gs) =
      placed offset fs ++ placed (offset + (fs.flatMap (·.encode)).length) gs := by
  induction fs generalizing offset with
  | nil => simp [placed]
  | cons f fs ih =>
    simp only [List.cons_append, placed, ih, List.flatMap_cons, List.length_append]
    rw [Int.natCast_add, Int.add_assoc]

/-- Placing fields neither drops nor changes any. -/
theorem map_snd_placed (offset : Int) (fs : List ExtensionField) :
    (placed offset fs).map (·.2) = fs := by
  induction fs generalizing offset with
  | nil => rfl
  | cons f fs ih => simp [placed, ih]

/-- Scanning a canonical field and more octets finds the field and goes on behind it. -/
theorem scan_encode_append {f : ExtensionField} (h : f.Canonical) (offset : Int)
    (rest : Bytes) :
    scan offset (f.encode ++ rest) = (scan (offset + f.encode.length) rest).cons offset f := by
  have haligned := h.aligned
  obtain ⟨t₁, t₀, n₁, n₀, hencode, hf, hlength⟩ := h.exists_words
  have hsize : Bytes.toNat [n₁, n₀] - headerLength = f.payload.length := by omega
  have hvalid : ¬ (Bytes.toNat [n₁, n₀] < headerLength ∨ Bytes.toNat [n₁, n₀] % 4 ≠ 0) := by
    simp only [hlength, headerLength]
    omega
  rw [h.length_encode, hencode, ← hlength]
  simp only [List.cons_append]
  rw [scan, if_neg hvalid, hsize, if_neg (by simp)]
  simp only [List.take_left, List.drop_left]
  rw [← hf]

/-- A scan that is not stopped in front of its first octet starts with a canonical field. -/
theorem scan_cases (offset : Int) (data : Bytes) :
    data = [] ∨ (∃ e, e.offset = offset ∧ scan offset data = { stopped := some e }) ∨
      ∃ (f : ExtensionField) (rest : Bytes), f.Canonical ∧ data = f.encode ++ rest := by
  rcases data with _ | ⟨t₁, _ | ⟨t₀, _ | ⟨n₁, _ | ⟨n₀, rest⟩⟩⟩⟩
  · exact .inl rfl
  · exact .inr (.inl ⟨.noHeader offset 1, rfl, by rw [scan] <;> simp⟩)
  · exact .inr (.inl ⟨.noHeader offset 2, rfl, by rw [scan] <;> simp⟩)
  · exact .inr (.inl ⟨.noHeader offset 3, rfl, by rw [scan] <;> simp⟩)
  · right
    by_cases hvalid : Bytes.toNat [n₁, n₀] < headerLength ∨ Bytes.toNat [n₁, n₀] % 4 ≠ 0
    · exact .inl ⟨.badLength offset _, rfl, by rw [scan, if_pos hvalid]⟩
    by_cases hfits : (rest.take (Bytes.toNat [n₁, n₀] - headerLength)).length <
        Bytes.toNat [n₁, n₀] - headerLength
    · exact .inl ⟨.overrun offset _ _, rfl, by rw [scan, if_neg hvalid, if_pos hfits]⟩
    right
    obtain ⟨hcanonical, hencode⟩ := canonical_of_words t₁ t₀ hvalid
      (Nat.le_antisymm (List.length_take_le _ rest) (Nat.not_lt.mp hfits))
    refine ⟨_, rest.drop (Bytes.toNat [n₁, n₀] - headerLength), hcanonical, ?_⟩
    rw [hencode]
    simp only [List.cons_append, List.take_append_drop]

/-- Canonical fields in front of more octets are found in their places, and the search goes
on behind them. -/
theorem scan_flatMap_append {fs : List ExtensionField} (h : ∀ f ∈ fs, f.Canonical)
    (offset : Int) (rest : Bytes) :
    scan offset (fs.flatMap (·.encode) ++ rest) =
      ⟨placed offset fs ++ (scan (offset + (fs.flatMap (·.encode)).length) rest).fields,
        (scan (offset + (fs.flatMap (·.encode)).length) rest).stopped⟩ := by
  induction fs generalizing offset with
  | nil => simp [placed]
  | cons f fs ih =>
    have hoffset : offset + ((f :: fs).flatMap (·.encode)).length =
        offset + f.encode.length + (fs.flatMap (·.encode)).length := by
      rw [List.flatMap_cons, List.length_append, Int.natCast_add, Int.add_assoc]
    rw [hoffset, List.flatMap_cons, List.append_assoc, scan_encode_append (h f (by simp)),
      ih (fun g hg => h g (by simp [hg]))]
    rfl

/-- A concatenation of canonical fields is scanned into these fields, in their places. -/
theorem scan_flatMap_encode {fs : List ExtensionField} (h : ∀ f ∈ fs, f.Canonical)
    (offset : Int) : scan offset (fs.flatMap (·.encode)) = ⟨placed offset fs, none⟩ := by
  have happend := scan_flatMap_append h offset []
  rw [scan, List.append_nil] at happend
  simpa using happend

/-- Every string is canonical fields and a rest that is empty or stops a scan at once. -/
theorem exists_front (offset : Int) (data : Bytes) :
    ∃ (fs : List ExtensionField) (rest : Bytes), (∀ f ∈ fs, f.Canonical) ∧
      data = fs.flatMap (·.encode) ++ rest ∧
      (rest = [] ∨ ∃ e, e.offset = offset + (fs.flatMap (·.encode)).length ∧
        scan (offset + (fs.flatMap (·.encode)).length) rest = { stopped := some e }) := by
  induction hlen : data.length using Nat.strongRecOn generalizing offset data with
  | ind n ih =>
    rcases scan_cases offset data with rfl | ⟨e, hoffset, hscan⟩ | ⟨f, rest, hf, rfl⟩
    · exact ⟨[], [], by simp, rfl, .inl rfl⟩
    · exact ⟨[], data, by simp, rfl, .inr ⟨e, by simpa using hoffset, by simpa using hscan⟩⟩
    · have hlength := hf.length_encode
      have hshorter : rest.length < n := by
        rw [← hlen, List.length_append, hlength]
        simp only [headerLength]
        omega
      obtain ⟨fs, behind, hfs, rfl, hbehind⟩ := ih rest.length hshorter
        (offset + f.encode.length) rest rfl
      refine ⟨f :: fs, behind, ?_, (List.append_assoc ..).symm, ?_⟩
      · intro g hg
        rcases List.mem_cons.mp hg with rfl | hg
        · exact hf
        · exact hfs g hg
      · rwa [List.flatMap_cons, List.length_append, Int.natCast_add, ← Int.add_assoc]

/-- A scan that comes to the end of a string shows it to be a concatenation of canonical
fields. -/
theorem exists_fields_of_scan {offset : Int} {data : Bytes}
    (h : (scan offset data).stopped = none) :
    ∃ fs : List ExtensionField, (∀ f ∈ fs, f.Canonical) ∧ data = fs.flatMap (·.encode) := by
  obtain ⟨fs, rest, hfs, rfl, rfl | ⟨e, -, hrest⟩⟩ := exists_front offset data
  · exact ⟨fs, hfs, List.append_nil _⟩
  · rw [scan_flatMap_append hfs, hrest] at h
    cases h

/-- A string is scanned to its end exactly if it is a concatenation of canonical fields,
and these are then the fields found. -/
theorem complete_scan_eq_ok_iff (offset : Int) {data : Bytes} {fs : List ExtensionField} :
    (scan offset data).complete = .ok fs ↔
      (∀ f ∈ fs, f.Canonical) ∧ data = fs.flatMap (·.encode) := by
  constructor
  · intro h
    have hstopped : (scan offset data).stopped = none := by
      cases hs : (scan offset data).stopped with
      | none => rfl
      | some e => simp [complete, hs] at h
    obtain ⟨gs, hgs, rfl⟩ := exists_fields_of_scan hstopped
    rw [scan_flatMap_encode hgs, complete, Except.ok.injEq, map_snd_placed] at h
    subst h
    exact ⟨hgs, rfl⟩
  · rintro ⟨hfs, rfl⟩
    rw [scan_flatMap_encode hfs, complete, map_snd_placed]

end ExtensionScan

end TimeProbe

import TimeProbe.Fault
import TimeProbe.Proofs.FieldSequence

/-!
# Fields built to the rules

Building a field pads its value with zeros, so that the field is canonical whenever
the value fits. The content of an authenticator field is split where it was joined,
whatever the lengths of the nonce and of the ciphertext are, and any other payload is
refused for what it declares.
-/

namespace TimeProbe

namespace Bytes

/-- Two runs of zeros are one. -/
theorem zeros_append (m n : Nat) : zeros m ++ zeros n = zeros (m + n) :=
  List.replicate_append_replicate

/-- Padding to a multiple of four only adds zeros. -/
theorem align_eq_append (bs : Bytes) : align bs = bs ++ zeros (gap bs.length) := rfl

/-- A length and its gap make a multiple of four. -/
theorem add_gap_mod (n : Nat) : (n + gap n) % 4 = 0 := by
  simp only [gap]
  omega

/-- At most three octets are missing to a multiple of four. -/
theorem gap_lt (n : Nat) : gap n < 4 := by
  simp only [gap]
  omega

end Bytes

namespace ExtensionField

/-- A padded value is the value followed by zeros. -/
theorem padPayload_eq_append (minimum : Nat) (data : Bytes) :
    padPayload minimum data =
      data ++ Bytes.zeros (Bytes.gap data.length + (minimum - data.align.length)) := by
  rw [padPayload, Bytes.extend, Bytes.align_eq_append, List.append_assoc, Bytes.zeros_append]

/-- A value that is aligned and long enough is not padded. -/
theorem padPayload_eq_self {minimum : Nat} {data : Bytes} (haligned : data.length % 4 = 0)
    (hminimum : minimum ≤ data.length) : padPayload minimum data = data := by
  rw [padPayload, Bytes.align_eq_self haligned, Bytes.extend, Nat.sub_eq_zero_of_le hminimum]
  exact List.append_nil data

/-- A padded value has the aligned length, or the least length if that is more. -/
theorem length_padPayload (minimum : Nat) (data : Bytes) :
    (padPayload minimum data).length = max minimum (data.length + Bytes.gap data.length) := by
  simp only [padPayload, Bytes.extend, List.length_append, Bytes.length_zeros, Bytes.length_align]
  omega

/-- A built field is canonical if its value leaves room in the length word. -/
theorem canonical_build {fieldType : Int} {data : Bytes} (htype : 0 ≤ fieldType)
    (htype' : fieldType < 65536) (hdata : data.length ≤ 65528) :
    (build fieldType data).Canonical := by
  have hlength := length_padPayload (minimumLength - headerLength) data
  simp only [minimumLength, headerLength, Bytes.gap] at hlength
  refine ⟨htype, htype', ?_, ?_, rfl⟩
  · simp only [build, minimumLength, headerLength]
    omega
  · simp only [build, minimumLength, headerLength]
    omega

/-- A field with a unique identifier is canonical. -/
theorem canonical_uniqueIdentifier {uid : Bytes} (h : uid.length ≤ 65528) :
    (uniqueIdentifier uid).Canonical :=
  canonical_build (by decide) (by decide) h

/-- A field with a cookie is canonical. -/
theorem canonical_cookie {data : Bytes} (h : data.length ≤ 65528) : (cookie data).Canonical :=
  canonical_build (by decide) (by decide) h

/-- A placeholder is canonical. -/
theorem canonical_cookiePlaceholder {length : Nat} (h : length ≤ 65528) :
    (cookiePlaceholder length).Canonical :=
  canonical_build (by decide) (by decide) (by simpa using h)

/-- A placeholder holds nothing but zeros. -/
theorem payload_cookiePlaceholder (length : Nat) :
    ∃ n, (cookiePlaceholder length).payload = Bytes.zeros n := by
  rw [cookiePlaceholder, build, padPayload_eq_append, Bytes.zeros_append]
  exact ⟨_, rfl⟩

/-- A placeholder is as long as the field of the cookie that it stands for. -/
theorem length_encode_cookiePlaceholder (data : Bytes) :
    (cookiePlaceholder data.length).encode.length = (cookie data).encode.length := by
  have hpadded : (padPayload 12 (Bytes.zeros data.length)).length =
      (padPayload 12 data).length := by
    rw [length_padPayload, length_padPayload, Bytes.length_zeros]
  simp [encode, frame, cookiePlaceholder, cookie, build, minimumLength, headerLength,
    Bytes.length_align, hpadded]

/-- A nonce and a ciphertext whose lengths are words make an authenticator field. -/
theorem authenticator_eq_ok {nonce ciphertext : Bytes} (hnonce : nonce.length ≤ 65535)
    (hciphertext : ciphertext.length ≤ 65535) :
    authenticator nonce ciphertext =
      .ok (build ExtensionType.ntsAuthenticator.code
        (frame nonce.length ciphertext.length (nonce.align ++ ciphertext.align))) := by
  have hn : Bytes.word? nonce.length = .ok (Bytes.ofInt 2 nonce.length) := by
    rw [Bytes.word?, if_pos (by omega)]
  have hc : Bytes.word? ciphertext.length = .ok (Bytes.ofInt 2 ciphertext.length) := by
    rw [Bytes.word?, if_pos (by omega)]
  simp only [authenticator, hn, hc, frame, List.append_assoc]
  rfl

end ExtensionField

/-- The content of an authenticator on the wire: two words with the lengths of the nonce and of
the ciphertext, the nonce, which is not empty, the fewest octets that bring it to a multiple of
four, and the ciphertext. Whatever stands behind the ciphertext is of no meaning. -/
inductive WireAuthenticator : Bytes → Authenticator → Prop
  | intro {n₁ n₀ c₁ c₀ : UInt8} {nonce padding ciphertext rest : Bytes} (nonempty : nonce ≠ [])
      (nonceLength : nonce.length = Bytes.toNat [n₁, n₀])
      (aligned : (nonce.length + padding.length) % 4 = 0) (least : padding.length < 4)
      (ciphertextLength : ciphertext.length = Bytes.toNat [c₁, c₀]) :
      WireAuthenticator (n₁ :: n₀ :: c₁ :: c₀ :: (nonce ++ (padding ++ (ciphertext ++ rest))))
        ⟨nonce, ciphertext⟩

namespace Authenticator

open ExtensionField

/-- The length that a payload declares for its nonce. -/
def declaredNonce (payload : Bytes) : Nat := Bytes.toNat (payload.take 2)

/-- The length that a payload declares for its ciphertext. -/
def declaredCiphertext (payload : Bytes) : Nat := Bytes.toNat ((payload.drop 2).take 2)

/-- Where the ciphertext that a payload declares ends: behind two words and the padded nonce. -/
def declaredEnd (payload : Bytes) : Nat :=
  4 + (declaredNonce payload + Bytes.gap (declaredNonce payload)) + declaredCiphertext payload

/-- Why a payload is refused, by what it declares. -/
inductive Refused (payload : Bytes) : AuthenticatorError → Prop
  | tooShort (short : payload.length < 4) : Refused payload .tooShort
  | emptyNonce (words : 4 ≤ payload.length) (empty : declaredNonce payload = 0) :
      Refused payload .emptyNonce
  | overrun (words : 4 ≤ payload.length) (nonempty : declaredNonce payload ≠ 0)
      (beyond : payload.length < declaredEnd payload) :
      Refused payload
        (.overrun (declaredNonce payload) (declaredCiphertext payload) payload.length)

/-- The declared end, in terms of the octets of the two words. -/
theorem declaredEnd_words (n₁ n₀ c₁ c₀ : UInt8) (more : Bytes) :
    declaredEnd (n₁ :: n₀ :: c₁ :: c₀ :: more) =
      4 + (Bytes.toNat [n₁, n₀] + Bytes.gap (Bytes.toNat [n₁, n₀])) + Bytes.toNat [c₁, c₀] := rfl

/-- A payload is judged by its length, and then by the two words at its start. -/
theorem split_eq (payload : Bytes) :
    split payload =
      if payload.length < 4 then .error .tooShort
      else if declaredNonce payload = 0 then .error .emptyNonce
      else if payload.length < declaredEnd payload then
        .error (.overrun (declaredNonce payload) (declaredCiphertext payload) payload.length)
      else
        .ok ⟨(payload.drop 4).take (declaredNonce payload),
          ((payload.drop 4).drop (declaredNonce payload + Bytes.gap (declaredNonce payload))).take
            (declaredCiphertext payload)⟩ := by
  rcases payload with _ | ⟨n₁, _ | ⟨n₀, _ | ⟨c₁, _ | ⟨c₀, more⟩⟩⟩⟩
  iterate 4 rfl
  have hwords : ¬ (n₁ :: n₀ :: c₁ :: c₀ :: more).length < 4 := by
    simp only [List.length_cons]
    omega
  have hbeyond : (n₁ :: n₀ :: c₁ :: c₀ :: more).length <
      declaredEnd (n₁ :: n₀ :: c₁ :: c₀ :: more) ↔
        more.length < Bytes.toNat [n₁, n₀] + Bytes.gap (Bytes.toNat [n₁, n₀]) +
          Bytes.toNat [c₁, c₀] := by
    rw [declaredEnd_words]
    simp only [List.length_cons]
    omega
  simp only [if_neg hwords, hbeyond]
  rfl

/-- A payload is refused exactly for what it declares. -/
theorem split_eq_error_iff {payload : Bytes} {e : AuthenticatorError} :
    split payload = .error e ↔ Refused payload e := by
  rw [split_eq]
  constructor
  · intro h
    split at h
    next hshort =>
      obtain rfl := Except.error.inj h
      exact .tooShort hshort
    next hwords =>
    split at h
    next hempty =>
      obtain rfl := Except.error.inj h
      exact .emptyNonce (Nat.not_lt.mp hwords) hempty
    next hnonempty =>
    split at h
    next hbeyond =>
      obtain rfl := Except.error.inj h
      exact .overrun (Nat.not_lt.mp hwords) hnonempty hbeyond
    next => cases h
  · intro h
    cases h with
    | tooShort short => rw [if_pos short]
    | emptyNonce words empty => rw [if_neg (Nat.not_lt.mpr words), if_pos empty]
    | overrun words nonempty beyond =>
      rw [if_neg (Nat.not_lt.mpr words), if_neg nonempty, if_pos beyond]

/-- A string that is long enough starts with three pieces of given lengths. -/
theorem exists_pieces {more : Bytes} {n g c : Nat} (h : n + g + c ≤ more.length) :
    ∃ nonce padding ciphertext rest : Bytes, more = nonce ++ (padding ++ (ciphertext ++ rest)) ∧
      nonce.length = n ∧ padding.length = g ∧ ciphertext.length = c := by
  refine ⟨more.take n, (more.drop n).take g, (more.drop (n + g)).take c,
    (more.drop (n + g)).drop c, ?_, ?_, ?_, ?_⟩
  · rw [List.take_append_drop, ← List.drop_drop, List.take_append_drop, List.take_append_drop]
  · rw [List.length_take]
    omega
  · rw [List.length_take, List.length_drop]
    omega
  · rw [List.length_take, List.length_drop]
    omega

/-- The content of an authenticator is split into its nonce and its ciphertext. -/
theorem split_of_wireAuthenticator {payload : Bytes} {a : Authenticator}
    (h : WireAuthenticator payload a) : split payload = .ok a := by
  cases h with
  | @intro n₁ n₀ c₁ c₀ nonce padding ciphertext rest nonempty nonceLength aligned least
      ciphertextLength =>
    have hpositive : nonce.length ≠ 0 := fun h => nonempty (List.length_eq_zero_iff.mp h)
    have hgap : padding.length = Bytes.gap nonce.length := by
      rw [Bytes.gap]
      omega
    have hfits : ¬ (nonce ++ (padding ++ (ciphertext ++ rest))).length <
        nonce.length + Bytes.gap nonce.length + ciphertext.length := by
      simp only [List.length_append]
      omega
    have hdrop : (nonce ++ (padding ++ (ciphertext ++ rest))).drop
        (nonce.length + Bytes.gap nonce.length) = ciphertext ++ rest := by
      rw [← hgap, ← List.drop_drop, List.drop_left, List.drop_left]
    simp only [split, ← nonceLength, ← ciphertextLength, if_neg hpositive, if_neg hfits, hdrop,
      List.take_left]

/-- A payload is split exactly if it is the content of an authenticator, and into this content. -/
theorem split_eq_ok_iff {payload : Bytes} {a : Authenticator} :
    split payload = .ok a ↔ WireAuthenticator payload a := by
  refine ⟨fun h => ?_, split_of_wireAuthenticator⟩
  have hsplit := h
  rw [split_eq] at h
  split at h
  · cases h
  split at h
  · cases h
  split at h
  · cases h
  next hwords hpositive hfits =>
  rcases payload with _ | ⟨n₁, _ | ⟨n₀, _ | ⟨c₁, _ | ⟨c₀, more⟩⟩⟩⟩
  iterate 4 simp at hwords
  have hroom : Bytes.toNat [n₁, n₀] + Bytes.gap (Bytes.toNat [n₁, n₀]) + Bytes.toNat [c₁, c₀] ≤
      more.length := by
    rw [declaredEnd_words] at hfits
    simp only [List.length_cons] at hfits
    omega
  obtain ⟨nonce, padding, ciphertext, rest, rfl, hnonce, hpadding, hciphertext⟩ :=
    exists_pieces hroom
  have hwire : WireAuthenticator
      (n₁ :: n₀ :: c₁ :: c₀ :: (nonce ++ (padding ++ (ciphertext ++ rest))))
      ⟨nonce, ciphertext⟩ := by
    refine .intro ?_ hnonce ?_ ?_ hciphertext
    · rintro rfl
      exact hpositive hnonce.symm
    · rw [hnonce, hpadding]
      exact Bytes.add_gap_mod _
    · rw [hpadding]
      exact Bytes.gap_lt _
  rw [split_of_wireAuthenticator hwire] at hsplit
  obtain rfl := Except.ok.inj hsplit
  exact hwire

/-- Two words and what they announce are split into the nonce and the ciphertext, whatever
follows. -/
theorem split_frame {nonce ciphertext : Bytes} (rest : Bytes) (hempty : nonce ≠ [])
    (hnonce : nonce.length ≤ 65535) (hciphertext : ciphertext.length ≤ 65535) :
    split (frame nonce.length ciphertext.length (nonce.align ++ ciphertext.align) ++ rest) =
      .ok ⟨nonce, ciphertext⟩ := by
  have hnonce' : (nonce.length : Int) < 65536 := by omega
  have hciphertext' : (ciphertext.length : Int) < 65536 := by omega
  obtain ⟨n₁, n₀, c₁, c₀, hframe, hn, hc⟩ :=
    frame_eq (nonce.align ++ ciphertext.align) (Int.natCast_nonneg _) hnonce'
      (Int.natCast_nonneg _) hciphertext'
  have hwire : WireAuthenticator (n₁ :: n₀ :: c₁ :: c₀ :: (nonce ++ (Bytes.zeros
      (Bytes.gap nonce.length) ++ (ciphertext ++ (Bytes.zeros (Bytes.gap ciphertext.length) ++
        rest))))) ⟨nonce, ciphertext⟩ := by
    refine .intro hempty (Int.ofNat_inj.mp hn.symm) ?_ ?_ (Int.ofNat_inj.mp hc.symm)
    · rw [Bytes.length_zeros]
      exact Bytes.add_gap_mod _
    · rw [Bytes.length_zeros]
      exact Bytes.gap_lt _
  rw [hframe, ← split_of_wireAuthenticator hwire]
  simp only [Bytes.align_eq_append, List.cons_append, List.append_assoc]

/-- The field built from a nonce and a ciphertext is split into these. -/
theorem split_payload_build {nonce ciphertext : Bytes} (fieldType : Int) (hempty : nonce ≠ [])
    (hnonce : nonce.length ≤ 65535) (hciphertext : ciphertext.length ≤ 65535) :
    split (build fieldType
      (frame nonce.length ciphertext.length (nonce.align ++ ciphertext.align))).payload =
        .ok ⟨nonce, ciphertext⟩ := by
  rw [build, padPayload_eq_append]
  exact split_frame _ hempty hnonce hciphertext

/-- The nonce of a payload that is split is not empty. -/
theorem nonce_ne_nil_of_split {payload : Bytes} {a : Authenticator}
    (h : split payload = .ok a) : a.nonce ≠ [] := by
  cases split_eq_ok_iff.mp h with
  | intro nonempty => exact nonempty

/-- **The content of an authenticator is split where it was joined.** A nonce that is not empty
and a ciphertext, each of a length that a word can hold, come back from the field that is built
of them. Any payload is either two words with the lengths of a nonce and a ciphertext and, inside
of it, these two with the padding between them, and then it is split into them; or it is refused
as an invalid extension field, which is so exactly if it is shorter than two words, if it declares
an empty nonce, or if the padded nonce and the ciphertext that it declares reach beyond it. -/
theorem split_exact :
    (∀ nonce ciphertext : Bytes, 1 ≤ nonce.length → nonce.length ≤ 65535 →
      ciphertext.length ≤ 65535 → ∃ f, ExtensionField.authenticator nonce ciphertext = .ok f ∧
        split f.payload = .ok ⟨nonce, ciphertext⟩) ∧
    ∀ payload : Bytes,
      (∀ a, split payload = .ok a ↔ WireAuthenticator payload a) ∧
      (∀ e, split payload = .error e → (Fault.ofAuthenticatorError e).kind = .extensionLength) ∧
      ((∃ e, split payload = .error e) ↔
        payload.length < 4 ∨ declaredNonce payload = 0 ∨
          payload.length < declaredEnd payload) := by
  refine ⟨fun nonce ciphertext hpositive hnonce hciphertext => ?_, fun payload =>
    ⟨fun a => split_eq_ok_iff, fun e _ => rfl, ?_, ?_⟩⟩
  · have hempty : nonce ≠ [] := List.length_pos_iff.mp hpositive
    exact ⟨_, authenticator_eq_ok hnonce hciphertext,
      split_payload_build _ hempty hnonce hciphertext⟩
  · rintro ⟨e, h⟩
    cases split_eq_error_iff.mp h with
    | tooShort short => exact .inl short
    | emptyNonce words empty => exact .inr (.inl empty)
    | overrun words nonempty beyond => exact .inr (.inr beyond)
  · intro h
    -- The first of the three that holds is the one that is blamed.
    by_cases hshort : payload.length < 4
    · exact ⟨_, split_eq_error_iff.mpr (.tooShort hshort)⟩
    have hwords : 4 ≤ payload.length := Nat.not_lt.mp hshort
    by_cases hempty : declaredNonce payload = 0
    · exact ⟨_, split_eq_error_iff.mpr (.emptyNonce hwords hempty)⟩
    have hbeyond : payload.length < declaredEnd payload := by
      rcases h with h | h | h
      · exact absurd h hshort
      · exact absurd h hempty
      · exact h
    exact ⟨_, split_eq_error_iff.mpr (.overrun hwords hempty hbeyond)⟩

/-- A nonce and a ciphertext that both need padding come back, and a payload that declares as
many octets as it has, but leaves none for the padding, is refused. -/
theorem split_exact_unaligned :
    (∃ f, ExtensionField.authenticator (List.replicate 15 110) (List.replicate 17 99) = .ok f ∧
      f.payload.length = 40 ∧
      split f.payload = .ok ⟨List.replicate 15 110, List.replicate 17 99⟩) ∧
    ∃ e, split ([0, 15, 0, 2] ++ List.replicate 17 7) = .error e := by
  obtain ⟨hjoined, hall⟩ := split_exact
  obtain ⟨f, hf, hsplit⟩ := hjoined (List.replicate 15 110) (List.replicate 17 99) (by decide)
    (by decide) (by decide)
  obtain ⟨-, -, hrefused⟩ := hall ([0, 15, 0, 2] ++ List.replicate 17 7)
  refine ⟨⟨f, hf, ?_, hsplit⟩, hrefused.mpr (.inr (.inr (by decide)))⟩
  rw [authenticator_eq_ok (by decide) (by decide)] at hf
  obtain rfl := Except.ok.inj hf
  decide

end Authenticator

end TimeProbe

import TimeProbe.Proofs.AuthenticatorField
import TimeProbe.Proofs.SealedParts
import TimeProbe.Proofs.SealedText

/-!
# Opening undoes protection

A protected request consists of well-formed parts: the packet with its own fields, the
unique identifier, the cookie and the placeholders are covered by an authenticator that
stands at the end. Opening it under the cipher that protected it therefore gives the
packet, its new fields, and the fields that were put inside.
-/

namespace TimeProbe

open Aead

/-- The field that carries a nonce and what was sealed under it. -/
def ExtensionField.ofSealed (nonce ciphertext : Bytes) : ExtensionField :=
  build ExtensionType.ntsAuthenticator.code
    (frame nonce.length ciphertext.length (nonce.align ++ ciphertext.align))

namespace SealedParts

open ExtensionField

/-- An authenticator whose ciphertext was sealed over the covered octets opens, and gives
the fields that were sealed. -/
theorem opened_eq_ok {s : SealedParts} {cipher : Cipher} {nonce : Bytes}
    {inner : List ExtensionField} (hempty : nonce ≠ []) (hnonce : nonce.length ≤ 65535)
    (hlength : (inner.flatMap (·.encode)).length ≤ 65519) (hinner : ∀ f ∈ inner, f.Canonical)
    (hauth : s.authenticator =
      ofSealed nonce (cipher.encrypt nonce s.covered (inner.flatMap (·.encode)))) :
    s.opened cipher = .ok inner := by
  have hsealed : (cipher.encrypt nonce s.covered (inner.flatMap (·.encode))).length ≤ 65535 := by
    rw [cipher.length_encrypt]
    omega
  have hsplit : Authenticator.split s.authenticator.payload =
      .ok ⟨nonce, cipher.encrypt nonce s.covered (inner.flatMap (·.encode))⟩ := by
    rw [hauth]
    exact Authenticator.split_payload_build _ hempty hnonce hsealed
  exact opened_of_split hsplit hinner rfl

end SealedParts

namespace ExtensionField

/-- The field of a fresh identifier carries the identifier asked for, or a random one if
none or an empty one was asked for. -/
theorem freshIdentifier_eq (uid : Option Bytes) (e : Entropy) :
    ∃ u, (freshIdentifier uid e).1 = uniqueIdentifier u ∧
      (uid = some u ∨ (uid = none ∨ uid = some []) ∧ u.length = uidLength) := by
  rcases uid with _ | _ | ⟨b, bs⟩
  · exact ⟨_, rfl, .inr ⟨.inl rfl, e.length_draw uidLength⟩⟩
  · exact ⟨_, rfl, .inr ⟨.inr rfl, e.length_draw uidLength⟩⟩
  · exact ⟨b :: bs, rfl, .inl rfl⟩

/-- An identifier of the length that is drawn needs no padding. -/
theorem payload_uniqueIdentifier {uid : Bytes} (huid : uid.length = uidLength) :
    (uniqueIdentifier uid).payload = uid :=
  padPayload_eq_self (by rw [huid]; decide) (by rw [huid]; decide)

/-- The authenticator field of a ciphertext that is not too long is canonical. -/
theorem canonical_ofSealed {nonce ciphertext : Bytes} (hnonce : nonce.length ≤ 16)
    (hciphertext : ciphertext.length ≤ 65508) : (ofSealed nonce ciphertext).Canonical := by
  have hbody : (frame nonce.length ciphertext.length
      (nonce.align ++ ciphertext.align)).length ≤ 65528 := by
    simp only [frame, List.length_append, Bytes.length_ofInt, Bytes.length_align, Bytes.gap]
    omega
  exact canonical_build (by decide) (by decide) hbody

end ExtensionField

namespace Protection

open ExtensionField

/-- The fields that protection puts between the packet's own fields and the authenticator. -/
def added (p : Protection) (uid : Bytes) : List ExtensionField :=
  [uniqueIdentifier uid, ExtensionField.cookie p.cookie] ++
    List.replicate p.placeholders (cookiePlaceholder p.cookie.length)

/-- The added fields are canonical if identifier and cookie leave room in the length word,
and none of them is an authenticator. -/
theorem canonical_added {p : Protection} {uid : Bytes} (hcookie : p.cookie.length ≤ 65528)
    (huid : uid.length ≤ 65528) :
    ∀ f ∈ p.added uid, f.Canonical ∧ f.fieldType ≠ ExtensionType.ntsAuthenticator.code := by
  intro f hf
  simp only [added, List.cons_append, List.nil_append, List.mem_cons, List.mem_replicate] at hf
  rcases hf with rfl | rfl | ⟨_, rfl⟩
  · exact ⟨canonical_uniqueIdentifier huid, by simp [uniqueIdentifier, build, ExtensionType.code]⟩
  · exact ⟨canonical_cookie hcookie, by simp [ExtensionField.cookie, build, ExtensionType.code]⟩
  · exact ⟨canonical_cookiePlaceholder hcookie,
      by simp [cookiePlaceholder, build, ExtensionType.code]⟩

/-- The parts of a protected packet, with the identifier and the nonce that were chosen. -/
def parts (p : Protection) (packet : Packet) (cipher : Cipher) (uid nonce : Bytes) :
    SealedParts where
  header := packet.encodeHeader
  front := packet.extensionFields ++ p.added uid
  authenticator := ofSealed nonce (cipher.encrypt nonce
    (packet.withFields (p.added uid)).encode (p.plaintextFields.flatMap (·.encode)))
  behind := []

/-- The octets of the parts are the packet with the added fields, and the authenticator. -/
theorem data_parts (p : Protection) (packet : Packet) (cipher : Cipher) (uid nonce : Bytes) :
    (p.parts packet cipher uid nonce).data = (packet.withFields (p.added uid)).encode ++
      (p.parts packet cipher uid nonce).authenticator.encode := by
  have hbehind : (p.parts packet cipher uid nonce).behind = [] := rfl
  rw [SealedParts.data_eq, hbehind, List.flatMap_nil, List.append_nil]
  rfl

/-- Protecting a packet never fails as long as the inner fields leave room for the tag: it
gives the octets of its parts. -/
theorem apply_eq_ok (p : Protection) (packet : Packet) (cipher : Cipher) (e : Entropy)
    (htotal : (p.plaintextFields.flatMap (·.encode)).length ≤ 65519) :
    ∃ uid nonce, (p.uid = some uid ∨ (p.uid = none ∨ p.uid = some []) ∧ uid.length = uidLength) ∧
      nonce.length = nonceLength ∧
      (p.apply packet cipher e).1 = .ok ((p.parts packet cipher uid nonce).data,
        ⟨packet.transmitTimestamp, some (uniqueIdentifier uid).payload⟩) := by
  obtain ⟨uid, hfield, huid⟩ := freshIdentifier_eq p.uid e
  obtain ⟨nonce, hnonce⟩ : ∃ nonce, (freshNonce none (freshIdentifier p.uid e).2).1 = nonce :=
    ⟨_, rfl⟩
  have hlength : nonce.length = nonceLength := by
    rw [← hnonce]
    exact Entropy.length_draw _ _
  have hword : nonce.length ≤ 65535 := by
    rw [hlength]
    decide
  have hsealed : (cipher.encrypt nonce (packet.withFields (p.added uid)).encode
      (p.plaintextFields.flatMap (·.encode))).length ≤ 65535 := by
    rw [cipher.length_encrypt]
    omega
  have hassociated : p.associated packet (uniqueIdentifier uid) =
      packet.withFields (p.added uid) := rfl
  refine ⟨uid, nonce, huid, hlength, ?_⟩
  rw [apply, data_parts]
  dsimp only
  rw [hfield, hnonce, hassociated, authenticator_eq_ok hword hsealed]
  rfl

/-- The octets that protecting a packet gives are the packet with the added fields and one more
field, and the identifier is that of the packet with the payload of the first added field. -/
theorem exists_of_apply_eq_ok {p : Protection} {packet : Packet} {cipher : Cipher} {e : Entropy}
    {data : Bytes} {identifier : Identifier}
    (h : (p.apply packet cipher e).1 = .ok (data, identifier)) :
    ∃ (uid : Bytes) (f : ExtensionField),
      (p.uid = some uid ∨ (p.uid = none ∨ p.uid = some []) ∧ uid.length = uidLength) ∧
      data = (packet.withFields (p.added uid)).encode ++ f.encode ∧
      identifier = ⟨packet.transmitTimestamp, some (uniqueIdentifier uid).payload⟩ := by
  obtain ⟨uid, hfield, huid⟩ := freshIdentifier_eq p.uid e
  rw [apply] at h
  dsimp only at h
  rw [hfield] at h
  cases hauth : authenticator (freshNonce none (freshIdentifier p.uid e).2).1
      (cipher.encrypt (freshNonce none (freshIdentifier p.uid e).2).1
        (p.associated packet (uniqueIdentifier uid)).encode
        (p.plaintextFields.flatMap (·.encode))) with
  | error error =>
    rw [hauth] at h
    cases h
  | ok f =>
    rw [hauth] at h
    obtain ⟨rfl, rfl⟩ := Prod.mk.inj (Except.ok.inj h)
    exact ⟨uid, f, huid, rfl, rfl⟩

section Parts

variable {p : Protection} {packet : Packet} {cipher : Cipher} {uid nonce : Bytes}

/-- The header of a packet in range is read back. -/
theorem decodeHeader_parts (hpacket : packet.InRange) :
    Packet.decodeHeader (p.parts packet cipher uid nonce).header =
      { packet with extensionFields := [] } := by
  rw [parts, Packet.decodeHeader_encodeHeader, hpacket.reduced_eq]

/-- A packet in range with canonical fields has well-formed parts, as long as everything that
is added has room. -/
theorem wellFormed_parts (hpacket : packet.InRange)
    (hown : ∀ f ∈ packet.extensionFields,
      f.Canonical ∧ f.fieldType ≠ ExtensionType.ntsAuthenticator.code)
    (hcookie : p.cookie.length ≤ 65528) (huid : uid.length ≤ 65528)
    (hnonce : nonce.length = nonceLength)
    (htotal : (p.plaintextFields.flatMap (·.encode)).length ≤ 65492) :
    (p.parts packet cipher uid nonce).WellFormed := by
  have hauth : (p.parts packet cipher uid nonce).authenticator.Canonical := by
    apply canonical_ofSealed
    · rw [hnonce]
      decide
    · rw [cipher.length_encrypt]
      omega
  have hfront : ∀ f ∈ (p.parts packet cipher uid nonce).front,
      f.Canonical ∧ f.fieldType ≠ ExtensionType.ntsAuthenticator.code := by
    intro f hf
    rcases List.mem_append.mp hf with hf | hf
    · exact hown f hf
    · exact canonical_added hcookie huid f hf
  refine ⟨packet.length_encodeHeader, ?_, ?_, rfl, fun f hf => (hfront f hf).2⟩
  · rw [decodeHeader_parts hpacket]
    exact hpacket.version
  · intro f hf
    rcases List.mem_append.mp hf with hf | hf
    · exact (hfront f hf).1
    · rw [List.mem_singleton.mp hf]
      exact hauth

/-- The parts hold the packet with the added fields and the authenticator. -/
theorem packet_parts (hpacket : packet.InRange) :
    (p.parts packet cipher uid nonce).packet =
      packet.withFields (p.added uid ++ [(p.parts packet cipher uid nonce).authenticator]) := by
  rw [SealedParts.packet, decodeHeader_parts hpacket]
  simp only [SealedParts.fields, Packet.withFields, parts, List.append_assoc]

/-- The parts open under the cipher that sealed them, and give the inner fields. -/
theorem opened_parts (hnonce : nonce.length = nonceLength)
    (hinner : ∀ f ∈ p.plaintextFields, f.Canonical)
    (htotal : (p.plaintextFields.flatMap (·.encode)).length ≤ 65492) :
    (p.parts packet cipher uid nonce).opened cipher = .ok p.plaintextFields := by
  have hempty : nonce ≠ [] := by
    rintro rfl
    cases hnonce
  have hword : nonce.length ≤ 65535 := by
    rw [hnonce]
    decide
  exact SealedParts.opened_eq_ok hempty hword (by omega) hinner rfl

end Parts

/-- **Opening undoes protection.** A packet in range with canonical fields of its own, under
any cookie, identifier and inner fields that fit, becomes a datagram that opens under the
same cipher as authenticated, with the fields of the protection in order behind the packet's
own and the inner fields as they were given. -/
theorem ofDatagram_apply (p : Protection) {packet : Packet} (cipher : Cipher) (e : Entropy)
    (hpacket : packet.InRange)
    (hown : ∀ f ∈ packet.extensionFields,
      f.Canonical ∧ f.fieldType ≠ ExtensionType.ntsAuthenticator.code)
    (hcookie : p.cookie.length ≤ 65528) (huid : ∀ uid ∈ p.uid, uid.length ≤ 65528)
    (hinner : ∀ f ∈ p.plaintextFields, f.Canonical)
    (htotal : (p.plaintextFields.flatMap (·.encode)).length ≤ 65492) :
    ∃ data identifier uid uidField cookieField placeholder authenticator,
      (p.apply packet cipher e).1 = .ok (data, identifier) ∧
      OpenedReply.ofDatagram data cipher =
        .ok ⟨packet.withFields ([uidField, cookieField] ++
          List.replicate p.placeholders placeholder ++ [authenticator]), true,
          p.plaintextFields⟩ ∧
      (p.uid = some uid ∨ (p.uid = none ∨ p.uid = some []) ∧ uid.length = uidLength) ∧
      uidField = ⟨ExtensionType.uniqueIdentifier.code, padPayload 12 uid, none⟩ ∧
      (∃ n, padPayload 12 uid = uid ++ Bytes.zeros n) ∧
      cookieField = ⟨ExtensionType.ntsCookie.code, padPayload 12 p.cookie, none⟩ ∧
      (∃ n, padPayload 12 p.cookie = p.cookie ++ Bytes.zeros n) ∧
      placeholder.fieldType = ExtensionType.ntsCookiePlaceholder.code ∧
      (∃ n, placeholder.payload = Bytes.zeros n) ∧
      placeholder.encode.length = cookieField.encode.length ∧
      authenticator.fieldType = ExtensionType.ntsAuthenticator.code ∧
      identifier = ⟨packet.transmitTimestamp, some uidField.payload⟩ := by
  obtain ⟨uid, nonce, hchosen, hnonce, happly⟩ := p.apply_eq_ok packet cipher e (by omega)
  have huid' : uid.length ≤ 65528 := by
    rcases hchosen with hgiven | ⟨_, hdrawn⟩
    · exact huid uid hgiven
    · rw [hdrawn]
      decide
  have hparts : (p.parts packet cipher uid nonce).WellFormed :=
    wellFormed_parts hpacket hown hcookie huid' hnonce htotal
  refine ⟨_, _, uid, _, _, cookiePlaceholder p.cookie.length,
    (p.parts packet cipher uid nonce).authenticator, happly, ?_,
    hchosen, rfl, ⟨_, padPayload_eq_append 12 uid⟩, rfl, ⟨_, padPayload_eq_append 12 p.cookie⟩, rfl,
    payload_cookiePlaceholder p.cookie.length, length_encode_cookiePlaceholder p.cookie, rfl, rfl⟩
  rw [hparts.ofDatagram_data, opened_parts hnonce hinner htotal, packet_parts hpacket]
  rfl

/-- A version three packet with a field of its own, a cookie and an identifier that need
padding, two placeholders and one sealed field come back under a key of 64 octets. -/
theorem ofDatagram_apply_padded :
    let packet : Packet :=
      { version := 3, poll := -6, transmitTimestamp := 77,
        extensionFields := [⟨0x2005, [1, 2, 3, 4], none⟩] }
    let p : Protection :=
      { cookie := [9, 8, 7], placeholders := 2, uid := some [5, 5, 5, 5, 5],
        plaintextFields := [⟨0x0204, [1, 1, 1, 1], none⟩] }
    let cipher : Cipher := ⟨.sivCmac512, List.replicate 64 7, rfl⟩
    ∃ data identifier fields, (p.apply packet cipher { seed := 1 }).1 = .ok (data, identifier) ∧
      OpenedReply.ofDatagram data cipher =
        .ok ⟨packet.withFields fields, true, p.plaintextFields⟩ := by
  intro packet p cipher
  have hpacket : packet.InRange := by
    constructor <;> decide
  obtain ⟨data, identifier, _, _, _, _, _, happly, hopen, -⟩ :=
    ofDatagram_apply p cipher { seed := 1 } hpacket (by decide) (by decide) (by decide) (by decide)
      (by decide)
  exact ⟨data, identifier, _, happly, hopen⟩

end Protection

end TimeProbe

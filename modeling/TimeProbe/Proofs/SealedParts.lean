import TimeProbe.Nts.Protection
import TimeProbe.Proofs.AuthenticatorField
import TimeProbe.Proofs.PacketCodec
import TimeProbe.Proofs.SealedText

/-!
# The parts of an authenticated datagram

A datagram with an authenticator is a header, the fields in front of the first
authenticator, this authenticator, and the fields behind it. Opening the datagram looks
at the authenticator with the header and the fields in front as associated data, while
the packet that is returned holds the fields on both sides.
-/

namespace TimeProbe

/-- A datagram is the packet, and none of its fields is an authenticator. -/
def UnsealedReply (data : Bytes) (packet : Packet) : Prop :=
  Packet.decode data = .ok packet ∧
    ∀ f ∈ packet.extensionFields, f.fieldType ≠ ExtensionType.ntsAuthenticator.code

/-- The parts of a datagram around its first authenticator. -/
structure SealedParts where
  header : Bytes
  front : List ExtensionField
  authenticator : ExtensionField
  behind : List ExtensionField

namespace SealedParts

/-- All fields of the datagram, in order. -/
def fields (s : SealedParts) : List ExtensionField := s.front ++ s.authenticator :: s.behind

/-- The octets of the datagram. -/
def data (s : SealedParts) : Bytes := s.header ++ s.fields.flatMap (·.encode)

/-- The octets that the authenticator covers. -/
def covered (s : SealedParts) : Bytes := s.header ++ s.front.flatMap (·.encode)

/-- The packet that the datagram holds. -/
def packet (s : SealedParts) : Packet :=
  { Packet.decodeHeader s.header with extensionFields := s.fields }

/-- What the authenticator holds under a cipher, if it verifies for what it covers. -/
def opened (s : SealedParts) (cipher : Aead.Cipher) : Except ReplyError (List ExtensionField) :=
  OpenedReply.openField s.covered cipher s.covered.length s.authenticator

/-- The parts are those of a datagram that is decoded, split at its first authenticator. -/
structure WellFormed (s : SealedParts) : Prop where
  length_header : s.header.length = Packet.headerLength
  version : (Packet.decodeHeader s.header).version = 3 ∨
    (Packet.decodeHeader s.header).version = 4
  canonical : ∀ f ∈ s.fields, f.Canonical
  authenticator_type : s.authenticator.fieldType = ExtensionType.ntsAuthenticator.code
  front_type : ∀ f ∈ s.front, f.fieldType ≠ ExtensionType.ntsAuthenticator.code

end SealedParts

namespace ExtensionScan

/-- Among fields none of which is an authenticator the search finds none. -/
theorem find?_placed_eq_none {fs : List ExtensionField}
    (h : ∀ f ∈ fs, f.fieldType ≠ ExtensionType.ntsAuthenticator.code) (offset : Int) :
    (placed offset fs).find? isAuthenticator = none := by
  induction fs generalizing offset with
  | nil => rfl
  | cons f fs ih =>
    have hf : isAuthenticator (offset, f) = false := by
      simpa [isAuthenticator] using h f (by simp)
    rw [placed, List.find?_cons_of_neg (by simp [hf])]
    exact ih (fun g hg => h g (by simp [hg])) _

/-- The first authenticator is found at the end of the octets of the fields in front. -/
theorem find?_placed_append {front behind : List ExtensionField} {f : ExtensionField}
    (hfront : ∀ g ∈ front, g.fieldType ≠ ExtensionType.ntsAuthenticator.code)
    (hf : f.fieldType = ExtensionType.ntsAuthenticator.code) (offset : Int) :
    (placed offset (front ++ f :: behind)).find? isAuthenticator =
      some (offset + (front.flatMap (·.encode)).length, f) := by
  rw [placed_append, List.find?_append, find?_placed_eq_none hfront, Option.none_or, placed]
  exact List.find?_cons_of_pos (by simp [isAuthenticator, hf])

end ExtensionScan

namespace SealedParts

open ExtensionScan

/-- A list of fields with an authenticator is split at the first one. -/
theorem exists_split {fs : List ExtensionField}
    (h : ∃ f ∈ fs, f.fieldType = ExtensionType.ntsAuthenticator.code) :
    ∃ front f behind, fs = front ++ f :: behind ∧
      f.fieldType = ExtensionType.ntsAuthenticator.code ∧
      ∀ g ∈ front, g.fieldType ≠ ExtensionType.ntsAuthenticator.code := by
  induction fs with
  | nil => simp at h
  | cons g fs ih =>
    by_cases hg : g.fieldType = ExtensionType.ntsAuthenticator.code
    · exact ⟨[], g, fs, rfl, hg, by simp⟩
    · have hrest : ∃ f ∈ fs, f.fieldType = ExtensionType.ntsAuthenticator.code := by
        simpa [hg] using h
      obtain ⟨front, f, behind, rfl, hf, hfront⟩ := ih hrest
      refine ⟨g :: front, f, behind, rfl, hf, ?_⟩
      intro g' hg'
      rcases List.mem_cons.mp hg' with rfl | hg'
      · exact hg
      · exact hfront g' hg'

variable {s : SealedParts}

/-- The octets of the datagram are the covered ones, the authenticator, and the rest. -/
theorem data_eq (s : SealedParts) :
    s.data = s.covered ++ (s.authenticator.encode ++ s.behind.flatMap (·.encode)) := by
  simp [data, covered, fields]

/-- A datagram made of well-formed parts is decoded into their packet. -/
theorem WellFormed.decode_data (h : s.WellFormed) : Packet.decode s.data = .ok s.packet :=
  Packet.decode_eq_ok_iff.mpr
    ⟨s.header, s.fields, h.length_header, h.version, h.canonical, rfl, rfl⟩

/-- Opening looks at the covered octets and at the authenticator only, but returns the
fields on both sides of it. -/
theorem WellFormed.ofDatagram_data (h : s.WellFormed) (cipher : Aead.Cipher) :
    OpenedReply.ofDatagram s.data cipher =
      (s.opened cipher).map fun encrypted => ⟨s.packet, true, encrypted⟩ := by
  have hdrop : s.data.drop Packet.headerLength = s.fields.flatMap (·.encode) := by
    rw [data, List.drop_left' h.length_header]
  have hoffset : (Packet.headerLength : Int) + (s.front.flatMap (·.encode)).length =
      s.covered.length := by
    rw [covered, List.length_append, h.length_header, Int.natCast_add]
  have hfind : (scan Packet.headerLength (s.fields.flatMap (·.encode))).fields.find?
      isAuthenticator = some ((s.covered.length : Int), s.authenticator) := by
    rw [scan_flatMap_encode h.canonical, fields,
      find?_placed_append h.front_type h.authenticator_type, hoffset]
  have hcovered : OpenedReply.openField s.data cipher s.covered.length s.authenticator =
      s.opened cipher := by
    simp only [opened, OpenedReply.openField, Int.toNat_natCast, s.data_eq, List.take_left,
      List.take_length]
  simp only [OpenedReply.ofDatagram, h.decode_data, hdrop, hfind, hcovered]

/-- An authenticator whose text cannot be decrypted is refused for that. -/
theorem opened_of_decrypt_error {cipher : Aead.Cipher} {a : Authenticator}
    {e : Aead.Cipher.DecryptError} (hsplit : Authenticator.split s.authenticator.payload = .ok a)
    (hdecrypt : cipher.decrypt a.nonce s.covered a.ciphertext = .error e) :
    s.opened cipher = .error (.cipher e) := by
  simp only [opened, OpenedReply.openField, hsplit, Int.toNat_natCast, List.take_length, hdecrypt]

/-- An authenticator whose text is decrypted opens to the fields of the plaintext. -/
theorem opened_of_decrypt {cipher : Aead.Cipher} {a : Authenticator} {plaintext : Bytes}
    (hsplit : Authenticator.split s.authenticator.payload = .ok a)
    (hdecrypt : cipher.decrypt a.nonce s.covered a.ciphertext = .ok plaintext) :
    s.opened cipher = (scan 0 plaintext).complete.mapError .encrypted := by
  simp only [opened, OpenedReply.openField, hsplit, Int.toNat_natCast, List.take_length, hdecrypt]
  cases (scan 0 plaintext).complete <;> rfl

/-- Fields that were sealed over the covered octets are what the authenticator opens to. -/
theorem opened_of_split {cipher : Aead.Cipher} {a : Authenticator} {inner : List ExtensionField}
    (hsplit : Authenticator.split s.authenticator.payload = .ok a)
    (hinner : ∀ f ∈ inner, f.Canonical)
    (hsealed : cipher.encrypt a.nonce s.covered (inner.flatMap (·.encode)) = a.ciphertext) :
    s.opened cipher = .ok inner := by
  have hdecrypt := Aead.Cipher.decrypt_eq_ok_iff.mpr
    ⟨Authenticator.nonce_ne_nil_of_split hsplit, hsealed⟩
  rw [opened_of_decrypt hsplit hdecrypt, (complete_scan_eq_ok_iff 0).mpr ⟨hinner, rfl⟩]
  rfl

/-- A datagram without an authenticator is opened as it is. -/
theorem ofDatagram_of_unsealed {data : Bytes} {packet : Packet} (cipher : Aead.Cipher)
    (h : UnsealedReply data packet) :
    OpenedReply.ofDatagram data cipher = .ok ⟨packet, false, []⟩ := by
  obtain ⟨hdecode, hnone⟩ := h
  obtain ⟨header, fs, hlength, -, hfs, rfl, rfl⟩ := Packet.decode_eq_ok_iff.mp hdecode
  simp only [OpenedReply.ofDatagram, hdecode, List.drop_left' hlength, scan_flatMap_encode hfs,
    find?_placed_eq_none hnone]

/-- A datagram cannot be decoded, or it has no authenticator, or it has well-formed parts. -/
theorem situations (data : Bytes) :
    (∃ e, Packet.decode data = .error e) ∨ (∃ packet, UnsealedReply data packet) ∨
      ∃ s : SealedParts, s.WellFormed ∧ data = s.data := by
  cases hdecode : Packet.decode data with
  | error e => exact .inl ⟨e, rfl⟩
  | ok packet =>
    obtain ⟨header, fs, hlength, hversion, hfs, rfl, rfl⟩ := Packet.decode_eq_ok_iff.mp hdecode
    by_cases hsome : ∃ f ∈ fs, f.fieldType = ExtensionType.ntsAuthenticator.code
    · obtain ⟨front, f, behind, rfl, hf, hfront⟩ := exists_split hsome
      exact .inr (.inr ⟨⟨header, front, f, behind⟩, ⟨hlength, hversion, hfs, hf, hfront⟩, rfl⟩)
    · exact .inr (.inl ⟨_, hdecode, fun f hf htype => hsome ⟨f, hf, htype⟩⟩)

/-- A datagram that opens as authenticated is made of well-formed parts. -/
theorem exists_of_authenticated {data : Bytes} {cipher : Aead.Cipher} {r : OpenedReply}
    (hopen : OpenedReply.ofDatagram data cipher = .ok r) (hauth : r.authenticated = true) :
    ∃ s : SealedParts, s.WellFormed ∧ data = s.data := by
  rcases situations data with ⟨e, hdecode⟩ | ⟨packet, hnone⟩ | hparts
  · simp [OpenedReply.ofDatagram, hdecode] at hopen
  · rw [ofDatagram_of_unsealed cipher hnone, Except.ok.injEq] at hopen
    simp [← hopen] at hauth
  · exact hparts

end SealedParts

end TimeProbe

import TimeProbe.Proofs.InvalidReplies
import TimeProbe.Proofs.SealedParts
import TimeProbe.Proofs.WireGrammar

/-!
# Authentic replies

A reply is authenticated exactly if it was sealed: the text in its first authenticator is the
seal, over all octets in front of it, of a concatenation of fields. Of further authenticators
nothing is asked. A datagram without an authenticator is opened as it is. In all other cases the
datagram is refused, as octets that cannot be decoded or as a text that was not sealed.
-/

namespace TimeProbe

/-- The first authenticator of a datagram stands at a place behind the header, and only fields
of other types stand between the two. -/
structure FirstAuthenticator (data : Bytes) (place : Nat) (f : ExtensionField) : Prop where
  behindHeader : Packet.headerLength ≤ place
  inFront : ∃ fs, WireFields ((data.take place).drop Packet.headerLength) fs ∧
    ∀ g ∈ fs, g.fieldType ≠ ExtensionType.ntsAuthenticator.code
  stands : ∃ octets, octets <+: data.drop place ∧ WireField octets f
  isAuthenticator : f.fieldType = ExtensionType.ntsAuthenticator.code

/-- A datagram is the packet, and the fields were sealed under the cipher together with all
octets in front of its first authenticator. -/
def SealedReply (data : Bytes) (cipher : Aead.Cipher) (packet : Packet)
    (fields : List ExtensionField) : Prop :=
  Packet.decode data = .ok packet ∧ ∃ place f a plaintext,
    FirstAuthenticator data place f ∧ Authenticator.split f.payload = .ok a ∧
    WireFields plaintext fields ∧
    cipher.encrypt a.nonce (data.take place) plaintext = a.ciphertext

/-- A datagram is a packet whose first authenticator holds no text that was sealed under the
cipher, whatever the plaintext. -/
def UnverifiedReply (data : Bytes) (cipher : Aead.Cipher) : Prop :=
  ∃ packet place f a, Packet.decode data = .ok packet ∧ FirstAuthenticator data place f ∧
    Authenticator.split f.payload = .ok a ∧
    ∀ plaintext, cipher.encrypt a.nonce (data.take place) plaintext ≠ a.ciphertext

namespace SealedParts

open ExtensionScan

variable {s : SealedParts} {cipher : Aead.Cipher}

/-- What opening an authenticator comes to, with what that says about its text. -/
inductive Opening (s : SealedParts) (cipher : Aead.Cipher) :
    Except ReplyError (List ExtensionField) → Prop
  | malformed {e : AuthenticatorError}
      (split : Authenticator.split s.authenticator.payload = .error e) :
      Opening s cipher (.error (.authenticator e))
  | unverified {a : Authenticator} {e : Aead.Cipher.DecryptError}
      (split : Authenticator.split s.authenticator.payload = .ok a)
      (unsealed : ∀ plaintext, cipher.encrypt a.nonce s.covered plaintext ≠ a.ciphertext) :
      Opening s cipher (.error (.cipher e))
  | broken {a : Authenticator} {plaintext : Bytes} {e : ExtensionError}
      (split : Authenticator.split s.authenticator.payload = .ok a)
      (sealed : cipher.encrypt a.nonce s.covered plaintext = a.ciphertext)
      (none : ¬ ∃ fields, WireFields plaintext fields) : Opening s cipher (.error (.encrypted e))
  | opened {a : Authenticator} {plaintext : Bytes} {fields : List ExtensionField}
      (split : Authenticator.split s.authenticator.payload = .ok a)
      (sealed : cipher.encrypt a.nonce s.covered plaintext = a.ciphertext)
      (wire : WireFields plaintext fields) : Opening s cipher (.ok fields)

/-- Opening an authenticator comes to one of the four. -/
theorem opening_opened (s : SealedParts) (cipher : Aead.Cipher) :
    Opening s cipher (s.opened cipher) := by
  cases hsplit : Authenticator.split s.authenticator.payload with
  | error e =>
    have hopened : s.opened cipher = .error (.authenticator e) := by
      simp only [opened, OpenedReply.openField, hsplit]
    exact hopened ▸ .malformed hsplit
  | ok a =>
    have hnonce := Authenticator.nonce_ne_nil_of_split hsplit
    cases hdecrypt : cipher.decrypt a.nonce s.covered a.ciphertext with
    | error e =>
      rw [opened_of_decrypt_error hsplit hdecrypt]
      refine .unverified hsplit fun plaintext hsealed => ?_
      rw [Aead.Cipher.decrypt_eq_ok_iff.mpr ⟨hnonce, hsealed⟩] at hdecrypt
      cases hdecrypt
    | ok plaintext =>
      obtain ⟨-, hsealed⟩ := Aead.Cipher.decrypt_eq_ok_iff.mp hdecrypt
      rw [opened_of_decrypt hsplit hdecrypt]
      cases hscan : (scan 0 plaintext).complete with
      | ok fields =>
        exact .opened hsplit hsealed (wireFields_iff.mpr ((complete_scan_eq_ok_iff 0).mp hscan))
      | error e =>
        refine .broken hsplit hsealed ?_
        rintro ⟨fields, hfields⟩
        rw [(complete_scan_eq_ok_iff 0).mpr (wireFields_iff.mp hfields)] at hscan
        cases hscan

/-- Whatever opening comes to says something about the text. -/
theorem opening_of_opened {r : Except ReplyError (List ExtensionField)}
    (h : s.opened cipher = r) : Opening s cipher r := h ▸ opening_opened s cipher

/-- The covered octets are those in front of the place where the authenticator stands. -/
theorem take_length_covered (s : SealedParts) : s.data.take s.covered.length = s.covered := by
  rw [data_eq, List.take_left]

/-- The authenticator of well-formed parts is the first one of their datagram. -/
theorem WellFormed.firstAuthenticator (h : s.WellFormed) :
    FirstAuthenticator s.data s.covered.length s.authenticator := by
  have hcanonical : ∀ f ∈ s.front, f.Canonical := fun f hf =>
    h.canonical f (List.mem_append_left _ hf)
  have hauthenticator : s.authenticator.Canonical := h.canonical _ (by simp [fields])
  refine ⟨?_, ⟨s.front, wireFields_iff.mpr ⟨hcanonical, ?_⟩, h.front_type⟩,
    ⟨s.authenticator.encode, ?_, wireField_iff.mpr ⟨hauthenticator, rfl⟩⟩, h.authenticator_type⟩
  · rw [covered, List.length_append, h.length_header]
    exact Nat.le_add_right _ _
  · rw [s.take_length_covered, covered, List.drop_left' h.length_header]
  · rw [data_eq, List.drop_left]
    exact List.prefix_append _ _

/-- A decoded datagram with a first authenticator has well-formed parts around it. -/
theorem exists_of_firstAuthenticator {data : Bytes} {packet : Packet} {place : Nat}
    {f : ExtensionField} (hdecode : Packet.decode data = .ok packet)
    (hfirst : FirstAuthenticator data place f) :
    ∃ s : SealedParts, s.WellFormed ∧ s.data = data ∧ s.covered = data.take place ∧
      s.authenticator = f := by
  obtain ⟨header, fs, hlength, hversion, hfs, rfl, -⟩ := Packet.decode_eq_ok_iff.mp hdecode
  obtain ⟨front, hfront, hfrontType⟩ := hfirst.inFront
  obtain ⟨octets, ⟨rest, hrest⟩, hfield⟩ := hfirst.stands
  obtain ⟨hfrontCanonical, hfrontOctets⟩ := wireFields_iff.mp hfront
  obtain ⟨hf, rfl⟩ := wireField_iff.mp hfield
  generalize hdata : header ++ fs.flatMap (·.encode) = data at *
  have hcovered : data.take place = header ++ front.flatMap (·.encode) := by
    have hheader : (data.take place).take Packet.headerLength = header := by
      rw [List.take_take, Nat.min_eq_left hfirst.behindHeader, ← hdata, List.take_left' hlength]
    rw [← hheader, ← hfrontOctets, List.take_append_drop]
  have hsplit : fs.flatMap (·.encode) = (front ++ [f]).flatMap (·.encode) ++ rest := by
    have hwhole := List.take_append_drop place data
    rw [hcovered, ← hrest, ← hdata, List.append_assoc] at hwhole
    rw [← List.append_cancel_left hwhole]
    simp
  -- The fields in front and the authenticator are the first of those that are decoded.
  have hcanonical : ∀ g ∈ front ++ [f], g.Canonical := by
    intro g hg
    rcases List.mem_append.mp hg with hg | hg
    · exact hfrontCanonical g hg
    · obtain rfl := List.mem_singleton.mp hg
      exact hf
  obtain ⟨behind, rfl⟩ := fields_prefix_of_encode hcanonical hfs ⟨rest, hsplit.symm⟩
  have hfields : front ++ f :: behind = front ++ [f] ++ behind := by simp
  rw [← hfields] at hfs hdata
  exact ⟨⟨header, front, f, behind⟩,
    ⟨hlength, hversion, hfs, hfirst.isAuthenticator, hfrontType⟩, hdata, hcovered.symm, rfl⟩

end SealedParts

namespace OpenedReply

open SealedParts

variable {data : Bytes} {cipher : Aead.Cipher} {packet : Packet} {fields : List ExtensionField}

/-- A datagram that cannot be decoded is refused for that. -/
theorem ofDatagram_of_undecoded {e : PacketError} (h : Packet.decode data = .error e) :
    ofDatagram data cipher = .error (.packet e) := by
  simp only [ofDatagram, h]

/-- A reply is opened as authenticated exactly if it was sealed. -/
theorem ofDatagram_eq_authenticated_iff :
    ofDatagram data cipher = .ok ⟨packet, true, fields⟩ ↔
      SealedReply data cipher packet fields := by
  constructor
  · intro hopen
    obtain ⟨s, hs, rfl⟩ := exists_of_authenticated hopen rfl
    rw [hs.ofDatagram_data] at hopen
    cases hopened : s.opened cipher with
    | error e => simp [hopened, Except.map] at hopen
    | ok opened =>
      simp only [hopened, Except.map, Except.ok.injEq, mk.injEq, true_and] at hopen
      obtain ⟨rfl, rfl⟩ := hopen
      cases opening_of_opened hopened with
      | opened split sealed wire =>
        exact ⟨hs.decode_data, _, _, _, _, hs.firstAuthenticator, split, wire,
          s.take_length_covered.symm ▸ sealed⟩
  · rintro ⟨hdecode, place, f, a, plaintext, hfirst, hsplit, hfields, hsealed⟩
    obtain ⟨s, hs, rfl, hcovered, rfl⟩ := exists_of_firstAuthenticator hdecode hfirst
    rw [← hcovered] at hsealed
    obtain rfl := Except.ok.inj (hs.decode_data.symm.trans hdecode)
    obtain ⟨hcanonical, rfl⟩ := wireFields_iff.mp hfields
    rw [hs.ofDatagram_data, opened_of_split hsplit hcanonical hsealed]
    rfl

/-- A reply is opened as not authenticated exactly if it has no authenticator. -/
theorem ofDatagram_eq_unauthenticated_iff :
    ofDatagram data cipher = .ok ⟨packet, false, fields⟩ ↔
      UnsealedReply data packet ∧ fields = [] := by
  constructor
  · intro hopen
    rcases situations data with ⟨e, hdecode⟩ | ⟨other, hnone⟩ | ⟨s, hs, rfl⟩
    · rw [ofDatagram_of_undecoded hdecode] at hopen
      cases hopen
    · rw [ofDatagram_of_unsealed cipher hnone, Except.ok.injEq, mk.injEq] at hopen
      obtain ⟨rfl, -, rfl⟩ := hopen
      exact ⟨hnone, rfl⟩
    · rw [hs.ofDatagram_data] at hopen
      cases hopened : s.opened cipher <;> simp [hopened, Except.map] at hopen
  · rintro ⟨hnone, rfl⟩
    exact ofDatagram_of_unsealed cipher hnone

/-- A reply is refused for its authentication exactly if its first authenticator holds nothing
that was sealed. -/
theorem ofDatagram_unverified_iff :
    (∃ e, ofDatagram data cipher = .error e ∧
      (Fault.ofReplyError e).kind.isA .ntsAuthentication = true) ↔
        UnverifiedReply data cipher := by
  constructor
  · rintro ⟨e, herror, hkind⟩
    rcases situations data with ⟨e', hdecode⟩ | ⟨packet, hnone⟩ | ⟨s, hs, rfl⟩
    · rw [ofDatagram_of_undecoded hdecode] at herror
      obtain rfl := Except.error.inj herror
      cases e' <;> cases hkind
    · rw [ofDatagram_of_unsealed cipher hnone] at herror
      cases herror
    · have hopened : s.opened cipher = .error e := by
        rw [hs.ofDatagram_data] at herror
        cases hopened : s.opened cipher with
        | error e' =>
          rw [hopened] at herror
          rw [Except.error.inj herror]
        | ok opened =>
          rw [hopened] at herror
          cases herror
      cases opening_of_opened hopened with
      | malformed => cases hkind
      | broken => cases hkind
      | unverified split unsealed =>
        refine ⟨_, _, _, _, hs.decode_data, hs.firstAuthenticator, split, ?_⟩
        rwa [s.take_length_covered]
  · rintro ⟨packet, place, f, a, hdecode, hfirst, hsplit, hunsealed⟩
    obtain ⟨s, hs, rfl, hcovered, rfl⟩ := exists_of_firstAuthenticator hdecode hfirst
    rw [← hcovered] at hunsealed
    rw [hs.ofDatagram_data]
    have hopening := opening_opened s cipher
    generalize s.opened cipher = opened at hopening
    cases hopening with
    | malformed split =>
      rw [hsplit] at split
      cases split
    | unverified => exact ⟨_, rfl, by cases ‹Aead.Cipher.DecryptError› <;> rfl⟩
    | broken split sealed =>
      obtain rfl := Except.ok.inj (hsplit.symm.trans split)
      exact absurd sealed (hunsealed _)
    | opened split sealed =>
      obtain rfl := Except.ok.inj (hsplit.symm.trans split)
      exact absurd sealed (hunsealed _)

/-- **A reply is authenticated exactly if it was sealed.** It is opened as authenticated, with
fields, exactly if the text in its first authenticator is the seal of these fields with all octets
in front of it, and as not authenticated exactly if it has no authenticator. In all other
situations it is refused for octets that cannot be decoded or for its authentication, and for the
latter exactly if nothing was sealed. -/
theorem authenticated_iff_sealed (data : Bytes) (cipher : Aead.Cipher) :
    (∀ packet fields, ofDatagram data cipher = .ok ⟨packet, true, fields⟩ ↔
      SealedReply data cipher packet fields) ∧
    (∀ packet fields, ofDatagram data cipher = .ok ⟨packet, false, fields⟩ ↔
      UnsealedReply data packet ∧ fields = []) ∧
    ((∃ e, ofDatagram data cipher = .error e) ↔
      (¬ ∃ packet fields, SealedReply data cipher packet fields) ∧
        ¬ ∃ packet, UnsealedReply data packet) ∧
    (∀ e, ofDatagram data cipher = .error e →
      (Fault.ofReplyError e).kind.isA .decode = true ∨
        (Fault.ofReplyError e).kind.isA .ntsAuthentication = true) ∧
    ((∃ e, ofDatagram data cipher = .error e ∧
      (Fault.ofReplyError e).kind.isA .ntsAuthentication = true) ↔
        UnverifiedReply data cipher) := by
  have hsealed (packet fields) : ofDatagram data cipher = .ok ⟨packet, true, fields⟩ ↔
      SealedReply data cipher packet fields := ofDatagram_eq_authenticated_iff
  have hunsealed (packet fields) : ofDatagram data cipher = .ok ⟨packet, false, fields⟩ ↔
      UnsealedReply data packet ∧ fields = [] := ofDatagram_eq_unauthenticated_iff
  refine ⟨hsealed, hunsealed, ⟨?_, ?_⟩, fun e _ => ?_, ?_⟩
  · rintro ⟨e, herror⟩
    constructor
    · rintro ⟨packet, fields, hreply⟩
      rw [(hsealed packet fields).mpr hreply] at herror
      cases herror
    · rintro ⟨packet, hreply⟩
      rw [(hunsealed packet []).mpr ⟨hreply, rfl⟩] at herror
      cases herror
  · rintro ⟨hnoSealed, hnoUnsealed⟩
    cases hopen : ofDatagram data cipher with
    | error e => exact ⟨e, rfl⟩
    | ok r =>
      obtain ⟨packet, authenticated, fields⟩ := r
      cases authenticated with
      | true => exact absurd ⟨packet, fields, (hsealed packet fields).mp hopen⟩ hnoSealed
      | false =>
        obtain ⟨hreply, -⟩ := (hunsealed packet fields).mp hopen
        exact absurd ⟨packet, hreply⟩ hnoUnsealed
  · exact (Bool.or_eq_true _ _).mp (Fault.isInvalidReply_ofReplyError e)
  · exact ofDatagram_unverified_iff

end OpenedReply

end TimeProbe

import TimeProbe.Proofs.ProtectedConnection

/-!
# What a protected reply is matched on

A reply belongs to a request if it echoes the transmit timestamp and the unique identifier
of the request. The timestamp stands in the header, which the authenticator covers. The
identifier is looked for among all fields of the packet, so that one which stands behind
the authenticator, where anyone can put it, is as good as one that is covered.
-/

namespace TimeProbe

/-- A field with a unique identifier stands among fields. -/
def Echoes (uid : Bytes) (fs : List ExtensionField) : Prop :=
  ∃ f ∈ fs, f.fieldType = ExtensionType.uniqueIdentifier.code ∧ f.payload = uid

/-- A datagram is accepted as an authenticated reply to the request of an identifier. -/
def NtsSession.AcceptsAuthenticated (s : NtsSession) (id : Identifier) (data : Bytes) : Prop :=
  ∃ reply, s.accept id data = .ok (some reply) ∧ reply.opened.authenticated = true

/-- An identifier stands among two rows of fields if it stands in one of them. -/
theorem echoes_append {uid : Bytes} {fs gs : List ExtensionField} :
    Echoes uid (fs ++ gs) ↔ Echoes uid fs ∨ Echoes uid gs := by
  simp only [Echoes, List.mem_append, or_and_right, exists_or]

/-- Only a field with a unique identifier can echo one. -/
theorem echoes_cons_of_ne {uid : Bytes} {f : ExtensionField} {fs : List ExtensionField}
    (hf : f.fieldType ≠ ExtensionType.uniqueIdentifier.code) :
    Echoes uid (f :: fs) ↔ Echoes uid fs := by
  constructor
  · rintro ⟨g, hg, htype, hpayload⟩
    rcases List.mem_cons.mp hg with rfl | hg
    · exact absurd htype hf
    · exact ⟨g, hg, htype, hpayload⟩
  · rintro ⟨g, hg, hmatch⟩
    exact ⟨g, List.mem_cons_of_mem f hg, hmatch⟩

/-- A packet is matched on its origin timestamp and on all of its fields. -/
theorem Identifier.accepts_iff {origin : Int} {uid : Bytes} {p : Packet} :
    Identifier.accepts ⟨origin, some uid⟩ p = true ↔
      p.originTimestamp = origin ∧ Echoes uid p.extensionFields := by
  simp only [accepts, Packet.fieldsOfType, Echoes, Bool.and_eq_true, beq_iff_eq, List.any_eq_true,
    List.mem_filter, decide_eq_true_eq, and_assoc]

/-- Without an identifier a packet is matched on its origin timestamp alone. -/
theorem Identifier.accepts_none_iff {origin : Int} {p : Packet} :
    Identifier.accepts ⟨origin, none⟩ p = true ↔ p.originTimestamp = origin := by
  simp only [accepts, Bool.and_true, beq_iff_eq]

/-- A datagram that decodes is accepted if its packet is, and passed over if not. -/
theorem Run.acceptPacket_of_decode {id : Identifier} {d : Bytes} {reply : Packet}
    (h : Packet.decode d = .ok reply) :
    acceptPacket id d = .ok (if id.accepts reply then some reply else none) := by
  rw [acceptPacket, h]

namespace SealedParts

variable {parts : SealedParts}

/-- The authenticator verifies for what it covers, and the covered header has an origin
timestamp. -/
def Verifies (parts : SealedParts) (cipher : Aead.Cipher) (origin : Int) : Prop :=
  (∃ fields, parts.opened cipher = .ok fields) ∧ parts.packet.originTimestamp = origin

/-- A datagram is accepted as authenticated exactly if it verifies with the timestamp of the
request, and the identifier stands on either side of the authenticator. -/
theorem WellFormed.acceptsAuthenticated_iff (hparts : parts.WellFormed) {s : NtsSession}
    {origin : Int} {uid : Bytes} :
    s.AcceptsAuthenticated ⟨origin, some uid⟩ parts.data ↔
      parts.Verifies s.keys.serverToClient origin ∧
        (Echoes uid parts.front ∨ Echoes uid parts.behind) := by
  have htype : parts.authenticator.fieldType ≠ ExtensionType.uniqueIdentifier.code := by
    rw [hparts.authenticator_type]
    decide
  have hmatch : Identifier.accepts ⟨origin, some uid⟩ parts.packet = true ↔
      parts.packet.originTimestamp = origin ∧
        (Echoes uid parts.front ∨ Echoes uid parts.behind) := by
    rw [Identifier.accepts_iff, show parts.packet.extensionFields = parts.fields from rfl, fields,
      echoes_append, echoes_cons_of_ne htype]
  rw [NtsSession.AcceptsAuthenticated, Verifies, and_assoc, ← hmatch]
  simp only [NtsSession.accept, hparts.ofDatagram_data]
  cases hopened : parts.opened s.keys.serverToClient with
  | error e => simp [Except.map]
  | ok fields =>
    by_cases haccepts : Identifier.accepts ⟨origin, some uid⟩ parts.packet = true
    · simp [Except.map, haccepts]
    · simp [Except.map, haccepts]

/-- Only a datagram with an authenticator is accepted as authenticated. -/
theorem exists_of_acceptsAuthenticated {s : NtsSession} {id : Identifier} {data : Bytes}
    (haccepts : s.AcceptsAuthenticated id data) :
    ∃ parts : SealedParts, parts.WellFormed ∧ data = parts.data := by
  obtain ⟨reply, haccept, hauth⟩ := haccepts
  simp only [NtsSession.accept] at haccept
  cases hopen : OpenedReply.ofDatagram data s.keys.serverToClient with
  | error e => simp [hopen] at haccept
  | ok opened =>
    by_cases hmatch : id.accepts opened.packet = true
    · simp only [hopen, hmatch, if_true, Except.ok.injEq, Option.some.injEq] at haccept
      subst haccept
      exact exists_of_authenticated hopen hauth
    · simp [hopen, hmatch] at haccept

/-- A datagram with one more field behind all others. -/
def followedBy (parts : SealedParts) (f : ExtensionField) : SealedParts :=
  { parts with behind := parts.behind ++ [f] }

/-- The further field stands at the end of the octets. -/
theorem data_followedBy (parts : SealedParts) (f : ExtensionField) :
    (parts.followedBy f).data = parts.data ++ f.encode := by
  simp [data, fields, followedBy]

/-- A further canonical field leaves the parts well-formed. -/
theorem WellFormed.followedBy (hparts : parts.WellFormed) {f : ExtensionField}
    (hf : f.Canonical) : (parts.followedBy f).WellFormed := by
  refine ⟨hparts.length_header, hparts.version, ?_, hparts.authenticator_type, hparts.front_type⟩
  intro g hg
  have hmem : g ∈ parts.fields ∨ g = f := by
    simpa [fields, SealedParts.followedBy, or_assoc] using hg
  rcases hmem with hg | rfl
  · exact hparts.canonical g hg
  · exact hf

end SealedParts

namespace Run

open SealedParts

/-- **What an authenticated reply was matched on.** A datagram that is accepted as an
authenticated reply to a protected request echoes the request's identifier in front of the
authenticator, where it is covered, or behind it. It does so behind it only, exactly if a
verified datagram with the right timestamp and no covered identifier has one there; and
every verified datagram with the right timestamp becomes an accepted one when a field with
the identifier is put at its end. -/
theorem acceptsAuthenticated_of_protectPacket {i : Nat} {packet : Packet} {placeholders : Nat}
    {cookie : Option Bytes} {w w' : World} {request : Protected}
    (hprotect : protectPacket i packet placeholders cookie w = (.done request, w'))
    (s : NtsSession) :
    ∃ uid, request.identifier = ⟨packet.transmitTimestamp, some uid⟩ ∧
      (∀ data, s.AcceptsAuthenticated request.identifier data →
        ∃ parts : SealedParts, parts.WellFormed ∧ data = parts.data) ∧
      ∀ parts : SealedParts, parts.WellFormed →
        (s.AcceptsAuthenticated request.identifier parts.data ↔
          parts.Verifies s.keys.serverToClient packet.transmitTimestamp ∧
            (Echoes uid parts.front ∨ Echoes uid parts.behind)) ∧
        (s.AcceptsAuthenticated request.identifier parts.data ∧ ¬ Echoes uid parts.front ↔
          parts.Verifies s.keys.serverToClient packet.transmitTimestamp ∧
            Echoes uid parts.behind ∧ ¬ Echoes uid parts.front) ∧
        (parts.Verifies s.keys.serverToClient packet.transmitTimestamp →
          s.AcceptsAuthenticated request.identifier
            (parts.data ++ (ExtensionField.uniqueIdentifier uid).encode)) := by
  obtain ⟨uid, hidentifier, huid⟩ := exists_identifier_of_protectPacket hprotect
  refine ⟨uid, hidentifier, fun data => exists_of_acceptsAuthenticated, ?_⟩
  intro parts hparts
  have haccepts : s.AcceptsAuthenticated request.identifier parts.data ↔
      parts.Verifies s.keys.serverToClient packet.transmitTimestamp ∧
        (Echoes uid parts.front ∨ Echoes uid parts.behind) := by
    rw [hidentifier, hparts.acceptsAuthenticated_iff]
  refine ⟨haccepts, ?_, ?_⟩
  · rw [haccepts]
    constructor
    · rintro ⟨⟨hverified, hfront | hbehind⟩, hnone⟩
      · exact absurd hfront hnone
      · exact ⟨hverified, hbehind, hnone⟩
    · rintro ⟨hverified, hbehind, hnone⟩
      exact ⟨⟨hverified, .inr hbehind⟩, hnone⟩
  · intro hverifies
    have hcanonical : (ExtensionField.uniqueIdentifier uid).Canonical :=
      ExtensionField.canonical_uniqueIdentifier (by rw [huid]; decide)
    have hechoes : Echoes uid (parts.behind ++ [ExtensionField.uniqueIdentifier uid]) :=
      echoes_append.mpr (.inr ⟨_, List.mem_singleton_self _, rfl,
        ExtensionField.payload_uniqueIdentifier huid⟩)
    rw [hidentifier, ← data_followedBy]
    exact (hparts.followedBy hcanonical).acceptsAuthenticated_iff.mpr
      ⟨hverifies, .inr hechoes⟩

/-- A sealed header that answers the right timestamp but echoes no identifier is refused as
it was sealed, and accepted with the identifier behind the authenticator. -/
theorem acceptsAuthenticated_uncovered_identifier :
    let s : NtsSession :=
      { keys := ⟨⟨.sivCmac256, (List.range 32).map UInt8.ofNat, rfl⟩,
          ⟨.sivCmac256, (List.range 32).map (UInt8.ofNat <| · + 32), rfl⟩⟩
        pool := ⟨[List.replicate 64 1]⟩ }
    let w : World := { entropy := { seed := 1 }, sessions := [(0, s)] }
    let header := Packet.encodeHeader
      { mode := 4, stratum := 2, originTimestamp := 77, receiveTimestamp := 1000,
        transmitTimestamp := 1001 }
    let nonce := (List.range 16).map UInt8.ofNat
    let parts : SealedParts :=
      ⟨header, [], .ofSealed nonce (s.keys.serverToClient.encrypt nonce header []), []⟩
    ∃ request w' uid, protectPacket 0 { transmitTimestamp := 77 } 0 none w = (.done request, w') ∧
      request.identifier = ⟨77, some uid⟩ ∧ parts.WellFormed ∧ ¬ Echoes uid parts.front ∧
      ¬ s.AcceptsAuthenticated request.identifier parts.data ∧
      s.AcceptsAuthenticated request.identifier
        (parts.data ++ (ExtensionField.uniqueIdentifier uid).encode) := by
  intro s w header nonce parts
  obtain ⟨request, _, e, hprotect, -⟩ :=
    protectPacket_eq_done (w := w) (i := 0) { transmitTimestamp := 77 } 0
      (show w.session? 0 = some (0, s) from rfl)
      (show s.chooseCookie none = .ok (List.replicate 64 1, ⟨[]⟩) from rfl)
  obtain ⟨uid, hidentifier, -, hall⟩ := acceptsAuthenticated_of_protectPacket hprotect s
  have hnone : ¬ Echoes uid [] := by
    rintro ⟨f, hf, -⟩
    cases hf
  have hparts : parts.WellFormed := by
    refine ⟨Packet.length_encodeHeader _, .inr (by decide), ?_, rfl, ?_⟩
    · intro f hf
      obtain rfl := List.mem_singleton.mp hf
      refine ExtensionField.canonical_ofSealed (by decide) ?_
      rw [Aead.Cipher.length_encrypt]
      decide
    · intro f hf
      cases hf
  have hcovered : parts.covered = header := List.append_nil header
  have hauth : parts.authenticator = .ofSealed nonce (s.keys.serverToClient.encrypt nonce
      parts.covered (([] : List ExtensionField).flatMap (·.encode))) := by
    rw [hcovered]
    rfl
  have hopened : parts.opened s.keys.serverToClient = .ok [] :=
    opened_eq_ok (by decide) (by decide) (by decide) (by decide) hauth
  obtain ⟨hiff, -, hfollowed⟩ := hall parts hparts
  refine ⟨request, _, uid, hprotect, hidentifier, hparts, hnone, ?_, ?_⟩
  · rw [hiff]
    rintro ⟨-, hfront | hbehind⟩
    · exact hnone hfront
    · exact hnone hbehind
  · exact hfollowed ⟨⟨[], hopened⟩, by decide⟩

end Run

end TimeProbe

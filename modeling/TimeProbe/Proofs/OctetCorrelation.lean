import TimeProbe.Proofs.ReplyCorrelation
import TimeProbe.Proofs.WireGrammar

/-!
# What a reply echoes in octets

A request is remembered by a number and a padded value, while the peer sees nothing but octets.
Both come to the same: the number that a reply has to repeat stands in eight octets of its header,
and the value is the payload of one field of the request. So a reply is accepted exactly if it
repeats the octets of the transmit timestamp and, where an identifier was sent, has the octets of
that field among its own fields, whatever other identifiers stand on either side.
-/

namespace TimeProbe

open ExtensionField

/-- The octets of the origin timestamp in a reply are those of the transmit timestamp in the
request. -/
def EchoesTime (request reply : Bytes) : Prop :=
  (reply.drop 24).take 8 = (request.drop 40).take 8

/-- Octets stand behind the header and some fields of a datagram, as one of its fields does. -/
def CopiesField (octets reply : Bytes) : Prop :=
  ∃ before fs behind, WireFields before fs ∧
    reply.drop Packet.headerLength = before ++ (octets ++ behind)

namespace Packet

/-- The transmit timestamp stands at the end of the header, whatever follows the packet. -/
theorem transmitOctets_encode (p : Packet) (rest : Bytes) :
    ((p.encode ++ rest).drop 40).take 8 = Bytes.ofInt 8 p.transmitTimestamp := by
  have hreference : ((p.referenceId ++ Bytes.zeros 4).take 4).length = 4 := by simp
  simp only [encode, encodeHeader, List.append_assoc]
  simp (disch := simp [hreference]) only [slice_append_right, slice_append_left,
    Bytes.length_ofInt, hreference, Nat.reduceSub, Nat.sub_self]

/-- The origin timestamp of a decoded packet is the number that its octets denote, all eight of
which are there. -/
theorem originTimestamp_of_decode {d : Bytes} {p : Packet} (h : decode d = .ok p) :
    p.originTimestamp = Bytes.toNat ((d.drop 24).take 8) ∧ ((d.drop 24).take 8).length = 8 := by
  cases verdict_of_decode h with
  | packet long version fields =>
    have hlong : 48 ≤ d.length := long
    have hslice : ((d.take 48).drop 24).take 8 = (d.drop 24).take 8 := by
      rw [List.drop_take, List.take_take, Nat.min_eq_left (by decide)]
    refine ⟨congrArg (fun bs => (Bytes.toNat bs : Int)) hslice, ?_⟩
    rw [List.length_take, List.length_drop]
    omega

/-- A reply repeats the transmit timestamp of a request as a number exactly if it does so in
octets. The timestamp has to fit its place, or else its octets denote another number. -/
theorem echoesTime_iff {packet reply : Packet} {d : Bytes}
    (hnonneg : 0 ≤ packet.transmitTimestamp)
    (hlt : packet.transmitTimestamp < 18446744073709551616) (h : decode d = .ok reply)
    (rest : Bytes) :
    EchoesTime (packet.encode ++ rest) d ↔
      reply.originTimestamp = packet.transmitTimestamp := by
  obtain ⟨horigin, hlength⟩ := originTimestamp_of_decode h
  rw [EchoesTime, transmitOctets_encode, horigin]
  constructor
  · intro hoctets
    rw [hoctets]
    exact Bytes.toNat_ofInt_of_lt hnonneg hlt
  · intro hnumber
    have hwritten := Bytes.ofInt_toNat ((d.drop 24).take 8)
    rw [hlength] at hwritten
    rw [← hnumber, hwritten]

/-- Fields put behind those of a packet are written behind its octets. -/
theorem encode_withFields (p : Packet) (fs : List ExtensionField) :
    (p.withFields fs).encode = p.encode ++ fs.flatMap (·.encode) := by
  have hheader : (p.withFields fs).encodeHeader = p.encodeHeader := rfl
  rw [encode, encode, hheader, withFields, List.flatMap_append, List.append_assoc]

/-- A field is among those of a decoded packet exactly if its octets stand among theirs. -/
theorem copiesField_iff {d octets : Bytes} {p : Packet} {f : ExtensionField}
    (h : decode d = .ok p) (hf : WireField octets f) :
    CopiesField octets d ↔ f ∈ p.extensionFields := by
  have hfields := wireFields_of_decode h
  obtain ⟨hcanonical, rfl⟩ := wireField_iff.mp hf
  constructor
  · rintro ⟨before, fs, behind, hbefore, hdrop⟩
    obtain ⟨hfs, rfl⟩ := wireFields_iff.mp hbefore
    obtain ⟨hgs, hencode⟩ := wireFields_iff.mp hfields
    have hall : ∀ g ∈ fs ++ [f], g.Canonical := by
      simpa [or_imp, forall_and] using And.intro hfs hcanonical
    have hfront : (fs ++ [f]).flatMap (·.encode) <+: p.extensionFields.flatMap (·.encode) := by
      rw [← hencode, hdrop]
      exact ⟨behind, by simp⟩
    have hprefix := ExtensionScan.fields_prefix_of_encode hall hgs hfront
    exact hprefix.subset (by simp)
  · intro hmem
    obtain ⟨fs, gs, hsplit⟩ := List.append_of_mem hmem
    obtain ⟨hall, hencode⟩ := wireFields_iff.mp hfields
    rw [hsplit] at hall hencode
    refine ⟨fs.flatMap (·.encode), fs, gs.flatMap (·.encode), wireFields_iff.mpr ⟨?_, rfl⟩, ?_⟩
    · exact fun g hg => hall g (by simp [hg])
    · rw [hencode, List.flatMap_append, List.flatMap_cons]

end Packet

/-- An identifier stands among fields on the wire exactly if the field that carries it, and
declares no other length, is one of them. -/
theorem WireFields.echoes_iff {octets payload : Bytes} {fs : List ExtensionField}
    (h : WireFields octets fs) :
    Echoes payload fs ↔ ⟨ExtensionType.uniqueIdentifier.code, payload, none⟩ ∈ fs := by
  constructor
  · rintro ⟨⟨fieldType, own, declared⟩, hf, rfl, rfl⟩
    have hundeclared := ((wireFields_iff.mp h).1 _ hf).undeclared
    dsimp only at hundeclared
    exact hundeclared ▸ hf
  · exact fun hf => ⟨_, hf, rfl, rfl⟩

/-- The identifier of a protected request on the wire: the one asked for, or a random one if none or
an empty one was, padded with zeros in a field behind the octets of the packet. -/
structure Protection.SendsIdentifier (p : Protection) (packet : Packet)
    (request uid octets : Bytes) : Prop where
  chosen : p.uid = some uid ∨ (p.uid = none ∨ p.uid = some []) ∧ uid.length = uidLength
  field : WireField octets ⟨ExtensionType.uniqueIdentifier.code, padPayload 12 uid, none⟩
  place : ∃ behind, request = packet.encode ++ (octets ++ behind)

section Protected

variable {p : Protection} {packet : Packet} {cipher : Aead.Cipher} {e : Entropy} {data : Bytes}
  {identifier : Identifier}

/-- A protected request sends the identifier that it is remembered by. -/
theorem Protection.sendsIdentifier_of_apply (huid : ∀ uid ∈ p.uid, uid.length ≤ 65528)
    (h : (p.apply packet cipher e).1 = .ok (data, identifier)) :
    ∃ uid octets, p.SendsIdentifier packet data uid octets ∧
      identifier = ⟨packet.transmitTimestamp, some (padPayload 12 uid)⟩ := by
  obtain ⟨uid, f, hchosen, rfl, rfl⟩ := exists_of_apply_eq_ok h
  have hroom : uid.length ≤ 65528 := by
    rcases hchosen with hgiven | ⟨-, hdrawn⟩
    · exact huid uid hgiven
    · rw [hdrawn]
      decide
  obtain ⟨more, hadded⟩ : ∃ more, p.added uid = uniqueIdentifier uid :: more := ⟨_, rfl⟩
  refine ⟨uid, (uniqueIdentifier uid).encode,
    ⟨hchosen, ?_, more.flatMap (·.encode) ++ f.encode, ?_⟩, rfl⟩
  · exact wireField_iff.mpr ⟨canonical_uniqueIdentifier hroom, rfl⟩
  · rw [Packet.encode_withFields, hadded, List.flatMap_cons, List.append_assoc, List.append_assoc]

/-- A reply is matched on the timestamp and on the field of the identifier as they were sent. -/
theorem Protection.SendsIdentifier.accepts_iff {uid octets d : Bytes} {reply : Packet}
    (hsent : p.SendsIdentifier packet data uid octets)
    (hnonneg : 0 ≤ packet.transmitTimestamp)
    (hlt : packet.transmitTimestamp < 18446744073709551616)
    (hdecode : Packet.decode d = .ok reply) :
    Identifier.accepts ⟨packet.transmitTimestamp, some (padPayload 12 uid)⟩ reply = true ↔
      EchoesTime data d ∧ CopiesField octets d := by
  obtain ⟨behind, rfl⟩ := hsent.place
  rw [Identifier.accepts_iff, Packet.echoesTime_iff hnonneg hlt hdecode,
    Packet.copiesField_iff hdecode hsent.field,
    (Packet.wireFields_of_decode hdecode).echoes_iff]

end Protected

/-- Octets of the identifier's field stand among the fields of a datagram that decodes, exactly if
some field there is of its type and has its payload. -/
theorem Packet.copiesField_iff_echoes {d octets payload : Bytes} {reply : Packet}
    (hdecode : Packet.decode d = .ok reply)
    (hfield : WireField octets ⟨ExtensionType.uniqueIdentifier.code, payload, none⟩) :
    CopiesField octets d ↔ ∃ fs, WireFields (d.drop headerLength) fs ∧ Echoes payload fs := by
  have hfields := wireFields_of_decode hdecode
  rw [copiesField_iff hdecode hfield, ← hfields.echoes_iff]
  constructor
  · exact fun hechoes => ⟨_, hfields, hechoes⟩
  · rintro ⟨fs, hfs, hechoes⟩
    exact ExtensionScan.wireFields_unique hfs hfields ▸ hechoes

/-- **Replies are matched on octets.** Let the transmit timestamp of a packet fit its place. An
exchange of the packet accepts a datagram that decodes exactly if the octets of its origin
timestamp are those of the transmit timestamp in the request, and passes over it otherwise. A
protected request, which is always made as long as its inner fields leave room, is remembered by
an identifier that matches a datagram exactly if these octets agree and some field of the datagram
is a unique identifier with the payload that the request carries, padding included; in other words,
if they agree and the octets of the request's field stand among the fields of the datagram. -/
theorem Packet.correlation_exact {packet : Packet} (hnonneg : 0 ≤ packet.transmitTimestamp)
    (hlt : packet.transmitTimestamp < 18446744073709551616) :
    (∀ i timeout, Run.exchangePacket i packet none timeout =
      Run.exchangeRaw i packet.encode (Run.acceptPacket ⟨packet.transmitTimestamp, none⟩)
        timeout) ∧
    (∀ d reply, decode d = .ok reply →
      (Run.acceptPacket ⟨packet.transmitTimestamp, none⟩ d = .ok (some reply) ↔
        EchoesTime packet.encode d) ∧
      (Run.acceptPacket ⟨packet.transmitTimestamp, none⟩ d = .ok none ↔
        ¬ EchoesTime packet.encode d)) ∧
    ∀ (p : Protection) (cipher : Aead.Cipher) (e : Entropy),
      (∀ uid ∈ p.uid, uid.length ≤ 65528) →
      ((p.plaintextFields.flatMap (·.encode)).length ≤ 65519 →
        ∃ data identifier, (p.apply packet cipher e).1 = .ok (data, identifier)) ∧
      ∀ data identifier, (p.apply packet cipher e).1 = .ok (data, identifier) →
        ∃ uid octets, p.SendsIdentifier packet data uid octets ∧
          ∀ d reply, decode d = .ok reply →
            (identifier.accepts reply = true ↔ EchoesTime data d ∧
              ∃ fs, WireFields (d.drop headerLength) fs ∧ Echoes (padPayload 12 uid) fs) ∧
            (identifier.accepts reply = true ↔ EchoesTime data d ∧ CopiesField octets d) := by
  refine ⟨fun i timeout => rfl, fun d reply hdecode => ?_, fun p cipher e huid => ⟨?_, ?_⟩⟩
  · have hecho : Identifier.accepts ⟨packet.transmitTimestamp, none⟩ reply = true ↔
        EchoesTime packet.encode d := by
      have htime := echoesTime_iff hnonneg hlt hdecode []
      rw [List.append_nil] at htime
      rw [Identifier.accepts_none_iff, htime]
    rw [Run.acceptPacket_of_decode hdecode, ← hecho]
    simp
  · intro hroom
    obtain ⟨uid, nonce, -, -, happly⟩ := p.apply_eq_ok packet cipher e hroom
    exact ⟨_, _, happly⟩
  · intro data identifier happly
    obtain ⟨uid, octets, hsent, rfl⟩ := Protection.sendsIdentifier_of_apply huid happly
    refine ⟨uid, octets, hsent, fun d reply hdecode => ?_⟩
    have hcopies := hsent.accepts_iff hnonneg hlt hdecode
    exact ⟨by rw [hcopies, copiesField_iff_echoes hdecode hsent.field], hcopies⟩

/-- A request with an identifier field of its own, protected under an identifier of five octets: a
reply with both fields is matched, and one with the five octets padded to eight is not. Without an
identifier the timestamp is enough. -/
theorem Packet.correlation_exact_two_identifiers :
    let own := uniqueIdentifier [9]
    let packet : Packet := { transmitTimestamp := 77, extensionFields := [own] }
    let p : Protection := { cookie := [9, 8, 7], placeholders := 1, uid := some [5, 5, 5, 5, 5] }
    let cipher : Aead.Cipher := ⟨.sivCmac256, List.replicate 32 7, rfl⟩
    let reply : Packet := { mode := 4, originTimestamp := 77 }
    let both := reply.withFields [own, uniqueIdentifier [5, 5, 5, 5, 5]]
    let shorter := reply.withFields [own, ⟨0x0104, [5, 5, 5, 5, 5, 0, 0, 0], none⟩]
    Run.acceptPacket ⟨77, none⟩ reply.encode = .ok (some reply) ∧
    ∃ data identifier, (p.apply packet cipher { seed := 1 }).1 = .ok (data, identifier) ∧
      identifier.accepts both = true ∧ ¬ identifier.accepts shorter = true := by
  intro own packet p cipher reply both shorter
  obtain ⟨-, hplain, hprotected⟩ :=
    correlation_exact (show 0 ≤ packet.transmitTimestamp by decide) (by decide)
  have hread (q : Packet) (h : (decode q.encode).toOption = some q) : decode q.encode = .ok q := by
    cases hdecode : decode q.encode with
    | error error =>
      rw [hdecode] at h
      cases h
    | ok found =>
      rw [hdecode] at h
      rw [Option.some.inj h]
  have hreply := hread reply (by decide +kernel)
  have hboth := hread both (by decide +kernel)
  have hshorter := hread shorter (by decide +kernel)
  obtain ⟨hmade, hsent⟩ := hprotected p cipher { seed := 1 } (by decide)
  obtain ⟨data, identifier, happly⟩ := hmade (by decide)
  obtain ⟨uid, octets, ⟨hchosen, -, behind, hdata⟩, hmatch⟩ := hsent data identifier happly
  obtain rfl : uid = [5, 5, 5, 5, 5] := by
    rcases hchosen with hgiven | ⟨hnone | hempty, -⟩
    · exact (Option.some.inj hgiven).symm
    · cases hnone
    · cases hempty
  refine ⟨(hplain _ _ hreply).1.mpr ?_, data, identifier, happly,
    (hmatch _ _ hboth).1.mpr ⟨?_, _, wireFields_of_decode hboth, ?_⟩, fun haccepts => ?_⟩
  · rw [EchoesTime]
    decide +kernel
  · rw [EchoesTime, hdata, transmitOctets_encode]
    decide +kernel
  · exact ⟨uniqueIdentifier [5, 5, 5, 5, 5], by decide, rfl, rfl⟩
  · obtain ⟨-, fs, hfs, f, hf, -, hpayload⟩ := (hmatch _ _ hshorter).1.mp haccepts
    rw [ExtensionScan.wireFields_unique hfs (wireFields_of_decode hshorter)] at hf
    have hnone : ∀ g ∈ shorter.extensionFields, g.payload ≠ padPayload 12 [5, 5, 5, 5, 5] := by
      decide
    exact hnone f hf hpayload

end TimeProbe

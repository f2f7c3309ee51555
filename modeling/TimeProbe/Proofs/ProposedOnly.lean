import TimeProbe.Proofs.Negotiation

/-!
# What was proposed and what is used

A key establishment compares the algorithm that a server picked with those that were proposed, but
the protocol only with the one that keys are derived for. So an algorithm is never used that was
not proposed, while an answer that picks the one protocol leads to keys for it also if only others
were proposed.
-/

namespace TimeProbe

/-- The use of the exporter that gives the key of one direction for a protocol and an algorithm. -/
def keyExport (protocol : Nat) (aead : Aead.Algorithm) (direction : Nat) : Export :=
  { label := exporterLabel.toUTF8.toList
    length := aead.keyLength
    context := Bytes.ofNat 2 protocol ++ Bytes.ofNat 2 aead.number ++ Bytes.ofNat 1 direction }

/-- The keys of material are those that the exporter of a stream gives for a protocol. -/
structure KeyMaterial.DerivedFor (m : KeyMaterial) (w : World) (i protocol : Nat) : Prop where
  clientToServer : m.keys.clientToServer.key = w.exporter i (keyExport protocol m.aead 0)
  serverToClient : m.keys.serverToClient.key = w.exporter i (keyExport protocol m.aead 1)

/-- Material is made for the one protocol. -/
theorem KeyMaterial.MadeOf.derivedFor {m : KeyMaterial} {w : World} {i : Nat} {r : KeResponse}
    (h : m.MadeOf w i r) : m.DerivedFor w i 0 := ⟨h.clientToServer, h.serverToClient⟩

namespace KeResponse

variable {proposed : List Int} {r : KeResponse}

/-- Another protocol than the one is objected to, unless the answer has errors. -/
theorem objection?_of_otherProtocol {protocols : List Nat} (herrors : r.errors = [])
    (hprotocol : r.nextProtocol = some protocols) (hother : protocols ≠ [0]) :
    r.objection? proposed = some .otherProtocol := by
  simp [objection?, Objection.inOrder, Objection.applies, herrors, hprotocol, hother]

/-- Algorithms of which one was not proposed settle on none. -/
theorem settled?_of_unproposed {ids : List Nat} (h : ∃ id ∈ ids, (id : Int) ∉ proposed) :
    settled? proposed ids = none := by
  obtain ⟨id, hid, hnot⟩ := h
  match ids, hid with
  | [only], hid =>
    obtain rfl := List.mem_singleton.mp hid
    exact if_neg hnot
  | _ :: _ :: _, _ => rfl

/-- An algorithm that was not proposed is objected to, if the protocol is the one. -/
theorem objection?_of_unproposed {ids : List Nat} (herrors : r.errors = [])
    (hprotocol : r.nextProtocol = some [0]) (hids : r.aead = some ids)
    (h : ∃ id ∈ ids, (id : Int) ∉ proposed) :
    r.objection? proposed = some .unknownAlgorithm := by
  simp [objection?, Objection.inOrder, Objection.applies, herrors, hprotocol, hids,
    settled?_of_unproposed h]

/-- An objection that counts applies. -/
theorem applies_of_objection? {o : Objection} (h : r.objection? proposed = some o) :
    o.applies proposed r = true := by
  rw [objection?] at h
  exact List.find?_some h

end KeResponse

namespace Run

open KeResponse

/-- Keys are only derived for what a request proposed, and an answer without errors that picks
something else is refused as one with an unknown protocol or algorithm. -/
structure UsesProposed (q : KeRequest) (i : Nat) (w : World) : Prop where
  derived : ∀ m w₂, establish i q w = (.done m, w₂) → ∃ r w₁ protocol,
    exchangeRequest i q w = (.done r, w₁) ∧ r.nextProtocol = some [protocol] ∧
      m.DerivedFor w i protocol ∧ (protocol : Int) ∈ q.nextProtocol ∧
      (m.aead.number : Int) ∈ q.aead
  refused : ∀ r w₁ protocols, exchangeRequest i q w = (.done r, w₁) → r.errors = [] →
    r.nextProtocol = some protocols →
    (∃ id ∈ protocols, (id : Int) ∉ q.nextProtocol) ∨
      (∃ ids, r.aead = some ids ∧ ∃ id ∈ ids, (id : Int) ∉ q.aead) →
    ∃ f w₂, establish i q w = (.failed f, w₂) ∧
      (f.kind = .unknownNextProtocol ∨ f.kind = .unknownAead)

variable {q : KeRequest} {i : Nat} {w w₂ : World} {m : KeyMaterial}

/-- Material was made of an answer to which there was no objection. -/
theorem exists_of_establish (hi : i < w.streams.length)
    (hexporter : ∀ x : Export, (w.exporter i x).length = x.length)
    (h : establish i q w = (.done m, w₂)) :
    ∃ r w₁, exchangeRequest i q w = (.done r, w₁) ∧ r.Settles q.aead m.aead ∧ m.MadeOf w i r := by
  obtain ⟨r, w₁, hexchange, hrest⟩ := exists_of_bind_done h
  obtain ⟨hiff, hmade, -⟩ := establish_exact hi hexporter hexchange
  have hmade := (hmade m w₂ h).1
  obtain ⟨herrors, hprotocol, ⟨id, hid, hproposed, -⟩, hcookies⟩ := hiff.mp ⟨m, w₂, h⟩
  have hnumber := hid.symm.trans hmade.selected
  simp only [Option.some.injEq, List.cons.injEq, and_true] at hnumber
  subst hnumber
  exact ⟨r, w₁, hexchange, ⟨herrors, hprotocol, hmade.selected, hproposed, hcookies⟩, hmade⟩

/-- An answer that picks the one protocol is refused for its protocol or its algorithm only if the
algorithm is objected to. -/
theorem objection?_of_establish_failed {r : KeResponse} {w₁ : World} {f : Fault}
    (hi : i < w.streams.length) (hexporter : ∀ x : Export, (w.exporter i x).length = x.length)
    (hexchange : exchangeRequest i q w = (.done r, w₁)) (hprotocol : r.nextProtocol = some [0])
    (hfailed : establish i q w = (.failed f, w₂))
    (hkind : f.kind = .unknownNextProtocol ∨ f.kind = .unknownAead) :
    r.objection? q.aead = some .unknownAlgorithm := by
  have hnone : ¬ ∃ m w₂, establish i q w = (.done m, w₂) := by
    rintro ⟨m, w₂, hdone⟩
    rw [hfailed] at hdone
    cases hdone
  obtain ⟨o, hfirst, hobjected, -⟩ := (establish_exact hi hexporter hexchange).2.2 hnone
  rw [hfailed] at hobjected
  cases hobjected
  have happlies := applies_of_objection? hfirst
  -- The objections that blame neither the protocol nor the algorithm have kinds of their own.
  cases o with
  | unknownAlgorithm => exact hfirst
  | otherProtocol => simp [Objection.applies, hprotocol] at happlies
  | serverErrors | noProtocol | noAlgorithm | noCookies => rcases hkind with h | h <;> cases h

/-- An answer without errors that picks another protocol than the one, or whose algorithm is
objected to, is refused for that. -/
theorem exists_establish_failed {r : KeResponse} {w₁ : World} {protocols : List Nat}
    (hexchange : exchangeRequest i q w = (.done r, w₁)) (herrors : r.errors = [])
    (hprotocol : r.nextProtocol = some protocols)
    (h : protocols = [0] → r.objection? q.aead = some .unknownAlgorithm) :
    ∃ f w₂, establish i q w = (.failed f, w₂) ∧
      (f.kind = .unknownNextProtocol ∨ f.kind = .unknownAead) := by
  by_cases hone : protocols = [0]
  · exact ⟨_, _, establish_of_objection hexchange (h hone), .inr rfl⟩
  · exact ⟨_, _, establish_of_objection hexchange
      (objection?_of_otherProtocol herrors hprotocol hone), .inl rfl⟩

/-- **An algorithm is only used if it was proposed, a protocol whether or not.** Material has an
algorithm that was proposed, and its keys are derived for the one protocol. So keys are derived
for proposals only, and answers that pick something else are refused for it, exactly if the one
protocol was proposed, or the answer has errors or picks another protocol, or its algorithm is
refused anyway. -/
theorem usesProposed_iff (hi : i < w.streams.length)
    (hexporter : ∀ x : Export, (w.exporter i x).length = x.length) :
    (∀ m w₂, establish i q w = (.done m, w₂) →
      (m.aead.number : Int) ∈ q.aead ∧ m.DerivedFor w i 0) ∧
    (UsesProposed q i w ↔ ∀ r w₁, exchangeRequest i q w = (.done r, w₁) →
      (0 : Int) ∈ q.nextProtocol ∨ r.errors ≠ [] ∨ r.nextProtocol ≠ some [0] ∨
        r.objection? q.aead = some .unknownAlgorithm) := by
  refine ⟨fun m w₂ h => ?_, fun h r w₁ hexchange => ?_, fun h => ⟨fun m w₂ hdone => ?_, ?_⟩⟩
  · obtain ⟨r, w₁, -, hsettles, hmade⟩ := exists_of_establish hi hexporter h
    exact ⟨hsettles.proposed, hmade.derivedFor⟩
  · by_contra hnot
    simp only [not_or, not_not] at hnot
    obtain ⟨hunproposed, herrors, hprotocol, hother⟩ := hnot
    obtain ⟨f, w₂, hfailed, hkind⟩ := h.refused r w₁ [0] hexchange herrors hprotocol
      (.inl ⟨0, List.mem_singleton.mpr rfl, hunproposed⟩)
    exact hother (objection?_of_establish_failed hi hexporter hexchange hprotocol hfailed hkind)
  · obtain ⟨r, w₁, hexchange, hsettles, hmade⟩ := exists_of_establish hi hexporter hdone
    refine ⟨r, w₁, 0, hexchange, hsettles.nextProtocol, hmade.derivedFor, ?_, hsettles.proposed⟩
    rcases h r w₁ hexchange with hproposed | herrors | hprotocol | hobjection
    · exact hproposed
    · exact absurd hsettles.errors herrors
    · exact absurd hsettles.nextProtocol hprotocol
    · rw [hsettles.objection?_eq_none] at hobjection
      cases hobjection
  · intro r w₁ protocols hexchange herrors hprotocol hpicked
    refine exists_establish_failed hexchange herrors hprotocol ?_
    rintro rfl
    rcases hpicked with ⟨id, hid, hunproposed⟩ | ⟨ids, hids, hunproposed⟩
    · obtain rfl := List.mem_singleton.mp hid
      rcases h r w₁ hexchange with hproposed | herrors' | hprotocol' | hobjection
      · exact absurd hproposed hunproposed
      · exact absurd herrors herrors'
      · exact absurd hprotocol hprotocol'
      · exact hobjection
    · exact objection?_of_unproposed herrors hprotocol hids hunproposed

/-- A request that proposes only protocol 1, and an answer that picks protocol 0: there is
material, with keys for protocol 0. -/
theorem usesProposed_iff_unproposed :
    let w : World :=
      { streams :=
          [{ address := ⟨"192.0.2.1", 4460⟩
             maxRecords := 8
             chunks := [.octets ([128, 1, 0, 2, 0, 0, 128, 4, 0, 2, 0, 15, 0, 5, 0, 1, 7] ++
               [128, 0, 0, 0])] }] }
    let q : KeRequest := { nextProtocol := [1] }
    0 < w.streams.length ∧ (∀ x : Export, (w.exporter 0 x).length = x.length) ∧
      ¬ UsesProposed q 0 w ∧ (0 : Int) ∉ q.nextProtocol ∧
      ∃ m w₂, establish 0 q w = (.done m, w₂) ∧ m.DerivedFor w 0 0 := by
  intro w q
  let r : KeResponse := { nextProtocol := some [0], aead := some [15], cookies := [[7]] }
  have hcomputed : (match (exchangeRequest 0 q w).1 with
      | .done answer => decide (answer = r)
      | _ => false) = true := by
    decide +kernel +revert
  have hexchange : (exchangeRequest 0 q w).1 = .done r := by
    split at hcomputed
    next answer hanswer => rw [hanswer, of_decide_eq_true hcomputed]
    next => cases hcomputed
  have hexchange : exchangeRequest 0 q w = (.done r, (exchangeRequest 0 q w).2) :=
    Prod.ext hexchange rfl
  have hexporter (x : Export) : (w.exporter 0 x).length = x.length := by
    change ((List.range x.length).map x.octet).length = x.length
    rw [List.length_map, List.length_range]
  have hi : 0 < w.streams.length := by decide
  have hunproposed : (0 : Int) ∉ q.nextProtocol := by decide
  obtain ⟨hderived, hiff⟩ := usesProposed_iff (q := q) hi hexporter
  obtain ⟨m, w₂, hdone⟩ := (establish_exact hi hexporter hexchange).1.mpr
    ⟨rfl, rfl, ⟨15, rfl, List.mem_singleton.mpr rfl, .inl rfl⟩, List.cons_ne_nil _ _⟩
  refine ⟨hi, hexporter, fun huses => ?_, hunproposed, m, w₂, hdone, (hderived m w₂ hdone).2⟩
  rcases hiff.mp huses r _ hexchange with h | h | h | h
  · exact hunproposed h
  · exact h rfl
  · exact h rfl
  · cases h

end Run

end TimeProbe

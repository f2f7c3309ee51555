import TimeProbe.Proofs.RememberedFailure

/-!
# What is raised where a session is asked for

Where a session is asked for, the jar is filled first if it never was, and filled again if it is
low. If the first key establishment fails, what is raised is the failure of a key exchange, whatever
the fault was; the fault of a refill comes out as it is. So all that is raised is of one kind
exactly as long as the refills fail in that way only.
-/

namespace TimeProbe

/-- The fault of the refill that a jar in use needs for a session, if it fails. -/
def SessionSource.refillFaults (s : SessionSource) (w : World) : List Fault :=
  if s.isLow w.settings.ntsSessionCookies then (Run.establishTarget s.config w).1.faults else []

namespace World

/-- The fault of the first key establishment that is made where a session is asked for, if one is
made and fails. -/
def firstFaults (w : World) : List Fault :=
  match w.source with
  | some s => if JarCall.take.fillsFirst s then (Run.establishTarget s.config w).1.faults else []
  | none => []

/-- The fault of the refill that is made where a session is asked for, if one is made and fails. The
jar was in use before, or was filled just now. -/
def refillFaults (w : World) : List Fault :=
  match w.source with
  | some s =>
    match s.error, s.keys with
    | some _, _ => []
    | none, some _ => s.refillFaults w
    | none, none =>
      match Run.establishTarget s.config w with
      | (.done m, w₁) => (s.install m).refillFaults (w₁.withSource (some (s.install m)))
      | (.failed _, _) => []
      | (.cutOff, _) => []
  | none => []

end World

/-- A history of sessions asked for from a jar: what was raised, and the faults of the first key
establishments and of the refills that were made for them, oldest first. In between keys may be
established in advance, and anything may happen that leaves the jar alone. -/
inductive TakeHistory (w : World) : World → List Fault → List Fault → List Fault → Prop
  | start : TakeHistory w w [] [] []
  | elsewhere {w₁ w₂ : World} {raised firsts refills : List Fault}
      (before : TakeHistory w w₁ raised firsts refills) (source : w₂.source = w₁.source) :
      TakeHistory w w₂ raised firsts refills
  | bootstrap {w₁ : World} {raised firsts refills : List Fault}
      (before : TakeHistory w w₁ raised firsts refills) :
      TakeHistory w (Run.bootstrap w₁).2 raised firsts refills
  | take {w₁ : World} {raised firsts refills : List Fault}
      (before : TakeHistory w w₁ raised firsts refills) :
      TakeHistory w (Run.takeSession w₁).2 (raised ++ (Run.takeSession w₁).1.faults)
        (firsts ++ w₁.firstFaults) (refills ++ w₁.refillFaults)

/-- What is raised for key establishments that failed. The fault of a refill is, and so is that of
a first one that is not remembered; a first one that is remembered raises the failure of a key
exchange; and nothing else is raised but such a failure. -/
structure RaisedFor (raised firsts refills : List Fault) : Prop where
  refill : ∀ f ∈ refills, f ∈ raised
  stranger : ∀ f ∈ firsts, SessionSource.remembered? f = none → f ∈ raised
  remembered : ∀ f ∈ firsts, SessionSource.remembered? f ≠ none →
    ∃ g ∈ raised, g.kind = .keyExchange
  only : ∀ g ∈ raised, g.kind = .keyExchange ∨
    g ∈ refills ∨ g ∈ firsts ∧ SessionSource.remembered? g = none

/-- Exactly the prober's own faults and those of the system are remembered. -/
theorem SessionSource.remembered?_ne_none_iff {f : Fault} :
    remembered? f ≠ none ↔ f.kind.isA .own = true ∨ f.kind.isA .os = true := by
  rw [Ne, remembered?_eq_none_iff]
  cases f.kind.isA .own <;> cases f.kind.isA .os <;> simp

/-- The failure of a key exchange is one of the prober's own. -/
theorem FaultKind.own_of_keyExchange {kind : FaultKind} (h : kind.isA .keyExchange = true) :
    kind.isA .own = true := by
  cases kind <;> first | rfl | cases h

namespace RaisedFor

variable {raised firsts refills : List Fault} {f g : Fault}

/-- Where no key establishment fails, nothing needs to be raised. -/
theorem nil : RaisedFor [] [] [] :=
  ⟨List.forall_mem_nil _, List.forall_mem_nil _, List.forall_mem_nil _, List.forall_mem_nil _⟩

/-- The failure of a key exchange may be raised at any time. -/
theorem of_keyExchange (hg : g.kind = .keyExchange) : RaisedFor [g] [] [] :=
  ⟨List.forall_mem_nil _, List.forall_mem_nil _, List.forall_mem_nil _, by simp [hg]⟩

/-- The fault of a refill is raised as it is. -/
theorem of_refill (f : Fault) : RaisedFor [f] [] [f] :=
  ⟨by simp, List.forall_mem_nil _, List.forall_mem_nil _, by simp⟩

/-- The fault of a first key establishment is raised as it is if it is not remembered. -/
theorem of_stranger (hf : SessionSource.remembered? f = none) : RaisedFor [f] [f] [] :=
  ⟨List.forall_mem_nil _, by simp, by simp [hf], by simp [hf]⟩

/-- A first key establishment whose fault is remembered raises the failure of a key exchange. -/
theorem of_remembered (hf : SessionSource.remembered? f ≠ none) (hg : g.kind = .keyExchange) :
    RaisedFor [g] [f] [] :=
  ⟨List.forall_mem_nil _, by simp [hf], by simp [hg], by simp [hg]⟩

/-- What is raised for earlier and for later key establishments. -/
theorem append {raised' firsts' refills' : List Fault} (h : RaisedFor raised firsts refills)
    (h' : RaisedFor raised' firsts' refills') :
    RaisedFor (raised ++ raised') (firsts ++ firsts') (refills ++ refills') := by
  refine ⟨?_, ?_, ?_, ?_⟩
  · intro f hf
    rw [List.mem_append] at hf ⊢
    exact hf.imp (h.refill f) (h'.refill f)
  · intro f hf hnone
    rw [List.mem_append] at hf ⊢
    exact hf.imp (h.stranger f · hnone) (h'.stranger f · hnone)
  · intro f hf hsome
    rcases List.mem_append.mp hf with hf | hf
    · obtain ⟨g, hg, hkind⟩ := h.remembered f hf hsome
      exact ⟨g, List.mem_append_left _ hg, hkind⟩
    · obtain ⟨g, hg, hkind⟩ := h'.remembered f hf hsome
      exact ⟨g, List.mem_append_right _ hg, hkind⟩
  · intro g hg
    have honly := h.only g
    have honly' := h'.only g
    grind

/-- All that is raised is the failure of a key exchange, be it in a wider or in a stricter sense,
exactly if this is true of the refills and if the first key establishments that failed are
remembered. -/
theorem forall_iff (h : RaisedFor raised firsts refills) {p : Fault → Prop}
    (hstrict : ∀ f : Fault, f.kind = .keyExchange → p f)
    (hwide : ∀ f, p f → f.kind.isA .keyExchange = true) :
    (∀ f ∈ raised, p f) ↔
      (∀ f ∈ firsts, f.kind.isA .own = true ∨ f.kind.isA .os = true) ∧ ∀ f ∈ refills, p f := by
  constructor
  · intro hraised
    refine ⟨fun f hf => ?_, fun f hf => hraised f (h.refill f hf)⟩
    by_cases hstranger : SessionSource.remembered? f = none
    · have hkind := hwide f (hraised f (h.stranger f hf hstranger))
      exact .inl (FaultKind.own_of_keyExchange hkind)
    · exact SessionSource.remembered?_ne_none_iff.mp hstranger
  · rintro ⟨hfirsts, hrefills⟩ g hg
    rcases h.only g hg with hkind | hrefill | ⟨hfirst, hstranger⟩
    · exact hstrict g hkind
    · exact hrefills g hrefill
    · exact absurd hstranger (SessionSource.remembered?_ne_none_iff.mpr (hfirsts g hfirst))

end RaisedFor

namespace Run

variable {w : World} {s : SessionSource}

/-- From a jar in use the fault of a refill is raised, or that of another time server. -/
theorem raisedFor_takeInstalled {keys : KeyPair} {address : Address} (hs : w.source = some s)
    (hkeys : s.keys = some keys) (haddress : s.address = some address) (other : KeyPair) :
    RaisedFor (takeInstalled other w).1.faults [] (s.refillFaults w) := by
  rw [SessionSource.refillFaults]
  cases hlow : s.isLow w.settings.ntsSessionCookies with
  | false =>
    rw [takeInstalled_of_full hs hkeys haddress hlow, if_neg Bool.false_ne_true]
    exact .nil
  | true =>
    rw [takeInstalled_of_low hs hlow, if_pos rfl]
    rcases establishTarget s.config w with ⟨ending, w₁⟩
    cases ending with
    | done m =>
      dsimp only
      split
      · exact .nil
      · exact .of_keyExchange rfl
    | failed f => exact .of_refill f
    | cutOff => exact .nil

/-- Where a session is asked for, what is raised is for the key establishments that are made. -/
theorem raisedFor_takeSession (hs : w.source = some s)
    (hpaired : s.keys.isSome = s.address.isSome) :
    RaisedFor (takeSession w).1.faults w.firstFaults w.refillFaults := by
  cases herror : s.error with
  | some cause =>
    have hfirsts : w.firstFaults = [] := by
      simp [World.firstFaults, hs, JarCall.fillsFirst, herror]
    have hrefills : w.refillFaults = [] := by simp [World.refillFaults, hs, herror]
    rw [hfirsts, hrefills, takeSession_of_error hs herror]
    exact .of_keyExchange rfl
  | none =>
    cases hkeys : s.keys with
    | some keys =>
      have hfirsts : w.firstFaults = [] := by
        simp [World.firstFaults, hs, JarCall.fillsFirst, hkeys]
      have hrefills : w.refillFaults = s.refillFaults w := by
        simp [World.refillFaults, hs, herror, hkeys]
      have hfilled : s.address.isSome = true := by rw [← hpaired, hkeys]; rfl
      obtain ⟨address, haddress⟩ := Option.isSome_iff_exists.mp hfilled
      rw [hfirsts, hrefills, takeSession_of_keys hs herror hkeys]
      exact raisedFor_takeInstalled hs hkeys haddress keys
    | none =>
      rw [takeSession_of_empty hs herror hkeys]
      simp only [World.firstFaults, World.refillFaults, hs, JarCall.fillsFirst, herror, hkeys]
      rcases establishTarget s.config w with ⟨ending, w₁⟩
      cases ending with
      | done m =>
        have haddress : (s.install m).address = some m.address := rfl
        exact raisedFor_takeInstalled rfl rfl haddress m.keys
      | failed f =>
        dsimp only
        cases hremembered : SessionSource.remembered? f with
        | some cause => exact .of_remembered (by simp [hremembered]) rfl
        | none => exact .of_stranger hremembered
      | cutOff => exact .nil

end Run

/-- A history of sessions asked for is one of calls on the jar. -/
theorem TakeHistory.exists_failureHistory {w w' : World} {raised firsts refills : List Fault}
    (hhistory : TakeHistory w w' raised firsts refills) :
    ∃ failures, FailureHistory w w' failures := by
  induction hhistory with
  | start => exact ⟨[], .start⟩
  | elsewhere before source ih =>
    obtain ⟨failures, hfailures⟩ := ih
    exact ⟨failures, .elsewhere hfailures source⟩
  | bootstrap before ih =>
    obtain ⟨failures, hfailures⟩ := ih
    exact ⟨_, .call hfailures .bootstrap⟩
  | take before ih =>
    obtain ⟨failures, hfailures⟩ := ih
    exact ⟨_, .call hfailures .take⟩

/-- Along a history what is raised is for the key establishments that were made. -/
theorem TakeHistory.raisedFor {c : RunConfig} {w w' : World} {raised firsts refills : List Fault}
    (hsource : w.source = some { config := c })
    (hhistory : TakeHistory w w' raised firsts refills) : RaisedFor raised firsts refills := by
  induction hhistory with
  | start => exact .nil
  | elsewhere before source ih => exact ih
  | bootstrap before ih => exact ih
  | take before ih =>
    obtain ⟨failures, hfailures⟩ := before.exists_failureHistory
    obtain ⟨s, hs, -, hpaired, -⟩ := hfailures.exists_source hsource
    exact ih.append (Run.raisedFor_takeSession hs hpaired)

/-- A fault is that of a step exactly if the step ended with it. -/
theorem Ending.mem_faults_iff {α : Type} {ending : Ending α} {f : Fault} :
    f ∈ ending.faults ↔ ending = .failed f := by
  cases ending <;> simp [faults, eq_comm]

open Run

/-- **When sessions asked for raise failures of a key exchange only.** Along any history of sessions
asked for from a jar that was empty at first, and whatever becomes of the key establishments, all
that is raised is the failure of a key exchange exactly if the first key establishments fail with
nothing but the prober's own faults and those of the system, and every refill that fails does so
with the failure of a key exchange. This is so for failures in the wider sense, and for those that
are of no special kind. For such a fault of a first key establishment the failure of a key exchange
is raised in its place; a fault of a refill is raised as it is. -/
theorem raised_keyExchange_iff {c : RunConfig} {w w' : World} {raised firsts refills : List Fault}
    (hsource : w.source = some { config := c })
    (hhistory : TakeHistory w w' raised firsts refills) :
    ((∀ f ∈ raised, f.kind.isA .keyExchange = true) ↔
      (∀ f ∈ firsts, f.kind.isA .own = true ∨ f.kind.isA .os = true) ∧
        ∀ f ∈ refills, f.kind.isA .keyExchange = true) ∧
    ((∀ f ∈ raised, f.kind = .keyExchange) ↔
      (∀ f ∈ firsts, f.kind.isA .own = true ∨ f.kind.isA .os = true) ∧
        ∀ f ∈ refills, f.kind = .keyExchange) ∧
    (∀ f ∈ w'.firstFaults, f.kind.isA .own = true ∨ f.kind.isA .os = true →
      ∃ g, (takeSession w').1 = .failed g ∧ g.kind = .keyExchange) ∧
    ∀ f ∈ w'.refillFaults, (takeSession w').1 = .failed f := by
  have hraised := hhistory.raisedFor hsource
  obtain ⟨failures, hfailures⟩ := hhistory.exists_failureHistory
  obtain ⟨s, hs, -, hpaired, -⟩ := hfailures.exists_source hsource
  have hlast := raisedFor_takeSession hs hpaired
  have hwide (f : Fault) (hf : f.kind = .keyExchange) : f.kind.isA .keyExchange = true := by
    rw [hf]
    rfl
  refine ⟨hraised.forall_iff hwide fun f hf => hf, hraised.forall_iff (fun f hf => hf) hwide,
    fun f hf hkind => ?_, fun f hf => Ending.mem_faults_iff.mp (hlast.refill f hf)⟩
  obtain ⟨g, hg, hkey⟩ :=
    hlast.remembered f hf (SessionSource.remembered?_ne_none_iff.mpr hkind)
  exact ⟨g, Ending.mem_faults_iff.mp hg, hkey⟩

/-- A server that hands out cookies for one session and breaks the next stream: what is raised for
the second session is the fault of the stream. -/
theorem raised_keyExchange_iff_broken :
    let c : RunConfig := { (default : RunConfig) with target := "192.0.2.1", kePort := 4460 }
    let w : World :=
      { source := some { config := c }
        keScripts :=
          [{ chunks := [.octets ([128, 1, 0, 2, 0, 0, 128, 4, 0, 2, 0, 15] ++
              [0, 5, 0, 1, 9, 0, 5, 0, 1, 8] ++ [128, 0, 0, 0])] },
            { chunks := [.fault { kind := .transport, message := "boom" }] }]
        exporter := fun _ x => List.replicate x.length 7 }
    let w₁ := (takeSession w).2
    let raised := [] ++ (takeSession w).1.faults ++ (takeSession w₁).1.faults
    let firsts := [] ++ w.firstFaults ++ w₁.firstFaults
    let refills := [] ++ w.refillFaults ++ w₁.refillFaults
    TakeHistory w (takeSession w₁).2 raised firsts refills ∧
      raised.map (fun f => (f.kind, f.message)) = [(.transport, "boom")] ∧
      ¬ ∀ f ∈ raised, f.kind.isA .keyExchange = true := by
  intro c w w₁ raised firsts refills
  have hcomputed : raised.map (fun f => (f.kind, f.message)) = [(.transport, "boom")] ∧
      refills.map (·.kind) = [.transport] := by
    decide +kernel +revert
  obtain ⟨hraised, hrefills⟩ := hcomputed
  have hhistory : TakeHistory w (takeSession w₁).2 raised firsts refills := .take (.take .start)
  refine ⟨hhistory, hraised, fun hall => ?_⟩
  have hkinds := ((raised_keyExchange_iff (c := c) rfl hhistory).1.mp hall).2
  obtain ⟨f, hf, hkind⟩ := List.mem_map.mp (hrefills ▸ List.mem_singleton_self FaultKind.transport)
  have hkey := hkinds f hf
  rw [hkind] at hkey
  cases hkey

end TimeProbe

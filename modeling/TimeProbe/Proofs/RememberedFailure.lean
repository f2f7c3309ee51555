import TimeProbe.Proofs.SessionLedger

/-!
# A failure that is remembered is final

A jar whose first key establishment failed reports that failure to every session asked for, and
does nothing else. A refill that fails leaves the jar as it was, so the next session asked for
tries again; and no session that is taken moves the time server of a jar that was filled.
-/

namespace TimeProbe

/-- The fault of a step, if it ended with one. -/
def Ending.faults {α : Type} : Ending α → List Fault
  | .done _ => []
  | .failed f => [f]
  | .cutOff => []

namespace JarCall

/-- Whether a call makes a key establishment in advance: one is asked for, or a session is asked
for from a jar that was never filled and remembers no failure. -/
def fillsFirst (s : SessionSource) : JarCall → Bool
  | bootstrap => true
  | take => s.error.isNone && s.keys.isNone

/-- The failure that a call makes the jar remember: that of its key establishment in advance. -/
def failures (call : JarCall) (w : World) : List Fault :=
  match w.source with
  | some s =>
    if call.fillsFirst s then
      (Run.establishTarget s.config w).1.faults.filterMap SessionSource.remembered?
    else []
  | none => []

end JarCall

/-- A history of calls on the jar, with the failures remembered on the way, oldest first. Anything
may happen between two calls that leaves the jar alone. -/
inductive FailureHistory (w : World) : World → List Fault → Prop
  | start : FailureHistory w w []
  | elsewhere {w₁ w₂ : World} {failures : List Fault} (before : FailureHistory w w₁ failures)
      (source : w₂.source = w₁.source) : FailureHistory w w₂ failures
  | call {w₁ : World} {failures : List Fault} (before : FailureHistory w w₁ failures)
      (call : JarCall) : FailureHistory w (call.run w₁).2 (failures ++ call.failures w₁)

namespace SessionSource

/-- A fault is let out exactly if it is neither the prober's own nor one of the system. -/
theorem remembered?_eq_none_iff {f : Fault} :
    remembered? f = none ↔ f.kind.isA .own = false ∧ f.kind.isA .os = false := by
  rw [remembered?]
  split
  next hown => simp [hown]
  split
  next hos => simp [hos]
  next hown hos => simp [hown, hos]

/-- What a jar becomes that was filled: the configuration and what is remembered stay, and so does
the time server, for which there are keys. -/
structure Stays (s s' : SessionSource) : Prop where
  config : s'.config = s.config
  error : s'.error = s.error
  keys : s'.keys.isSome = true
  address : s'.address = s.address

end SessionSource

namespace Run

variable {w : World} {s : SessionSource} {keys : KeyPair} {address : Address}

/-- Taking a session from a jar in use. One key establishment is made if the jar is low, none
otherwise. The session is for the time server of the jar, which stays; and if there is no session,
the jar is what it was. -/
theorem exists_takeInstalled (hs : w.source = some s) (hkeys : s.keys = some keys)
    (haddress : s.address = some address) (other : KeyPair) :
    ∃ ending v s', takeInstalled other w = (ending, v.withSource (some s')) ∧
      v = (if s.isLow w.settings.ntsSessionCookies then (establishTarget s.config w).2 else w) ∧
      s.Stays s' ∧ (∀ out ∈ ending.results, out.address = address) ∧
      (ending.results = [] → s' = s) := by
  have hstays : s.Stays s := ⟨rfl, rfl, hkeys ▸ rfl, rfl⟩
  cases hlow : s.isLow w.settings.ntsSessionCookies with
  | false =>
    rw [takeInstalled_of_full hs hkeys haddress hlow, if_neg Bool.false_ne_true]
    refine ⟨_, w, _, rfl, rfl, ⟨rfl, rfl, hkeys ▸ rfl, rfl⟩, ?_, nofun⟩
    intro out hout
    rw [List.mem_singleton.mp hout]
    rfl
  | true =>
    rw [takeInstalled_of_low hs hlow, if_pos rfl]
    have hsource := source_establishTarget s.config w
    rcases hestablish : establishTarget s.config w with ⟨ending, w₁⟩
    rw [hestablish] at hsource
    have hsame : w₁.withSource (some s) = w₁ := by
      rw [← hs, ← hsource]
      rfl
    cases ending with
    | done m =>
      dsimp only
      split
      next hserver =>
        rw [haddress] at hserver
        refine ⟨_, w₁, _, rfl, rfl, ⟨rfl, rfl, rfl, hserver.trans haddress.symm⟩, ?_, nofun⟩
        intro out hout
        rw [List.mem_singleton.mp hout]
        exact Option.some.inj hserver
      · exact ⟨_, w₁, s, by rw [hsame], rfl, hstays, List.forall_mem_nil _, fun _ => rfl⟩
    | failed f => exact ⟨_, w₁, s, by rw [hsame], rfl, hstays, List.forall_mem_nil _, fun _ => rfl⟩
    | cutOff => exact ⟨_, w₁, s, by rw [hsame], rfl, hstays, List.forall_mem_nil _, fun _ => rfl⟩

/-- A refill that fails leaves the jar as it was. -/
theorem source_refill (hs : w.source = some s) (hfailed : (refill w).1 ≠ .done ()) :
    (refill w).2.source = some s := by
  rw [refill_eq hs] at hfailed ⊢
  have hsource := source_establishTarget s.config w
  rcases hestablish : establishTarget s.config w with ⟨ending, w₁⟩
  rw [hestablish] at hsource hfailed
  cases ending with
  | done m =>
    dsimp only at hfailed ⊢
    split at hfailed
    · exact absurd rfl hfailed
    next hmoved =>
      rw [if_neg hmoved]
      exact hsource.trans hs
  | failed f => exact hsource.trans hs
  | cutOff => exact hsource.trans hs

end Run

namespace JarCall

open Run

variable {w : World} {s : SessionSource}

/-- A call that makes a key establishment in advance makes its failure the remembered one. -/
theorem failures_of_fillsFirst {call : JarCall} (hs : w.source = some s)
    (hfirst : call.fillsFirst s = true) : call.failures w =
      (establishTarget s.config w).1.faults.filterMap SessionSource.remembered? := by
  simp only [failures, hs, hfirst, if_true]

/-- A call that makes no key establishment in advance makes the jar remember nothing. -/
theorem failures_of_not_fillsFirst {call : JarCall} (hs : w.source = some s)
    (hfirst : call.fillsFirst s = false) : call.failures w = [] := by
  simp only [failures, hs, hfirst, Bool.false_eq_true, if_false]

/-- What a call leaves of a jar: its keys and its time server are there together, or not at all,
and it remembers the failure of the latest key establishment in advance that failed. -/
theorem exists_source (call : JarCall) (hs : w.source = some s)
    (hpaired : s.keys.isSome = s.address.isSome) :
    ∃ s', (call.run w).2.source = some s' ∧ s'.config = s.config ∧
      s'.keys.isSome = s'.address.isSome ∧
      s'.error = (s.error.toList ++ call.failures w).getLast? := by
  have hsource := source_establishTarget s.config w
  have hkept : (s.error.toList ++ []).getLast? = s.error := by
    cases s.error <;> rfl
  cases call with
  | bootstrap =>
    rw [failures_of_fillsFirst hs rfl]
    simp only [run]
    rw [bootstrap_eq hs]
    rcases hestablish : establishTarget s.config w with ⟨ending, w₁⟩
    rw [hestablish] at hsource
    cases ending with
    | done m => exact ⟨_, rfl, rfl, rfl, hkept.symm⟩
    | failed f =>
      dsimp only
      cases hremembered : SessionSource.remembered? f with
      | some cause => exact ⟨_, rfl, rfl, hpaired, by simp [Ending.faults, hremembered]⟩
      | none =>
        refine ⟨s, hsource.trans hs, rfl, hpaired, ?_⟩
        simpa [Ending.faults, hremembered] using hkept.symm
    | cutOff => exact ⟨s, hsource.trans hs, rfl, hpaired, hkept.symm⟩
  | take =>
    simp only [run]
    cases herror : s.error with
    | some cause =>
      rw [failures_of_not_fillsFirst hs (by simp [fillsFirst, herror]),
        takeSession_of_error hs herror]
      exact ⟨s, hs, rfl, hpaired, herror⟩
    | none =>
      cases hkeys : s.keys with
      | some keys =>
        have hfilled : s.address.isSome = true := by rw [← hpaired, hkeys]; rfl
        obtain ⟨address, haddress⟩ := Option.isSome_iff_exists.mp hfilled
        obtain ⟨ending, v, s', htake, -, hstays, -⟩ :=
          exists_takeInstalled hs hkeys haddress keys
        rw [failures_of_not_fillsFirst hs (by simp [fillsFirst, herror, hkeys]),
          takeSession_of_keys hs herror hkeys, htake]
        refine ⟨s', rfl, hstays.config, ?_, hstays.error.trans herror⟩
        rw [hstays.keys, hstays.address, haddress]
        rfl
      | none =>
        rw [failures_of_fillsFirst hs (by simp [fillsFirst, herror, hkeys]),
          takeSession_of_empty hs herror hkeys]
        rcases hestablish : establishTarget s.config w with ⟨ending, w₁⟩
        rw [hestablish] at hsource
        cases ending with
        | done m =>
          have hfilled : (w₁.withSource (some (s.install m))).source = some (s.install m) := rfl
          have haddress : (s.install m).address = some m.address := rfl
          obtain ⟨ending, v, s', htake, -, hstays, -⟩ :=
            exists_takeInstalled hfilled rfl haddress m.keys
          dsimp only
          rw [htake]
          refine ⟨s', rfl, hstays.config, ?_, hstays.error.trans herror⟩
          rw [hstays.keys, hstays.address]
          rfl
        | failed f =>
          dsimp only
          cases hremembered : SessionSource.remembered? f with
          | some cause => exact ⟨_, rfl, rfl, hpaired, by simp [Ending.faults, hremembered]⟩
          | none =>
            refine ⟨s, hsource.trans hs, rfl, hpaired, ?_⟩
            simpa [Ending.faults, hremembered] using herror
        | cutOff => exact ⟨s, hsource.trans hs, rfl, hpaired, herror⟩

end JarCall

/-- Along a history the jar remembers the failure that came last, and has keys and a time server
together, or neither. -/
theorem FailureHistory.exists_source {c : RunConfig} {w w' : World} {failures : List Fault}
    (hsource : w.source = some { config := c }) (hhistory : FailureHistory w w' failures) :
    ∃ s, w'.source = some s ∧ s.config = c ∧ s.keys.isSome = s.address.isSome ∧
      s.error = failures.getLast? := by
  induction hhistory with
  | start => exact ⟨_, hsource, rfl, rfl, rfl⟩
  | elsewhere before source ih => rwa [source]
  | @call w₁ failures before call ih =>
    obtain ⟨s, hs, rfl, hpaired, herror⟩ := ih
    obtain ⟨s', hs', hconfig, hpaired', herror'⟩ := call.exists_source hs hpaired
    refine ⟨s', hs', hconfig, hpaired', ?_⟩
    rw [herror', herror, List.getLast?_append, List.getLast?_append]
    cases (call.failures w₁).getLast? with
    | some cause => rfl
    | none => cases failures.getLast? <;> rfl

open Run

/-- **A failure that is remembered is final, a refill that fails does no harm, and the time server
stays.** Over any history of calls on a jar that was empty at first, and whatever becomes of the
key establishments, the jar remembers the latest failure of a key establishment in advance. Once
there is one, a session asked for is refused with its message and its details, and nothing else
happens at all. A refill that fails leaves the jar as it was; in particular, from a low jar that
remembers no failure a session asked for comes with one key establishment, and where it comes to
nothing the jar stays, so the next one asked for tries again. A refill that names another time
server is refused. No session asked for moves the time server of a jar that was filled. -/
theorem failures_final_refills_harmless {c : RunConfig} {w w' : World} {failures : List Fault}
    (hsource : w.source = some { config := c }) (hhistory : FailureHistory w w' failures) :
    ∃ s, w'.source = some s ∧ s.config = c ∧ s.error = failures.getLast? ∧
      (∀ cause, failures.getLast? = some cause → takeSession w' = (.failed
        { kind := .keyExchange
          message := "NTS-KE with " ++ c.target ++ s!":{c.kePort} failed: " ++ cause.message
          details := cause.details }, w')) ∧
      ((refill w').1 ≠ .done () → (refill w').2.source = some s) ∧
      (failures = [] → s.keys.isSome = true →
        s.isLow w'.settings.ntsSessionCookies = true →
        (∀ v, v.source = some s →
          v.settings.ntsSessionCookies = w'.settings.ntsSessionCookies →
          (takeSession v).2.streams.length = v.streams.length + 1) ∧
        ((takeSession w').1.results = [] → (takeSession w').2.source = some s) ∧
        ∀ m w₁, establishTarget c w' = (.done m, w₁) → some m.address ≠ s.address →
          takeSession w' = (.failed (s.moved m.address), w₁) ∧ w₁.source = some s) ∧
      (s.keys.isSome = true →
        ∃ s', (takeSession w').2.source = some s' ∧ s'.address = s.address) := by
  obtain ⟨s, hs, rfl, hpaired, herror⟩ := hhistory.exists_source hsource
  have hrefused : ∀ cause, s.error = some cause →
      takeSession w' = (.failed (s.refusal cause), w') := fun cause => takeSession_of_error hs
  refine ⟨s, hs, rfl, herror, fun cause hlast => hrefused cause (herror.trans hlast),
    source_refill hs, ?_, ?_⟩
  · intro hnone hfilled hlow
    obtain ⟨keys, hkeys⟩ := Option.isSome_iff_exists.mp hfilled
    obtain ⟨address, haddress⟩ := Option.isSome_iff_exists.mp (hpaired ▸ hfilled)
    have hfree : s.error = none := by rw [herror, hnone]; rfl
    have htake (v : World) (hv : v.source = some s) : takeSession v = takeInstalled keys v :=
      takeSession_of_keys hv hfree hkeys
    refine ⟨fun v hv hsettings => ?_, fun hresults => ?_, fun m w₁ hestablish hmoved => ?_⟩
    · obtain ⟨ending, v', s', heq, hmade, -⟩ := exists_takeInstalled hv hkeys haddress keys
      rw [hsettings, if_pos hlow] at hmade
      rw [htake v hv, heq]
      exact hmade ▸ length_streams_establishTarget s.config v
    · obtain ⟨ending, v', s', heq, -, -, -, hfailed⟩ :=
        exists_takeInstalled hs hkeys haddress keys
      rw [htake w' hs, heq] at hresults ⊢
      rw [hfailed hresults]
      rfl
    · have hkept := source_establishTarget s.config w'
      rw [hestablish] at hkept
      rw [htake w' hs, takeInstalled_of_low hs hlow, hestablish]
      dsimp only
      rw [if_neg hmoved]
      exact ⟨rfl, hkept.trans hs⟩
  · intro hfilled
    obtain ⟨keys, hkeys⟩ := Option.isSome_iff_exists.mp hfilled
    obtain ⟨address, haddress⟩ := Option.isSome_iff_exists.mp (hpaired ▸ hfilled)
    cases hremembered : s.error with
    | some cause =>
      rw [hrefused cause hremembered]
      exact ⟨s, hs, rfl⟩
    | none =>
      obtain ⟨ending, v', s', heq, -, hstays, -⟩ := exists_takeInstalled hs hkeys haddress keys
      rw [takeSession_of_keys hs hremembered hkeys, heq]
      exact ⟨s', rfl, hstays.address⟩

/-- A server that refuses the first stream and answers on the second one: the first failure stays,
although the jar is filled, and the session asked for is refused. -/
theorem failures_final_refills_harmless_refused :
    let c : RunConfig := { (default : RunConfig) with target := "192.0.2.1", kePort := 4460 }
    let w : World :=
      { source := some { config := c }
        keScripts := [{ openFault := some { kind := .connectionRefused, message := "refused" } },
          { chunks := [.octets ([128, 1, 0, 2, 0, 0, 128, 4, 0, 2, 0, 15] ++
              [0, 5, 0, 1, 9] ++ [128, 0, 0, 0])] }]
        exporter := fun _ x => List.replicate x.length 7 }
    let w₁ := (JarCall.bootstrap.run w).2
    let w₂ := (JarCall.bootstrap.run w₁).2
    let failures := [] ++ JarCall.bootstrap.failures w ++ JarCall.bootstrap.failures w₁
    FailureHistory w w₂ failures ∧
    failures.map (fun f => (f.kind, f.message)) = [(.keyExchange, "refused")] ∧
    (∃ s cause, w₂.source = some s ∧ s.keys.isSome = true ∧ s.error = some cause ∧
      takeSession w₂ = (.failed
        { kind := .keyExchange
          message := "NTS-KE with " ++ "192.0.2.1" ++ s!":{(4460 : Int)} failed: " ++ cause.message
          details := cause.details }, w₂)) := by
  intro c w w₁ w₂ failures
  have hfailures : failures.map (fun f => (f.kind, f.message)) = [(.keyExchange, "refused")] ∧
      (w₂.source.bind (·.keys)).isSome = true ∧ failures.getLast?.isSome = true := by
    decide +kernel +revert
  obtain ⟨hmessages, hfilled, hlast⟩ := hfailures
  have hhistory : FailureHistory w w₂ failures := .call (.call .start .bootstrap) .bootstrap
  obtain ⟨s, hs, -, herror, hrefused, -⟩ := failures_final_refills_harmless (c := c) rfl hhistory
  obtain ⟨cause, hcause⟩ := Option.isSome_iff_exists.mp hlast
  rw [hs] at hfilled
  exact ⟨hhistory, hmessages, s, cause, hs, hfilled, herror.trans hcause, hrefused cause hcause⟩

end TimeProbe

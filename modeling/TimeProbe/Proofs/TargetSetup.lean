import TimeProbe.Proofs.CaseOutcomes
import TimeProbe.Proofs.CaseRuns
import TimeProbe.Proofs.ConnectionSteps
import TimeProbe.Proofs.RefusedCases
import TimeProbe.Proofs.RememberedFailure
import TimeProbe.Proofs.ScriptFaults

/-!
# What becomes of a run whose target cannot be set up

A run needs a name that resolves. Everything else that may go wrong before its cases is to be left
to them: a key establishment that fails is remembered, the run goes on, and its protected cases are
errors that tell the cause. That holds as long as the fault of a lookup is one that lookups are
known to raise, and no fault of the TLS engine comes through a stream as it is.
-/

namespace TimeProbe

/-- A fault that a key establishment stream may raise: one of the prober's own, one of the system,
or one of the TLS engine. -/
def Fault.OfStream (f : Fault) : Prop :=
  f.kind.isA .own = true ∨ f.kind.isA .os = true ∨ f.kind.isA .tls = true

/-- A fault that looking up a name may raise: one of the system, or that of a name that cannot be
encoded. -/
def Fault.OfLookup (f : Fault) : Prop := f.kind.isA .os = true ∨ f.kind.isA .unicode = true

namespace FaultKind

/-- A fault of the TLS engine is neither one of the prober's own nor one of the system. -/
theorem not_own_of_tls {kind : FaultKind} (h : kind.isA .tls = true) :
    kind.isA .own = false ∧ kind.isA .os = false := by
  cases kind <;> first | exact ⟨rfl, rfl⟩ | cases h

/-- No lookup raises the fault of a name that does not resolve. -/
theorem ne_targetResolution_of_lookup {kind : FaultKind}
    (h : kind.isA .os = true ∨ kind.isA .unicode = true) : kind ≠ .targetResolution := by
  rintro rfl
  rcases h with h | h <;> cases h

end FaultKind

/-- A failure of the first key establishment is remembered with its message if it is one of the
prober's own or one of the system. -/
theorem SessionSource.exists_remembered {f : Fault}
    (hf : f.kind.isA .own = true ∨ f.kind.isA .os = true) :
    ∃ cause, remembered? f = some cause ∧ cause.message = f.message := by
  rw [remembered?]
  split
  next => exact ⟨f, rfl, rfl⟩
  next hown => exact ⟨_, if_pos (hf.resolve_left hown), rfl⟩

/-- The end of a case that an outcome can tell: the case came to an end, and not with the user's
interrupt or with a verdict that gives no text. -/
def Ending.Tells {α : Type} (ending : Ending α) : Prop :=
  ending.isCutOff = false ∧ ∀ f, ending = .failed f → f.Raisable

/-- The outcome of a protected case where the first key establishment failed with a message. -/
def Outcome.unestablished (c : RunConfig) (message : String) : Outcome :=
  .errored ("NtsKeError: NTS-KE with " ++ c.target ++ s!":{c.kePort} failed: " ++ message)

/-- A world without a limit, in which streams raise no other than allowed faults, and the exporter
gives as many octets as it is asked for. -/
structure World.StreamsRaiseOnly (allowed : Fault → Prop) (w : World) : Prop extends
    w.StreamsAllow allowed where
  unlimited : w.limit = none
  exporter : ∀ i x, (w.exporter i x).length = x.length

/-- Cases that leave the jar alone unless they are protected ones; the body of a protected case may
be any. -/
inductive TestCase.SparesJar (c : RunConfig) : TestCase → Prop
  | guarded (name summary : String) (body : Nat → Run Unit) :
      SparesJar c (.guarded name summary body)
  | other {case : TestCase} (hcase : case.requirement ≠ .nts)
      (hleaves : Run.Leaves (·.source) (case.run c)) : SparesJar c case

namespace Run

/-- Where streams raise no other than allowed faults, and the prober's own are allowed, a key
establishment comes to an end and raises no others either. -/
theorem raisesOnly_establishTarget {allowed : Fault → Prop} (hown : ∀ f : Fault, f.Own → allowed f)
    (c : RunConfig) {w : World} (hw : w.StreamsRaiseOnly allowed) :
    (establishTarget c w).1.isCutOff = false ∧ (establishTarget c w).1.RaisesOnly allowed := by
  have hbuilt : Built OnTarget (establishTarget c) := built_establishTarget (fun _ _ => trivial) c
  have hheeds : Heeds False (establishTarget c) := hbuilt.heeds fun _ _ h => h.heeds
  refine ⟨(hheeds.unlimited (List.head?_eq_none_iff.mp hw.unlimited)).2, ?_⟩
  have hkeyed (w : World) (i : Nat) (aead : Aead.Algorithm) (direction : Nat)
      (e : Aead.Cipher.KeyError) (hexporter : ∀ i x, (w.exporter i x).length = x.length)
      (h : Aead.Cipher.make aead (w.exporter i (directionExport aead direction)) = .error e) :
      allowed (Fault.ofKeyError e) := by
    have hlength : (w.exporter i (directionExport aead direction)).length = aead.keyLength :=
      hexporter i _
    rw [Aead.Cipher.make, dif_pos hlength] at h
    cases h
  have law : StreamingLaw allowed fun w => w.StreamsAllow allowed ∧
      ∀ i x, (w.exporter i x).length = x.length :=
    streamingLaw_of_streamsAllow (fun _ _ _ _ _ _ _ hw => ⟨{ hw.1 with }, hw.2⟩) hown
      (fun w i aead direction e hw => hkeyed w i aead direction e hw.2) (fun _ hw => hw.1)
      fun _ _ _ hw hallow => ⟨hallow, hw.2⟩
  have hkeeps := (built_establishTarget hown c).keeps law.timeless fun _ _ h =>
    h.keeps law fun _ _ hw => ⟨{ hw.1 with }, hw.2⟩
  exact (hkeeps w ⟨hw.toStreamsAllow, hw.exporter⟩).2

variable {c : RunConfig} {limit : Binary64} {shown : Entry → List String} {s : SessionSource}
  {cause : Fault} {w : World}

/-- A protected case is refused its session if a failure is remembered. -/
theorem refuses_of_error (hon : c.ntsEnabled = true) (hs : w.source = some s)
    (herror : s.error = some cause) (name summary : String) (body : Nat → Run Unit) :
    Refuses ((TestCase.guarded name summary body).run c) (s.refusal cause) w := by
  intro limits
  refine bind_failed ?_ _
  rw [connectProtected_of_on hon]
  exact bind_failed (takeSession_of_error (w := { w with limits }) hs herror) _

/-- A case after a failed key establishment comes to an outcome and leaves the failure remembered.
The outcome of a protected case tells the failure. -/
theorem exists_runCase_of_error {case : TestCase} (hon : c.ntsEnabled = true)
    (hconfig : s.config = c) (herror : s.error = some cause) (hcase : case.SparesJar c)
    (hs : w.source = some s)
    (hother : case.requirement ≠ .nts → (within limit (case.run c) w).1.Tells) :
    ∃ outcome w₁, runCase c limit case w = (.done outcome, w₁) ∧ w₁.source = some s ∧
      (case.requirement = .nts →
        outcome = (Outcome.unestablished c cause.message).startedOr limit) := by
  cases hcase with
  | guarded name summary body =>
    have houtcome : Outcome.ofFault limit (s.refusal cause) =
        .ok (.unestablished c cause.message) := by
      rw [← hconfig]
      rfl
    have hrefused := (refuses_of_error hon hs herror name summary body).runCase houtcome
    refine ⟨_, _, hrefused, ?_, fun _ => rfl⟩
    split <;> exact hs
  | other hnot hleaves =>
    obtain ⟨hended, hraisable⟩ := hother hnot
    obtain ⟨ending, outcome, w₁, hends, -, hrun⟩ := exists_judges_runCase limit hraisable hended
    have hleft := hleaves.within (untimed_of_eq fun _ _ _ _ _ _ _ => rfl) limit w
    rw [hends] at hleft
    exact ⟨outcome, w₁, hrun, hleft.trans hs, fun h => absurd h hnot⟩

/-- A run after a failed key establishment comes to a report on all cases, in which the protected
ones tell the failure. -/
theorem exists_runCases_of_error {cases : List TestCase} (hon : c.ntsEnabled = true)
    (hconfig : s.config = c) (herror : s.error = some cause)
    (hcases : ∀ case ∈ cases, case.SparesJar c) (hs : w.source = some s)
    (hothers : ∀ case v,
      CaseStarts c limit (fun entry => printAll (shown entry)) w cases case v →
      case.requirement ≠ .nts → (within limit (case.run c) v).1.Tells)
    (earlier : List Entry) :
    ∃ entries w',
      runCases c limit (fun entry => printAll (shown entry)) cases ⟨earlier, false⟩ w =
        (.done ⟨earlier ++ entries, true⟩, w') ∧
      entries.map (·.name) = cases.map (·.name) ∧
      ∀ p ∈ cases.zip entries, p.1.requirement = .nts →
        p.2.outcome = (Outcome.unestablished c cause.message).startedOr limit := by
  induction cases generalizing w earlier with
  | nil =>
    refine ⟨[], w, ?_, rfl, nofun⟩
    rw [List.append_nil]
    rfl
  | cons case cases ih =>
    obtain ⟨outcome, w₁, hrun, hs₁, houtcome⟩ :=
      exists_runCase_of_error hon hconfig herror (hcases case List.mem_cons_self) hs
        (hothers case w (.first w case cases))
    -- The failure is still remembered when the next case starts, so the argument repeats.
    have hshown := printAll_eq (shown ⟨case.name, outcome⟩) w₁
    obtain ⟨entries, w', hrest, hnames, houtcomes⟩ :=
      ih (w := w₁.printing (shown ⟨case.name, outcome⟩))
        (fun k hk => hcases k (List.mem_cons_of_mem _ hk)) hs₁
        (fun k v hstarts => hothers k v (.later hrun hshown hstarts))
        (earlier ++ [⟨case.name, outcome⟩])
    refine ⟨⟨case.name, outcome⟩ :: entries, w', ?_, congrArg (case.name :: ·) hnames, ?_⟩
    · rw [runCases_cons_done hrun, hrest, List.append_assoc]
      rfl
    · intro p hp hneeds
      rcases List.mem_cons.mp hp with rfl | hp
      · exact houtcome hneeds
      · exact houtcomes p hp hneeds

end Run

namespace World

open Run

/-- Whether a name resolves: there are addresses, and at least one. -/
def Resolves (w : World) : Prop := ∃ first others, w.resolver = .ok (first :: others)

/-- The world in which the target was looked up. -/
def lookedUp (c : RunConfig) (w : World) : World :=
  { w with lookups := w.lookups ++ [⟨c.target, c.port⟩] }

/-- A failure of the first key establishment that is left to the cases. It is remembered with its
message. And every registry comes to a report on all of its cases, in which the protected ones are
errors that tell the failure, unless another case ends in its world with the user's interrupt or
with a verdict that gives no text, or does not come to an end there. -/
structure LeavesToCases (c : RunConfig) (f : Fault) (w : World) : Prop where
  remembered : ∃ s cause, w.source = some s ∧ s.config = c ∧ s.error = some cause ∧
    cause.message = f.message
  reported : ∀ (choice : Option Binary64) (registry : Registry) (shown : Entry → List String),
    (∀ case ∈ registry.cases, case.SparesJar c) →
    (∀ case v, CaseStarts c (caseTimeout c choice) (fun entry => printAll (shown entry)) w
        registry.cases case v → case.requirement ≠ .nts →
      (within (caseTimeout c choice) (case.run c) v).1.Tells) →
    ∃ entries w', runRegistry c choice registry (fun entry => printAll (shown entry)) w =
        (.done ⟨entries, true⟩, w') ∧
      entries.map (·.name) = registry.names ∧
      ∀ p ∈ registry.cases.zip entries, p.1.requirement = .nts →
        p.2.outcome = (Outcome.unestablished c f.message).startedOr (caseTimeout c choice)

/-- A target that is set up as it should be. Preparing it ends well if its name resolves, and else
with the fault of a name that does not resolve; and if the first key establishment fails, that is
left to the cases. -/
structure SetsUp (c : RunConfig) (w : World) : Prop where
  prepared : w.Resolves → ∃ w₁, prepareTarget c w = (.done (), w₁)
  unresolved : ¬ w.Resolves → ∃ f w₁, prepareTarget c w = (.failed f, w₁) ∧
    f.kind = .targetResolution
  left : w.Resolves → c.ntsEnabled = true →
    ∀ f v, establishTarget c (w.lookedUp c) = (.failed f, v) →
      ∃ w₁, prepareTarget c w = (.done (), w₁) ∧ w₁.LeavesToCases c f

end World

namespace Run

variable {c : RunConfig} {w : World}

/-- A failure that the jar remembers is left to the cases. -/
theorem leavesToCases_of_error {s : SessionSource} {f cause : Fault} (hon : c.ntsEnabled = true)
    (hs : w.source = some s) (hconfig : s.config = c) (herror : s.error = some cause)
    (hmessage : cause.message = f.message) : w.LeavesToCases c f := by
  refine ⟨⟨s, cause, hs, hconfig, herror, hmessage⟩, fun choice registry shown hcases hothers => ?_⟩
  rw [← hmessage]
  exact exists_runCases_of_error hon hconfig herror hcases hs hothers []

/-- A lookup that fails ends the preparation. -/
theorem prepareTarget_of_error {cause : Fault} (hresolver : w.resolver = .error cause) :
    prepareTarget c w = (.failed (lookupFault c.target cause), w.lookedUp c) := by
  refine bind_failed ((resolve_eq ⟨c.target, c.port⟩ w).trans (Prod.ext ?_ rfl)) _
  dsimp only
  rw [hresolver]

/-- A lookup without addresses ends the preparation. -/
theorem prepareTarget_of_nil (hresolver : w.resolver = .ok []) :
    prepareTarget c w = (.failed (noAddress c.target), w.lookedUp c) := by
  refine bind_failed ((resolve_eq ⟨c.target, c.port⟩ w).trans (Prod.ext ?_ rfl)) _
  dsimp only
  rw [hresolver]

/-- A lookup with addresses gives them. -/
theorem exists_resolve_done (hresolves : w.Resolves) :
    ∃ found, resolve ⟨c.target, c.port⟩ w = (.done found, w.lookedUp c) := by
  obtain ⟨first, others, hresolver⟩ := hresolves
  refine ⟨first :: others, (resolve_eq _ w).trans (Prod.ext ?_ rfl)⟩
  dsimp only
  rw [hresolver]

/-- A name that resolves is all that a run without time security needs. -/
theorem prepareTarget_of_resolves_off (hresolves : w.Resolves) (hoff : c.ntsEnabled = false) :
    prepareTarget c w = (.done (), w.lookedUp c) := by
  obtain ⟨found, hresolve⟩ := exists_resolve_done (c := c) hresolves
  rw [prepareTarget, bind_done hresolve, hoff]
  rfl

/-- With time security the first key establishment follows a lookup with addresses. -/
theorem prepareTarget_of_resolves_on (hresolves : w.Resolves) (hon : c.ntsEnabled = true) :
    prepareTarget c w = match establishTarget c (w.lookedUp c) with
      | (.done m, w₁) =>
        (.done (), w₁.withSource (some (({ config := c } : SessionSource).install m)))
      | (.failed f, w₁) =>
        match SessionSource.remembered? f with
        | some cause => (.done (), w₁.withSource (some { config := c, error := some cause }))
        | none => (.failed f, w₁.withSource (some { config := c }))
      | (.cutOff, w₁) => (.cutOff, w₁.withSource (some { config := c })) := by
  obtain ⟨found, hresolve⟩ := exists_resolve_done (c := c) hresolves
  have hprepare : prepareTarget c w =
      bootstrap ((w.lookedUp c).withSource (some { config := c })) := by
    rw [prepareTarget, bind_done hresolve, hon]
    rfl
  rw [hprepare, bootstrap_eq rfl, establishTarget_withSource]
  rcases establishTarget c (w.lookedUp c) with ⟨ending, w₁⟩
  cases ending with
  | done m => rfl
  | failed f =>
    dsimp only
    cases SessionSource.remembered? f <;> rfl
  | cutOff => rfl

/-- Where a target is set up as it should be, no lookup raises a fault that lookups are not known to
raise. -/
theorem lookup_of_setsUp (hsetup : w.SetsUp c) {cause : Fault}
    (hcause : w.resolver = .error cause) (hlookup : cause.OfLookup) :
    cause.kind.isA .addressLookup = true ∨ cause.kind.isA .unicode = true := by
  have hunresolved : ¬ w.Resolves := by
    rintro ⟨first, others, hfound⟩
    rw [hcause] at hfound
    cases hfound
  obtain ⟨f, w₁, hprepare, hkind⟩ := hsetup.unresolved hunresolved
  rw [prepareTarget_of_error hcause] at hprepare
  obtain rfl : lookupFault c.target cause = f := by
    cases hprepare
    rfl
  refine Decidable.byContradiction fun hother => ?_
  rw [lookupFault, if_neg (by simpa using hother)] at hkind
  exact FaultKind.ne_targetResolution_of_lookup hlookup hkind

/-- Where a target is set up as it should be, the first key establishment does not end with a fault
of the TLS engine. -/
theorem not_tls_of_setsUp (hsetup : w.SetsUp c) (hon : c.ntsEnabled = true)
    (hresolves : w.Resolves) {f : Fault} {v : World}
    (hfailed : establishTarget c (w.lookedUp c) = (.failed f, v)) : f.kind.isA .tls = false := by
  refine Decidable.byContradiction fun htls => ?_
  -- The jar does not remember such a fault, so the preparation ends with it instead.
  obtain ⟨hown, hos⟩ := FaultKind.not_own_of_tls (Bool.of_not_eq_false htls)
  obtain ⟨w₁, hprepare⟩ := hsetup.prepared hresolves
  rw [prepareTarget_of_resolves_on hresolves hon, hfailed] at hprepare
  dsimp only at hprepare
  rw [SessionSource.remembered?_eq_none_iff.mpr ⟨hown, hos⟩] at hprepare
  cases hprepare

/-- A target is set up as it should be if no lookup raises a fault that lookups are not known to
raise, and the first key establishment gives keys or raises a fault of the prober's own or of the
system. -/
theorem setsUp_of_establishTarget
    (hknown : ∀ cause, w.resolver = .error cause →
      cause.kind.isA .addressLookup = true ∨ cause.kind.isA .unicode = true)
    (hestablish : c.ntsEnabled = true → w.Resolves →
      (establishTarget c (w.lookedUp c)).1.isCutOff = false ∧
      (establishTarget c (w.lookedUp c)).1.RaisesOnly
        fun f => f.kind.isA .own = true ∨ f.kind.isA .os = true) : w.SetsUp c := by
  refine ⟨fun hresolves => ?_, fun hunresolved => ?_, fun hresolves hon f v hfailed => ?_⟩
  · cases hon : c.ntsEnabled with
    | false => exact ⟨_, prepareTarget_of_resolves_off hresolves hon⟩
    | true =>
      obtain ⟨hended, hending⟩ := hestablish hon hresolves
      rw [prepareTarget_of_resolves_on hresolves hon]
      rcases hrun : establishTarget c (w.lookedUp c) with ⟨ending, v⟩
      rw [hrun] at hended hending
      cases ending with
      | done m => exact ⟨_, rfl⟩
      | failed f =>
        obtain ⟨cause, hcause, -⟩ := SessionSource.exists_remembered hending
        dsimp only
        rw [hcause]
        exact ⟨_, rfl⟩
      | cutOff => cases hended
  · cases hresolver : w.resolver with
    | error cause =>
      refine ⟨_, _, prepareTarget_of_error hresolver, ?_⟩
      rw [lookupFault, if_pos (by simpa using hknown cause hresolver)]
    | ok found =>
      cases found with
      | nil => exact ⟨_, _, prepareTarget_of_nil hresolver, rfl⟩
      | cons first others => exact absurd ⟨first, others, hresolver⟩ hunresolved
  · obtain ⟨-, hending⟩ := hestablish hon hresolves
    rw [hfailed] at hending
    obtain ⟨cause, hcause, hmessage⟩ := SessionSource.exists_remembered hending
    rw [prepareTarget_of_resolves_on hresolves hon, hfailed]
    dsimp only
    rw [hcause]
    exact ⟨_, rfl, leavesToCases_of_error hon rfl rfl rfl hmessage⟩

/-- **When a target is set up as it should be.** The streams of a world without a limit raise faults
of the prober's own, of the system or of the TLS engine, and looking up the name raises faults of
the system or that of a name that cannot be encoded. Then a target is set up as it should be exactly
if looking up the name raises no fault of the system but those that lookups are known to raise, and
the first key establishment, where there is one, does not end with a fault of the TLS engine. -/
theorem setsUp_iff (hw : w.StreamsRaiseOnly Fault.OfStream)
    (hlookup : ∀ cause, w.resolver = .error cause → cause.OfLookup) :
    w.SetsUp c ↔
      (∀ cause, w.resolver = .error cause →
        cause.kind.isA .addressLookup = true ∨ cause.kind.isA .unicode = true) ∧
      (c.ntsEnabled = true → w.Resolves → ∀ f v,
        establishTarget c (w.lookedUp c) = (.failed f, v) → f.kind.isA .tls = false) := by
  constructor
  · exact fun hsetup => ⟨fun cause hcause => lookup_of_setsUp hsetup hcause (hlookup cause hcause),
      fun hon hresolves f v hfailed => not_tls_of_setsUp hsetup hon hresolves hfailed⟩
  · rintro ⟨hknown, htls⟩
    refine setsUp_of_establishTarget hknown fun hon hresolves => ?_
    obtain ⟨hended, hending⟩ := raisesOnly_establishTarget (fun _ hf => .inl hf.own) c
      (w := w.lookedUp c) { hw with }
    refine ⟨hended, ?_⟩
    rcases hrun : establishTarget c (w.lookedUp c) with ⟨ending, v⟩
    rw [hrun] at hending
    cases ending with
    | done m => trivial
    | failed f =>
      refine hending.imp_right fun h => h.resolve_right ?_
      rw [htls hon hresolves f v hrun]
      exact Bool.false_ne_true
    | cutOff => exact hending

/-- A key establishment whose request cannot be sent. If the system is to blame, the run comes to a
report, in which the protected case is an error; if the TLS engine is, there is no run. Nor is there
one behind a lookup that the system does not permit. -/
theorem setsUp_iff_request_lost :
    let c := RunConfig.fill { target := some "192.0.2.1", ntsEnabled := some true }
    let w (cause : Fault) : World :=
      { keScripts := [{ sendFault := some cause }]
        exporter := fun _ x => List.replicate x.length 7 }
    let lost : Fault := { kind := .connectionReset, message := "lost" }
    let garbled : Fault := { kind := .tls, message := "garbled" }
    let denied : World :=
      { resolver := .error { kind := .permission, message := "denied" }
        exporter := fun _ x => List.replicate x.length 7 }
    let registry : Registry :=
      ⟨[.guarded "nts.a" "" fun _ => waitForever, { name := "basic.b", run := fun _ => pure () }]⟩
    ¬ denied.SetsUp c ∧ ¬ (w garbled).SetsUp c ∧ (w lost).SetsUp c ∧
      ∃ w₁ entries w₂, prepareTarget c (w lost) = (.done (), w₁) ∧
        runRegistry c none registry (fun entry => printAll [entry.name]) w₁ =
          (.done ⟨entries, true⟩, w₂) ∧
        entries.map (·.name) = ["nts.a", "basic.b"] ∧
        entries.head?.map (·.outcome) =
          some (.errored "NtsKeError: NTS-KE with 192.0.2.1:4460 failed: lost") := by
  intro c w lost garbled denied registry
  obtain ⟨hgarbled, hlost, hstart⟩ :
      (match (establishTarget c ((w garbled).lookedUp c)).1 with
        | .failed f => f.kind.isA .tls
        | _ => false) = true ∧
      (match (establishTarget c ((w lost).lookedUp c)).1 with
        | .failed f => !f.kind.isA .tls && f.message == "lost"
        | _ => false) = true ∧
      c.caseTimeout.letsStart = true := by
    decide +kernel +revert
  have hw (cause : Fault) (hcause : cause.OfStream) :
      (w cause).StreamsRaiseOnly Fault.OfStream := by
    refine ⟨⟨List.forall_mem_singleton.mpr ⟨forall_mem_none _, List.forall_mem_nil _, ?_⟩,
      List.forall_mem_nil _⟩, rfl, fun _ _ => List.length_replicate⟩
    rintro f ⟨⟩
    exact hcause
  have hdenied : denied.StreamsRaiseOnly Fault.OfStream :=
    ⟨⟨List.forall_mem_nil _, List.forall_mem_nil _⟩, rfl, fun _ _ => List.length_replicate⟩
  have hfound (cause : Fault) : ∀ g, (w cause).resolver = .error g → g.OfLookup := by
    intro g hg
    cases hg
  have hresolves (cause : Fault) : (w cause).Resolves := ⟨_, _, rfl⟩
  refine ⟨fun hsetup => ?_, fun hsetup => ?_, ?_⟩
  · have hlookup : ∀ g, denied.resolver = .error g → g.OfLookup := by
      rintro g ⟨⟩
      exact .inl rfl
    rcases ((setsUp_iff hdenied hlookup).mp hsetup).1 _ rfl with h | h <;> cases h
  · rcases hrun : establishTarget c ((w garbled).lookedUp c) with ⟨ending, v⟩
    rw [hrun] at hgarbled
    cases ending with
    | done m => cases hgarbled
    | cutOff => cases hgarbled
    | failed f =>
      have hnot := ((setsUp_iff (hw garbled (.inr (.inr rfl))) (hfound _)).mp hsetup).2 rfl
        (hresolves _) f v hrun
      rw [show f.kind.isA .tls = true from hgarbled] at hnot
      cases hnot
  · rcases hfailed : establishTarget c ((w lost).lookedUp c) with ⟨ending, v⟩
    rw [hfailed] at hlost
    cases ending with
    | done m => cases hlost
    | cutOff => cases hlost
    | failed f =>
      obtain ⟨hnot, hmessage⟩ := Bool.and_eq_true_iff.mp hlost
      have hsetup : (w lost).SetsUp c := by
        refine (setsUp_iff (hw lost (.inr (.inl rfl))) (hfound _)).mpr ⟨?_, ?_⟩
        · intro g hg
          cases hg
        · intro _ _ g v' hfailed'
          rw [hfailed] at hfailed'
          cases hfailed'
          simpa using hnot
      obtain ⟨w₁, hprepare, hleft⟩ := hsetup.left (hresolves lost) rfl f v hfailed
      have hspares : ∀ case ∈ registry.cases, case.SparesJar c := by
        intro case hcase
        rcases List.mem_cons.mp hcase with rfl | hcase
        · exact .guarded _ _ _
        · obtain rfl := List.mem_singleton.mp hcase
          exact .other (by rintro ⟨⟩) fun _ => rfl
      have hothers : ∀ case v, CaseStarts c (caseTimeout c none)
          (fun entry => printAll [entry.name]) w₁ registry.cases case v →
          case.requirement ≠ .nts →
          (within (caseTimeout c none) (case.run c) v).1.Tells := by
        intro case v hstarts hnot
        rcases List.mem_cons.mp hstarts.mem with rfl | hcase
        · exact absurd rfl hnot
        · obtain rfl := List.mem_singleton.mp hcase
          rw [within]
          split
          · exact ⟨rfl, by rintro _ ⟨⟩⟩
          · dsimp only
            split <;> exact ⟨rfl, by rintro _ ⟨⟩⟩
      obtain ⟨entries, w₂, hrun, hnames, houtcomes⟩ :=
        hleft.reported none registry (fun entry => [entry.name]) hspares hothers
      refine ⟨hsetup, w₁, entries, w₂, hprepare, hrun, hnames, ?_⟩
      cases entries with
      | nil => cases hnames
      | cons entry entries =>
        have hfirst := houtcomes _ List.mem_cons_self rfl
        rw [beq_iff_eq.mp hmessage] at hfirst
        exact congrArg some (hfirst.trans (if_pos hstart))

end Run

end TimeProbe

import TimeProbe.Cli.Command
import TimeProbe.Proofs.CaseRuns
import TimeProbe.Proofs.JarSteps

/-!
# The cases that a run consists of

The command runs the cases whose names start with one of the given prefixes, as long as
there are any. A choice that selects nothing is taken for no choice at all, and the whole
catalog runs.
-/

namespace TimeProbe

namespace FaultKind

/-- A fault of the configuration is one of the prober's own. -/
theorem isA_configuration_eq_false {kind : FaultKind} (h : kind.isA .own = false) :
    kind.isA .configuration = false := by
  revert h
  cases kind <;> decide

/-- A fault that is not the user's interrupt is no special case of it. -/
theorem isA_interrupt_eq_false {kind : FaultKind} (h : kind.isA .other = true) :
    kind.isA .interrupt = false := by
  revert h
  cases kind <;> decide

end FaultKind

/-- A fault that is not remembered is none of the prober's own. -/
theorem SessionSource.isA_own_eq_false {f : Fault} (h : remembered? f = none) :
    f.kind.isA .own = false := by
  rw [remembered?] at h
  split at h
  · cases h
  next hown => simpa using hown

/-- What is remembered of an ordinary failure is ordinary. -/
theorem Fault.Ordinary.remembered {f cause : Fault} (hf : f.Ordinary)
    (h : SessionSource.remembered? f = some cause) : cause.Ordinary := by
  rw [SessionSource.remembered?] at h
  split at h
  · exact Option.some.inj h ▸ hf
  split at h
  · rw [← Option.some.inj h]
    exact ⟨rfl, rfl⟩
  · cases h

namespace Run

open World

variable {w w₁ : World} {c : RunConfig}

/-- The first key establishment fails only with a fault that is not remembered. What is remembered
of an ordinary one is ordinary. -/
theorem bootstrap_cases {s : SessionSource} (hsource : w.source = some s) (hs : s.Ordinary)
    (hestablish : (establishTarget s.config w).1.RaisesOnly Fault.Ordinary) :
    (∀ s' ∈ (bootstrap w).2.source, s'.Ordinary) ∧
      ∀ f, (bootstrap w).1 = .failed f → SessionSource.remembered? f = none := by
  have hleft := source_establishTarget s.config w
  rw [bootstrap_eq hsource]
  rcases hrun : establishTarget s.config w with ⟨ending, w₁⟩
  rw [hrun] at hleft hestablish
  have hsame : ∀ s' ∈ w₁.source, s'.Ordinary := by
    rw [show w₁.source = some s from hleft.trans hsource]
    rintro _ ⟨⟩
    exact hs
  cases ending with
  | done m =>
    refine ⟨?_, nofun⟩
    rintro _ ⟨⟩
    exact hs
  | failed f =>
    dsimp only
    cases hremembered : SessionSource.remembered? f with
    | none =>
      refine ⟨hsame, ?_⟩
      rintro _ ⟨⟩
      exact hremembered
    | some cause =>
      refine ⟨?_, nofun⟩
      rintro _ ⟨⟩ _ ⟨⟩
      exact hestablish.remembered hremembered
  | cutOff => exact ⟨hsame, nofun⟩

/-- Preparing a target that resolves opens no endpoint and prints nothing. It fails only if
the first key establishment ends with a fault that is neither the prober's own nor the
system's. -/
theorem prepareTarget_cases (c : RunConfig) (hw : w.Ordinary) (hlimit : w.limit = none)
    {addresses : List String} (hresolve : w.resolver = .ok addresses)
    (haddresses : addresses ≠ []) :
    ∃ w₁, Follows 0 w w₁ ∧ (prepareTarget c w = (.done (), w₁) ∨
      ∃ f, f.Ordinary ∧ SessionSource.remembered? f = none ∧
        prepareTarget c w = (.failed f, w₁)) := by
  obtain ⟨v, hv⟩ : ∃ v : World, v = { w with lookups := w.lookups ++ [⟨c.target, c.port⟩] } :=
    ⟨_, rfl⟩
  have hresolved : resolve ⟨c.target, c.port⟩ w = (.done addresses, v) := by
    cases addresses with
    | nil => exact absurd rfl haddresses
    | cons first others =>
      rw [resolve, bind_done (show update _ w = (.done (), v) by rw [hv]; rfl),
        bind_done (show read (·.resolver) v = (.done w.resolver, v) by rw [hv]; rfl), hresolve]
      rfl
  rw [prepareTarget, bind_done hresolved]
  by_cases hnts : c.ntsEnabled = true
  · rw [if_pos hnts]
    obtain ⟨u, hu⟩ : ∃ u : World, u = { v with source := some { config := c } } := ⟨_, rfl⟩
    have hset : setSource { config := c } v = (.done (), u) := by
      rw [hu]
      rfl
    rw [bind_done hset]
    have hmade : ∀ f : Fault, f.Homemade → f.Ordinary := fun _ hf => hf.toOrdinary
    have hstart : u.RaisesOnly Fault.Ordinary := by
      rw [hu, hv]
      exact { hw with }
    have hsource : u.source = some { config := c } := by rw [hu]
    have hlimits : u.limits = [] := by
      rw [hu, hv]
      exact List.head?_eq_none_iff.mp hlimit
    have law := elementaryLaw_raisesOnly hmade
    have hbootstrap : BuiltWith Fault.Ordinary (Elementary False) bootstrap :=
      (built_bootstrap hmade).elementary
    have hbuilt : BuiltWith Fault.Ordinary (Elementary False) (establishTarget c) :=
      (built_establishTarget (fun f hf => hmade f hf.toHomemade) c).elementary
    obtain ⟨hleft, hending⟩ := law.keeps hbootstrap u hstart
    have hestablish := (law.keeps hbuilt u hstart).2
    obtain ⟨hordinary, hfailed⟩ :=
      bootstrap_cases hsource (forall_mem_none _) hestablish
    have hany : Built OnTarget bootstrap := built_bootstrap fun _ _ => trivial
    obtain ⟨hnone, hended⟩ :=
      (hany.heeds fun _ _ h => h.heeds : Heeds False bootstrap).unlimited hlimits
    have hprinted : (bootstrap u).2.printed = u.printed :=
      leaves_printed (hany.elementary : Built (Elementary False) bootstrap) u
    have hcount := (keeps_atMost_of_onTarget hany u (Nat.le_refl u.endpoints.length)).1
    rcases hrun : bootstrap u with ⟨ending, w₁⟩
    rw [hrun] at hleft hending hordinary hfailed hnone hended hprinted hcount
    refine ⟨w₁, ⟨⟨?_, ?_, fun _ => List.head?_eq_none_iff.mpr hnone⟩, ⟨hleft, hordinary⟩⟩, ?_⟩
    · rw [hprinted, hu, hv]
    · rw [hu, hv] at hcount
      exact hcount
    · cases ending with
      | done _ => exact .inl rfl
      | failed f => exact .inr ⟨f, hending, hfailed f rfl, rfl⟩
      | cutOff => cases hended
  · rw [if_neg hnts]
    refine ⟨v, ⟨⟨?_, ?_, fun _ => ?_⟩, ?_⟩, .inl rfl⟩
    all_goals rw [hv]
    · exact Nat.le_refl _
    · exact hlimit
    · exact { hw with }

/-- A prepared target is run against and reported on. -/
theorem runTarget_eq_done {registry : Registry} {colours : Bool} {entries : List Entry}
    {w₂ : World} (hprepare : prepareTarget c w = (.done (), w₁))
    (hran : Ran c c.caseTimeout colours w₁ registry.cases entries w₂) :
    runTarget c registry colours w = (.done ⟨entries, true⟩,
      w₂.printing (Console.summaryLines colours ⟨entries, true⟩)) := by
  have hreport : runRegistry c none registry
      (fun e => printAll (Console.entryLines colours e)) w₁ = (.done ⟨entries, true⟩, w₂) :=
    hran.runCases_eq []
  rw [runTarget, bind_done hprepare, bind_done hreport, bind_done (printAll_eq _ w₂)]
  rfl

end Run

namespace Cli

open Run World

/-- The names of the catalog that start with one of the given prefixes, in order. -/
def selectedNames (starts : List String) : List String :=
  Catalog.all.names.filter fun name => starts.any (·.toList.isPrefixOf name.toList)

/-- The cases that run: the selected ones, or all if none is selected. -/
def chosenCases (starts : List String) : List TestCase :=
  if (Catalog.all.select starts).cases.isEmpty then Catalog.cases
  else (Catalog.all.select starts).cases

variable {starts : List String}

/-- Selecting cases selects their names. -/
theorem names_select (starts : List String) :
    (Catalog.all.select starts).cases.map (·.name) = selectedNames starts := by
  rw [selectedNames, Registry.names, List.filter_map]
  rfl

/-- Only cases of the catalog are selected, in its order. -/
theorem cases_select_sublist (starts : List String) :
    (Catalog.all.select starts).cases.Sublist Catalog.cases := List.filter_sublist

/-- Only cases of the catalog are chosen. -/
theorem chosenCases_sublist (starts : List String) :
    (chosenCases starts).Sublist Catalog.cases := by
  rw [chosenCases]
  split
  · exact List.Sublist.refl _
  · exact cases_select_sublist starts

/-- The names of the catalog are different. -/
theorem nodup_names : Catalog.all.names.Nodup := by
  decide +kernel

/-- The chosen cases are the selected ones exactly if a case is selected. -/
theorem names_chosenCases_eq_iff :
    (chosenCases starts).map (·.name) = selectedNames starts ↔ selectedNames starts ≠ [] := by
  have hempty : (Catalog.all.select starts).cases.isEmpty = true ↔ selectedNames starts = [] := by
    rw [← names_select, List.map_eq_nil_iff, List.isEmpty_iff]
  rw [chosenCases]
  split
  next hnone =>
    have hselected := hempty.mp hnone
    rw [hselected]
    constructor
    · intro hall
      cases hall
    · intro hsome
      exact absurd rfl hsome
  next hsome =>
    constructor
    · intro _ hselected
      exact hsome (hempty.mpr hselected)
    · intro _
      exact names_select starts

/-- Prefixes choose the selected cases, or all. -/
theorem chooseCases_eq (starts : List String) :
    chooseCases (starts.map some) = .ok ⟨chosenCases starts⟩ := by
  have hgiven : (starts.map some).takeWhile Option.isSome = starts.map some := by
    induction starts with
    | nil => rfl
    | cons start starts ih => rw [List.map_cons, List.takeWhile_cons_of_pos rfl, ih]
  have hstarts : ((starts.map some).filterMap id) = starts := by
    simp
  have hnone : (starts.map some).contains none = false := by
    simp
  simp only [chooseCases, hgiven, hstarts, hnone, Bool.false_and, Bool.false_eq_true, if_false,
    chosenCases]
  split <;> rfl

variable {x : Run Exit} {w w' : World}

/-- A run that ends with an exit is left as it is. -/
theorem guarded_eq_done {exit : Exit} (h : x w = (.done exit, w')) :
    guarded x w = (.done exit, w') := by
  rw [guarded, bind_done (attempt_done h)]
  rfl

/-- A fault that is neither one of the configuration nor the user's interrupt stays a fault. -/
theorem guarded_eq_failed {f : Fault} (h : x w = (.failed f, w'))
    (hconfiguration : f.kind.isA .configuration = false)
    (hinterrupt : f.kind.isA .interrupt = false) : guarded x w = (.failed f, w') := by
  rw [guarded, bind_done (attempt_failed h)]
  simp only [hconfiguration, hinterrupt, Bool.false_eq_true, if_false]
  rfl

/-- Arguments that can be read and make a plan lead to a run of the cases planned. -/
theorem run_of_plan {words : List String} (terminal : Bool) {a : Arguments} {c : RunConfig}
    {registry : Registry} {plan : Logging.Plan}
    (hparse : Arguments.parse w.settings words = .ok a)
    (hlogging : Logging.plan w.settings "pester"
      (if a.verbose then some Logging.debug else none) = .ok plan)
    (hplan : Cli.plan w.settings a = .ok (c, registry)) :
    run words terminal w = runCases c a registry terminal w := by
  have hsettings : read (·.settings) w = (.done w.settings, w) := rfl
  rw [run, bind_done hsettings, hparse]
  dsimp only
  rw [runArguments, bind_done hsettings, hlogging,
    bind_done (show ofExcept (.ok plan) w = (.done plan, w) from rfl), hplan]

/-- Arguments that can be read and configure a run lead to a run of the chosen cases. -/
theorem run_eq_runCases {words : List String} (terminal : Bool) {a : Arguments}
    {c : RunConfig} {plan : Logging.Plan} (hparse : Arguments.parse w.settings words = .ok a)
    (honly : a.only = starts.map some)
    (hlogging : Logging.plan w.settings "pester"
      (if a.verbose then some Logging.debug else none) = .ok plan)
    (hconfigure : configure w.settings a = .ok c) :
    run words terminal w = runCases c a ⟨chosenCases starts⟩ terminal w := by
  refine run_of_plan terminal hparse hlogging ?_
  rw [Cli.plan, hconfigure, honly, chooseCases_eq]
  rfl

/-- A run that comes to a report ends the command as this report says. -/
theorem runCases_of_report {c : RunConfig} {a : Arguments} {registry : Registry}
    {terminal : Bool} {report : Report}
    (h : runTarget c registry (chooseColours a terminal) w = (.done report, w')) :
    runCases c a registry terminal w = (.done (Exit.ofReport report), w') := by
  rw [runCases, guarded_eq_done]
  rw [bind_done h]
  rfl

/-- Once the target is prepared, the command ends as its report says. -/
theorem runCases_eq_done {c : RunConfig} {a : Arguments} {cases : List TestCase}
    {terminal : Bool} {entries : List Entry} {w₁ w₂ : World}
    (hprepare : prepareTarget c w = (.done (), w₁))
    (hran : Ran c c.caseTimeout (chooseColours a terminal) w₁ cases entries w₂) :
    runCases c a ⟨cases⟩ terminal w = (.done (Exit.ofReport ⟨entries, true⟩),
      w₂.printing (Console.summaryLines (chooseColours a terminal) ⟨entries, true⟩)) :=
  runCases_of_report (runTarget_eq_done hprepare hran)

/-- A first key establishment that breaks off is no exit of the command. -/
theorem runCases_eq_failed {c : RunConfig} {a : Arguments} {registry : Registry}
    {terminal : Bool} {f : Fault} (hprepare : prepareTarget c w = (.failed f, w'))
    (hf : f.Ordinary) (hremembered : SessionSource.remembered? f = none) :
    runCases c a registry terminal w = (.failed f, w') := by
  have htarget : runTarget c registry (chooseColours a terminal) w = (.failed f, w') := by
    rw [runTarget, bind_failed hprepare]
  have hown := SessionSource.isA_own_eq_false hremembered
  rw [runCases, guarded_eq_failed (bind_failed htarget _)
    (FaultKind.isA_configuration_eq_false hown) (FaultKind.isA_interrupt_eq_false hf.kind)]

/-- The chosen cases are the whole catalog if none is selected. -/
theorem names_chosenCases_of_none (hnone : selectedNames starts = []) :
    (chosenCases starts).map (·.name) = Catalog.all.names := by
  rw [← names_select, List.map_eq_nil_iff] at hnone
  rw [chosenCases, hnone]
  rfl

/-- No case is chosen twice. -/
theorem nodup_chosenCases (starts : List String) :
    ((chosenCases starts).map (·.name)).Nodup :=
  nodup_names.sublist ((chosenCases_sublist starts).map _)

/-- **A run of chosen cases.** With a target that resolves, and whatever its servers do, the
command prints and reports one entry for each chosen case, once and in catalog order. It
opens no more endpoints than these cases need. The entries are those of the cases whose names
start with a prefix exactly if there is such a case; else the whole catalog was run. Only a
first key establishment that breaks off keeps the cases from being run. -/
theorem run_only {words : List String} {terminal : Bool} {a : Arguments} {c : RunConfig}
    {plan : Logging.Plan} {addresses : List String}
    (hparse : Arguments.parse w.settings words = .ok a) (honly : a.only = starts.map some)
    (hlogging : Logging.plan w.settings "pester"
      (if a.verbose then some Logging.debug else none) = .ok plan)
    (hconfigure : configure w.settings a = .ok c)
    (hresolve : w.resolver = .ok addresses) (haddresses : addresses ≠ [])
    (hw : w.Ordinary) (hlimit : w.limit = none) :
    ∃ w₁, Follows 0 w w₁ ∧
      ((∃ f, f.Ordinary ∧ SessionSource.remembered? f = none ∧
          prepareTarget c w = (.failed f, w₁) ∧ run words terminal w = (.failed f, w₁)) ∨
        prepareTarget c w = (.done (), w₁) ∧ ∃ entries w₂,
          Ran c c.caseTimeout (chooseColours a terminal) w₁ (chosenCases starts) entries w₂ ∧
          run words terminal w = (.done (Exit.ofReport ⟨entries, true⟩),
            w₂.printing (Console.summaryLines (chooseColours a terminal) ⟨entries, true⟩)) ∧
          w₂.printed =
            w.printed ++ entries.flatMap (Console.entryLines (chooseColours a terminal)) ∧
          w₂.endpoints.length ≤ w.endpoints.length + TestCase.opensInAll (chosenCases starts) ∧
          (entries.map (·.name)).Nodup ∧
          (entries.map (·.name) = selectedNames starts ↔ selectedNames starts ≠ []) ∧
          (selectedNames starts = [] → entries.map (·.name) = Catalog.all.names)) := by
  have hrun := run_eq_runCases terminal hparse honly hlogging hconfigure
  obtain ⟨w₁, hfollows, hprepare⟩ := prepareTarget_cases c hw hlimit hresolve haddresses
  refine ⟨w₁, hfollows, ?_⟩
  obtain hprepare | ⟨f, hf, hremembered, hprepare⟩ := hprepare
  · have htame : ∀ case ∈ chosenCases starts, case.Tame := fun case hcase =>
      Catalog.tame_cases case ((chosenCases_sublist starts).subset hcase)
    obtain ⟨entries, w₂, hran, hprinted, hendpoints⟩ :=
      exists_ran c c.caseTimeout (chooseColours a terminal) htame
        hfollows.ordinary.toRaisesOnly (hfollows.limit hlimit)
    refine .inr ⟨hprepare, entries, w₂, hran, ?_, ?_, ?_, ?_⟩
    · rw [hrun, runCases_eq_done hprepare hran]
    · rw [hprinted, hfollows.printed]
    · have hquiet := hfollows.endpoints
      omega
    · rw [hran.names]
      exact ⟨nodup_chosenCases starts, names_chosenCases_eq_iff, names_chosenCases_of_none⟩
  · refine .inl ⟨f, hf, hremembered, hprepare, ?_⟩
    rw [hrun, runCases_eq_failed hprepare hf hremembered]

/-- A prefix without a case does not run nothing: the whole catalog runs. -/
theorem run_only_unmatched : selectedNames ["nosuch"] = [] ∧
    ∃ entries w', run ["--only", "nosuch", "192.0.2.1"] false {} =
        (.done (Exit.ofReport ⟨entries, true⟩), w') ∧
      entries.map (·.name) = Catalog.all.names ∧ Catalog.all.names.length = 14 := by
  have hnone : selectedNames ["nosuch"] = [] := by decide +kernel
  have hempty : ({} : World).Ordinary :=
    { scripts := List.forall_mem_nil _, streams := List.forall_mem_nil _
      udpScripts := List.forall_mem_nil _, endpoints := List.forall_mem_nil _
      source := forall_mem_none _ }
  obtain ⟨a, ha⟩ : ∃ a : Arguments, a =
    { Arguments.default {} with host := "192.0.2.1", only := ["nosuch"].map some } := ⟨_, rfl⟩
  have hparse : Arguments.parse {} ["--only", "nosuch", "192.0.2.1"] = .ok a := by
    rw [ha]
    rfl
  have hplain : (configure {} a).toOption.map (·.ntsEnabled) = some false := by
    rw [ha]
    decide +kernel
  cases hconfigure : configure {} a with
  | error f =>
    rw [hconfigure] at hplain
    cases hplain
  | ok c =>
    rw [hconfigure] at hplain
    have hnts : c.ntsEnabled = false := Option.some.inj hplain
    obtain ⟨w₁, -, hfailed | ⟨-, entries, w₂, -, hrun, -, -, -, -, hall⟩⟩ :=
      run_only (w := {}) (a := a) (c := c) hparse (by rw [ha]) (by rw [ha]; rfl) hconfigure rfl
        (List.cons_ne_nil _ _) hempty rfl
    · obtain ⟨f, -, -, hprepare, -⟩ := hfailed
      rw [prepareTarget, hnts] at hprepare
      cases hprepare
    · exact ⟨hnone, entries, _, hrun, hall hnone, by decide +kernel⟩

end Cli

end TimeProbe

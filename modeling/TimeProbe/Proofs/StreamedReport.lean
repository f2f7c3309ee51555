import TimeProbe.Proofs.CaseSelection
import TimeProbe.Proofs.ElementarySteps

/-!
# Streamed reports

A run prints the lines of an entry as soon as its case has ended, and the summary behind the last
one. What was printed piece by piece is the text of the report: the same lines in the same order,
and colours only wrap the status lines and the lines of the summary. The exit code says whether
the summary counts a failure or an error.
-/

namespace TimeProbe

/-- The lines of an entry, of which the status line is marked with the kind of the outcome. -/
def Entry.markedLines (e : Entry) : List (Option OutcomeKind × String) :=
  (some e.outcome.kind, e.statusLine) :: e.detailLines.map (none, ·)

/-- All lines of a report. The status lines and the lines of the summary are marked with the kind
of outcome that they are about. -/
def Report.markedLines (r : Report) : List (Option OutcomeKind × String) :=
  r.entries.flatMap (·.markedLines) ++
    (none, "") :: OutcomeKind.all.map fun kind => (some kind, r.summaryLine kind)

/-- A marked line is a line of the report. -/
theorem Report.map_snd_markedLines (r : Report) : r.markedLines.map (·.2) = r.lines := by
  have hentry (e : Entry) : e.markedLines.map (·.2) = e.lines := by
    simp [Entry.markedLines, Entry.lines, Function.comp_def]
  rw [markedLines, lines, List.map_append, List.map_flatMap]
  simp only [hentry]
  rfl

namespace Console

/-- A line as it is shown: with colours on, one that is marked stands between the colour of its
kind and a reset. -/
def shown (colours : Bool) : Option OutcomeKind × String → String
  | (some kind, line) => if colours then kind.colour ++ line ++ "\x1b[0m" else line
  | (none, line) => line

/-- What is printed of a report: the lines of each entry during the run, and then the summary. -/
def streamed (colours : Bool) (r : Report) : List String :=
  r.entries.flatMap (entryLines colours) ++ summaryLines colours r

/-- The lines that are streamed are those of the report, as they are shown. -/
theorem streamed_eq_map_shown (colours : Bool) (r : Report) :
    streamed colours r = r.markedLines.map (shown colours) := by
  have hentry (e : Entry) : e.markedLines.map (shown colours) = entryLines colours e := by
    simp [Entry.markedLines, entryLines, shown, paint, reset, Function.comp_def]
  rw [streamed, Report.markedLines, List.map_append, List.map_flatMap]
  simp only [hentry]
  rfl

/-- Without colours the lines of the report are streamed as they are. -/
theorem streamed_false (r : Report) : streamed false r = r.lines := by
  have hshown : shown false = Prod.snd := by
    funext ⟨mark, line⟩
    cases mark <;> rfl
  rw [streamed_eq_map_shown, hshown, r.map_snd_markedLines]

end Console

namespace Run

open World

variable {α : Type} {x : Run α} {c : RunConfig} {registry : Registry} {colours : Bool}
  {report : Report} {w w' : World}

/-- A run that comes to a report has prepared its target, run its cases one after the other, and
printed the summary. -/
theorem exists_ran_of_runTarget (h : runTarget c registry colours w = (.done report, w')) :
    ∃ w₁ w₂, prepareTarget c w = (.done (), w₁) ∧ report.finalized = true ∧
      Ran c c.caseTimeout colours w₁ registry.cases report.entries w₂ ∧
      w' = w₂.printing (Console.summaryLines colours report) := by
  obtain ⟨_, w₁, hprepare, hrest⟩ := exists_of_bind_done h
  obtain ⟨r, w₂, hcases, hsummary⟩ := exists_of_bind_done hrest
  rw [bind_done (printAll_eq _ w₂)] at hsummary
  cases hsummary
  obtain ⟨entries, rfl, hran⟩ := exists_ran_of_runCases hcases
  exact ⟨w₁, w₂, hprepare, rfl, hran, rfl⟩

/-- Preparing a target prints nothing. -/
theorem printed_of_prepareTarget {w₁ : World} (h : prepareTarget c w = (.done (), w₁)) :
    w₁.printed = w.printed := by
  have hbuilt : Built (Elementary True) (prepareTarget c) := built_prepareTarget c
  have hleft := leaves_printed hbuilt w
  rwa [h] at hleft

/-- Cases that print nothing themselves leave nothing printed but the report. -/
theorem printed_runTarget (h : runTarget c registry colours w = (.done report, w'))
    (hquiet : ∀ case ∈ registry.cases, Leaves (·.printed) (case.run c)) :
    w'.printed = w.printed ++ Console.streamed colours report := by
  obtain ⟨w₁, w₂, hprepare, -, hran, rfl⟩ := exists_ran_of_runTarget h
  rw [World.printing, hran.printed hquiet, printed_of_prepareTarget hprepare, Console.streamed,
    List.append_assoc]

end Run

namespace Cli

open Run

/-- Only cases of the catalog are planned. -/
theorem mem_cases_of_plan {settings : Settings} {a : Arguments} {c : RunConfig}
    {registry : Registry} (h : plan settings a = .ok (c, registry)) :
    ∀ case ∈ registry.cases, case ∈ Catalog.cases := by
  rw [plan] at h
  cases hconfigure : configure settings a with
  | error f =>
    rw [hconfigure] at h
    cases h
  | ok c' =>
    rw [hconfigure] at h
    cases hchoose : chooseCases a.only with
    | error f =>
      rw [hchoose] at h
      cases h
    | ok chosen =>
      rw [hchoose] at h
      cases h
      simp only [chooseCases] at hchoose
      split at hchoose
      · cases hchoose
      · cases hchoose
        split
        · exact fun _ hcase => hcase
        · exact fun _ hcase => (cases_select_sublist _).subset hcase

/-- **What is printed, what is reported, and how the command ends agree.** A run over a registry
that comes to a report runs the cases one after the other and prints the lines of each entry as
soon as its case has ended, and the summary at the end. These are the lines of the report, in
order; colours only wrap those that are marked. If the cases print nothing themselves, nothing
else is printed. A command that was asked for this run prints no more than that either, and it
ends with 0 if the printed counts of failures and of errors are both zero, and else with 1. -/
theorem streamed_report_exact {c : RunConfig} {registry : Registry} {colours : Bool}
    {report : Report} {w w' : World}
    (hrun : runTarget c registry colours w = (.done report, w')) :
    report.finalized = true ∧ report.entries.map (·.name) = registry.names ∧
    (∃ w₁ w₂, prepareTarget c w = (.done (), w₁) ∧ w₁.printed = w.printed ∧
      Ran c c.caseTimeout colours w₁ registry.cases report.entries w₂ ∧
      w' = w₂.printing (Console.summaryLines colours report)) ∧
    ((∀ case ∈ registry.cases, Leaves (·.printed) (case.run c)) →
      w'.printed = w.printed ++ Console.streamed colours report) ∧
    (colours = false → Console.streamed colours report = report.lines) ∧
    report.markedLines.map (·.2) = report.lines ∧
    Console.streamed colours report = report.markedLines.map (Console.shown colours) ∧
    ∀ words terminal a plan, Arguments.parse w.settings words = .ok a →
      Logging.plan w.settings "pester" (if a.verbose then some Logging.debug else none) =
        .ok plan →
      Cli.plan w.settings a = .ok (c, registry) → chooseColours a terminal = colours →
      ∃ (exit : Exit) (passed failed errored skipped : Nat),
        run words terminal w = (.done exit, w') ∧
        w'.printed = w.printed ++ Console.streamed colours report ∧
        Console.summaryLines colours report =
          ["", Console.shown colours (some .passed, s!"✅ Passed: {passed}"),
            Console.shown colours (some .failed, s!"❌ Failed: {failed}"),
            Console.shown colours (some .errored, s!"❓ Errored: {errored}"),
            Console.shown colours (some .skipped, s!"⏩ Skipped: {skipped}")] ∧
        exit = { code := if failed = 0 ∧ errored = 0 then 0 else 1 } := by
  obtain ⟨w₁, w₂, hprepare, hfinalized, hran, hprinted⟩ := exists_ran_of_runTarget hrun
  refine ⟨hfinalized, hran.names, ⟨w₁, w₂, hprepare, printed_of_prepareTarget hprepare, hran,
    hprinted⟩, printed_runTarget hrun, ?_, report.map_snd_markedLines,
    Console.streamed_eq_map_shown colours report, ?_⟩
  · rintro rfl
    exact Console.streamed_false report
  · intro words terminal a plan hparse hlogging hplan hcolours
    have hquiet : ∀ case ∈ registry.cases, Leaves (·.printed) (case.run c) := fun case hcase =>
      leaves_printed_of_confined (Catalog.confined_cases (fun _ _ => trivial) case
        (mem_cases_of_plan hplan case hcase)) c
    refine ⟨Exit.ofReport report, report.count .passed, report.count .failed,
      report.count .errored, report.count .skipped, ?_, printed_runTarget hrun hquiet, ?_, ?_⟩
    · rw [run_of_plan terminal hparse hlogging hplan, runCases_of_report (hcolours ▸ hrun)]
    · rfl
    · rw [Exit.ofReport, Report.success]
      simp [Exit.passed, Exit.failed]

/-- A case that passes, one that fails and shows why and with what, one that is skipped, and one
that goes wrong, printed in colour. -/
theorem streamed_report_exact_coloured :
    let case (name : String) (body : Run Unit) : TestCase := { name, run := fun _ => body }
    let registry : Registry :=
      ⟨[case "a.passes" (pure ()), case "a.fails" (fail (.failure "late" (.bytes [1]))),
        case "a.skips" (fail (.skipped "no key")),
        case "a.breaks" (fail { kind := .zeroDivision, message := "division by zero" })]⟩
    let c := RunConfig.fill { target := some "192.0.2.1" }
    let lines := ["\x1b[92m✅ a.passes\x1b[0m", "\x1b[91m❌ a.fails\x1b[0m", " ↳ late",
      " ↳ raw: 01", "\x1b[94m⏩ a.skips\x1b[0m", "\x1b[93m❓ a.breaks\x1b[0m",
      " ↳ ZeroDivisionError: division by zero", "", "\x1b[92m✅ Passed: 1\x1b[0m",
      "\x1b[91m❌ Failed: 1\x1b[0m", "\x1b[93m❓ Errored: 1\x1b[0m", "\x1b[94m⏩ Skipped: 1\x1b[0m"]
    ∃ report w', runTarget c registry true {} = (.done report, w') ∧
      w'.printed = report.markedLines.map (Console.shown true) ∧ w'.printed = lines := by
  intro case registry c lines
  have hdone : (match (runTarget c registry true {}).1 with
      | .done _ => true
      | .failed _ => false
      | .cutOff => false) = true := by decide +kernel
  have hlines : (runTarget c registry true {}).2.printed = lines := by decide +kernel
  have hquiet : ∀ k ∈ registry.cases, Leaves (·.printed) (k.run c) := by
    intro k hk
    simp only [registry, List.mem_cons, List.not_mem_nil, or_false] at hk
    rcases hk with rfl | rfl | rfl | rfl <;> exact fun _ => rfl
  rcases hrun : runTarget c registry true {} with ⟨ending, w'⟩
  rw [hrun] at hdone hlines
  cases ending with
  | failed f => cases hdone
  | cutOff => cases hdone
  | done report =>
    obtain ⟨-, -, -, hprinted, -, -, hshown, -⟩ := streamed_report_exact hrun
    exact ⟨report, w', rfl, (hprinted hquiet).trans hshown, hlines⟩

end Cli

end TimeProbe

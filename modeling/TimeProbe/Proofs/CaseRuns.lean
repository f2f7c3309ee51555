import TimeProbe.Proofs.OrdinaryWorlds
import TimeProbe.Runner

/-!
# Cases run one after the other

In an ordinary world without a limit every tame case ends with an outcome. The runner
therefore runs its cases in order, each in the world that the one before it left, and prints
and reports exactly one entry for each.
-/

namespace TimeProbe

/-- An ordinary fault decides an outcome. -/
theorem Outcome.exists_ofFault {f : Fault} (hf : f.Ordinary) (limit : Binary64) :
    ∃ outcome, Outcome.ofFault limit f = .ok outcome := by
  have hreason : reasonOf f = .ok (some f.message) := by
    simp only [reasonOf, hf.arguments]
  rw [Outcome.ofFault, hreason]
  split
  · exact ⟨_, rfl⟩
  split
  · exact ⟨_, rfl⟩
  split
  · exact ⟨_, rfl⟩
  · rw [if_pos hf.kind]
    exact ⟨_, rfl⟩

/-- The world with more lines printed. -/
def World.printing (w : World) (lines : List String) : World :=
  { w with printed := w.printed ++ lines }

namespace Run

open World

/-- Lines are printed in order. -/
theorem printAll_eq (lines : List String) (w : World) :
    printAll lines w = (.done (), w.printing lines) := by
  induction lines generalizing w with
  | nil =>
    rw [World.printing, List.append_nil]
    rfl
  | cons line lines ih =>
    have hline : print line w = (.done (), w.printing [line]) := rfl
    have hstep : printAll (line :: lines) w = (print line >>= fun _ => printAll lines) w := rfl
    rw [hstep, bind_done hline, ih, World.printing, World.printing, World.printing,
      List.append_assoc]
    rfl

/-- Telling the outcome of a case changes nothing. -/
theorem runCase_snd (c : RunConfig) (limit : Binary64) (case : TestCase) (w : World) :
    (runCase c limit case w).2 = (within limit (case.run c) w).2 := by
  rcases hrun : within limit (case.run c) w with ⟨ending, w₁⟩
  cases ending with
  | done finished =>
    rw [runCase, bind_done (attempt_done hrun)]
    cases finished <;> rfl
  | failed f =>
    rw [runCase, bind_done (attempt_failed hrun)]
    dsimp only
    cases Outcome.ofFault limit f <;> rfl
  | cutOff => rw [runCase, bind_cutOff (attempt_cutOff hrun)]

/-- A run over a list that begins with a case tells its outcome, shows its entry, and goes on. -/
theorem runCases_cons_done {c : RunConfig} {limit : Binary64} {shown : Entry → List String}
    {case : TestCase} {cases : List TestCase} {outcome : Outcome} {earlier : List Entry}
    {w w₁ : World} (hcase : runCase c limit case w = (.done outcome, w₁)) :
    runCases c limit (fun entry => printAll (shown entry)) (case :: cases) ⟨earlier, false⟩ w =
      runCases c limit (fun entry => printAll (shown entry)) cases
        ⟨earlier ++ [⟨case.name, outcome⟩], false⟩ (w₁.printing (shown ⟨case.name, outcome⟩)) := by
  have hadd : ofExcept (Report.add ⟨earlier, false⟩ ⟨case.name, outcome⟩) w₁ =
      (.done ⟨earlier ++ [⟨case.name, outcome⟩], false⟩, w₁) := rfl
  rw [runCases, bind_done hcase, bind_done hadd, bind_done (printAll_eq _ w₁)]

/-- A tame case ends with an outcome. -/
theorem exists_outcome {case : TestCase} (hcase : case.Tame) (c : RunConfig) (limit : Binary64)
    {w : World} (hw : w.RaisesOnly Fault.Ordinary) (hlimit : w.limit = none) :
    ∃ outcome w₁, runCase c limit case w = (.done outcome, w₁) ∧
      w₁.RaisesOnly Fault.Ordinary ∧ w.Quiet case.opens w₁ := by
  obtain ⟨hleft, hquiet, hending, hended⟩ := quiet_of_tame hcase c limit hw hlimit
  rcases hrun : within limit (case.run c) w with ⟨ending, w₁⟩
  rw [hrun] at hleft hquiet hending hended
  cases ending with
  | done finished =>
    rw [runCase, bind_done (attempt_done hrun)]
    cases finished with
    | none => exact ⟨_, w₁, rfl, hleft, hquiet⟩
    | some _ => exact ⟨_, w₁, rfl, hleft, hquiet⟩
  | failed f =>
    obtain ⟨outcome, houtcome⟩ := Outcome.exists_ofFault hending limit
    rw [runCase, bind_done (attempt_failed hrun)]
    dsimp only
    rw [houtcome]
    exact ⟨outcome, w₁, rfl, hleft, hquiet⟩
  | cutOff => cases hended

/-- The worlds in which the cases of a run start: the first one in the world that is there, and
each other one in the world that is left when the entry of the one before it was shown. -/
inductive CaseStarts (c : RunConfig) (limit : Binary64) (onResult : Entry → Run Unit) :
    World → List TestCase → TestCase → World → Prop
  | first (w : World) (case : TestCase) (cases : List TestCase) :
      CaseStarts c limit onResult w (case :: cases) case w
  | later {w w₁ w₂ v : World} {case next : TestCase} {cases : List TestCase} {outcome : Outcome}
      (ran : runCase c limit case w = (.done outcome, w₁))
      (shown : onResult ⟨case.name, outcome⟩ w₁ = (.done (), w₂))
      (rest : CaseStarts c limit onResult w₂ cases next v) :
      CaseStarts c limit onResult w (case :: cases) next v

/-- The cases that start are those of the run. -/
theorem CaseStarts.mem {c : RunConfig} {limit : Binary64} {onResult : Entry → Run Unit}
    {w v : World} {cases : List TestCase} {case : TestCase}
    (hstarts : CaseStarts c limit onResult w cases case v) : case ∈ cases := by
  induction hstarts with
  | first w case cases => exact List.mem_cons_self
  | later ran shown rest ih => exact List.mem_cons_of_mem _ ih

/-- Cases that were run one after the other, each printing its entry at once: the world they
started in, their entries, and the world they left. -/
inductive Ran (c : RunConfig) (limit : Binary64) (colours : Bool) :
    World → List TestCase → List Entry → World → Prop
  | nothing (w : World) : Ran c limit colours w [] [] w
  | next {w w₁ w₂ : World} {case : TestCase} {cases : List TestCase} {outcome : Outcome}
      {entries : List Entry} (ends : runCase c limit case w = (.done outcome, w₁))
      (rest : Ran c limit colours (w₁.printing (Console.entryLines colours ⟨case.name, outcome⟩))
        cases entries w₂) :
      Ran c limit colours w (case :: cases) (⟨case.name, outcome⟩ :: entries) w₂

variable {c : RunConfig} {limit : Binary64} {colours : Bool} {w w' : World}
  {cases : List TestCase} {entries : List Entry}

/-- Every list of tame cases can be run, and prints and opens only what belongs to it. -/
theorem exists_ran (c : RunConfig) (limit : Binary64) (colours : Bool)
    (hcases : ∀ case ∈ cases, case.Tame) (hw : w.RaisesOnly Fault.Ordinary)
    (hlimit : w.limit = none) :
    ∃ entries w', Ran c limit colours w cases entries w' ∧
      w'.printed = w.printed ++ entries.flatMap (Console.entryLines colours) ∧
      w'.endpoints.length ≤ w.endpoints.length + TestCase.opensInAll cases := by
  induction cases generalizing w with
  | nil => exact ⟨[], w, .nothing w, (List.append_nil _).symm, Nat.le_refl _⟩
  | cons case cases ih =>
    obtain ⟨outcome, w₁, hcase, hleft, hquiet⟩ :=
      exists_outcome (hcases case List.mem_cons_self) c limit hw hlimit
    have hprinting : (w₁.printing (Console.entryLines colours ⟨case.name, outcome⟩)).RaisesOnly
        Fault.Ordinary := { hleft with }
    obtain ⟨entries, w', hran, hprinted, hendpoints⟩ :=
      ih (fun k hk => hcases k (List.mem_cons_of_mem _ hk)) hprinting (hquiet.limit hlimit)
    refine ⟨_, w', .next hcase hran, ?_, ?_⟩
    · rw [hprinted, World.printing, hquiet.printed, List.append_assoc]
      rfl
    · have hone := hquiet.endpoints
      have hmany : w'.endpoints.length ≤ w₁.endpoints.length + TestCase.opensInAll cases :=
        hendpoints
      rw [TestCase.opensInAll]
      omega

/-- The entries carry the names of the cases, in order. -/
theorem Ran.names (hran : Ran c limit colours w cases entries w') :
    entries.map (·.name) = cases.map (·.name) := by
  induction hran with
  | nothing w => rfl
  | next ends rest ih => rw [List.map_cons, List.map_cons, ih]

/-- The runner runs its cases, and reports their entries. -/
theorem Ran.runCases_eq (hran : Ran c limit colours w cases entries w') (earlier : List Entry) :
    runCases c limit (fun e => printAll (Console.entryLines colours e)) cases ⟨earlier, false⟩ w =
      (.done ⟨earlier ++ entries, true⟩, w') := by
  induction hran generalizing earlier with
  | nothing w =>
    rw [List.append_nil]
    rfl
  | @next w w₁ w₂ case cases outcome entries ends rest ih =>
    rw [runCases_cons_done ends, ih, List.append_assoc]
    rfl

/-- Cases that were run to a report are run one after the other, and their entries are those that
the report has more than before. -/
theorem exists_ran_of_runCases {earlier : List Entry} {report : Report}
    (h : runCases c limit (fun e => printAll (Console.entryLines colours e)) cases
      ⟨earlier, false⟩ w = (.done report, w')) :
    ∃ entries, report = ⟨earlier ++ entries, true⟩ ∧ Ran c limit colours w cases entries w' := by
  induction cases generalizing earlier w with
  | nil =>
    cases h
    exact ⟨[], by rw [List.append_nil]; rfl, .nothing _⟩
  | cons case cases ih =>
    obtain ⟨outcome, w₁, hcase, -⟩ := exists_of_bind_done h
    rw [runCases_cons_done hcase] at h
    obtain ⟨entries, rfl, hran⟩ := ih h
    exact ⟨_, by rw [List.append_assoc]; rfl, .next hcase hran⟩

/-- Cases that print nothing themselves leave behind what was printed, and their entries. -/
theorem Ran.printed (hran : Ran c limit colours w cases entries w')
    (hquiet : ∀ case ∈ cases, Leaves (·.printed) (case.run c)) :
    w'.printed = w.printed ++ entries.flatMap (Console.entryLines colours) := by
  induction hran with
  | nothing w => exact (List.append_nil _).symm
  | @next w w₁ w₂ case cases outcome entries ends rest ih =>
    obtain ⟨hcase, hcases⟩ := List.forall_mem_cons.mp hquiet
    have hprinted : w₁.printed = w.printed := by
      have hleft := hcase.within (untimed_of_eq fun _ _ _ _ _ _ _ => rfl) limit w
      rwa [← runCase_snd, ends] at hleft
    rw [ih hcases, World.printing, hprinted, List.append_assoc]
    rfl

end Run

end TimeProbe

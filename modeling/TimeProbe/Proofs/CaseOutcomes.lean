import TimeProbe.Proofs.HeededLimits
import TimeProbe.Runner

/-!
# One outcome for every case

However a case ends, it gets one outcome: it passes exactly if it returns before its timeout has
passed, or just as it passes, and only a case that said so itself is reported as failed or as
skipped. So a run over a registry comes to a finalized report with one entry for each case, in
order, and shows every entry as soon as its case has ended.
-/

namespace TimeProbe

namespace FaultKind

/-- No kind is a special case of a skipped test. -/
theorem isA_testSkipped_iff {kind : FaultKind} :
    kind.isA .testSkipped = true ↔ kind = .testSkipped := by
  cases kind <;> decide

/-- No kind is a special case of a failed test. -/
theorem isA_testFailure_iff {kind : FaultKind} :
    kind.isA .testFailure = true ↔ kind = .testFailure := by
  cases kind <;> decide

end FaultKind

/-- A fault whose first argument, if it has one, is a text or is left out. -/
def Fault.GivesText (f : Fault) : Prop :=
  ∀ argument ∈ f.arguments.head?, argument = .absent ∨ ∃ reason, argument = .text reason

/-- A fault that a case may end with: it is not the user's interrupt, and the verdict of a test
gives its reason as a text. -/
structure Fault.Raisable (f : Fault) : Prop where
  exception : f.kind.isA .other = true
  givesText : f.kind = .testSkipped ∨ f.kind = .testFailure → f.GivesText

namespace Outcome

/-- The outcome of a case that was run within a timeout and ended in this way. It is passed,
skipped or failed exactly if the case ended well, was skipped or failed by its own verdict, and
errored in every other situation. The verdict's reason is kept, and what a failure shows. -/
structure Judges (outcome : Outcome) (ending : Ending (Option Unit)) : Prop where
  passed : outcome.kind = .passed ↔ ending = .done (some ())
  skipped : outcome.kind = .skipped ↔ ∃ f, ending = .failed f ∧ f.kind = .testSkipped
  failed : outcome.kind = .failed ↔ ∃ f, ending = .failed f ∧ f.kind = .testFailure
  errored : outcome.kind = .errored ↔ ending ≠ .done (some ()) ∧
    ∀ f, ending = .failed f → f.kind ≠ .testSkipped ∧ f.kind ≠ .testFailure
  reason : ∀ f, ending = .failed f → f.kind = .testSkipped ∨ f.kind = .testFailure →
    reasonOf f = .ok outcome.reason
  detail : ∀ f, ending = .failed f → f.kind = .testFailure →
    outcome.detail = describeResponse f.response

/-- The reason of a verdict is a text or is left out. -/
theorem exists_reasonOf {f : Fault} (h : f.GivesText) : ∃ reason, reasonOf f = .ok reason := by
  rw [reasonOf]
  cases harguments : f.arguments with
  | nil => exact ⟨_, rfl⟩
  | cons argument arguments =>
    rw [Fault.GivesText, harguments] at h
    rcases h argument rfl with rfl | ⟨reason, rfl⟩
    · exact ⟨_, rfl⟩
    · exact ⟨_, rfl⟩

/-- A case that ended well is passed. -/
theorem judges_passed : passed.Judges (.done (some ())) := by
  refine ⟨?_, ?_, ?_, ?_, ?_, ?_⟩ <;> simp [passed]

/-- A case that was not done in time is an error. -/
theorem judges_unfinished (limit : Binary64) : (unfinished limit).Judges (.done none) := by
  refine ⟨?_, ?_, ?_, ?_, ?_, ?_⟩ <;> simp [unfinished, Outcome.errored]

/-- A fault that is no verdict is an error. -/
theorem judges_errored (cause : String) {f : Fault}
    (hskipped : f.kind ≠ .testSkipped) (hfailure : f.kind ≠ .testFailure) :
    (Outcome.errored cause).Judges (.failed f) := by
  refine ⟨?_, ?_, ?_, ?_, ?_, ?_⟩ <;> simp [Outcome.errored, hskipped, hfailure]

/-- A fault that a case may end with decides one outcome. -/
theorem exists_judges_ofFault {f : Fault} (hf : f.Raisable) (limit : Binary64) :
    ∃ outcome, ofFault limit f = .ok outcome ∧ outcome.Judges (.failed f) := by
  by_cases hskipped : f.kind = .testSkipped
  · obtain ⟨reason, hreason⟩ := exists_reasonOf (hf.givesText (.inl hskipped))
    refine ⟨{ kind := .skipped, reason }, ?_, ?_⟩
    · rw [ofFault, if_pos (FaultKind.isA_testSkipped_iff.mpr hskipped), hreason]
      rfl
    · refine ⟨?_, ?_, ?_, ?_, ?_, ?_⟩ <;> simp [hskipped, hreason]
  by_cases hfailure : f.kind = .testFailure
  · obtain ⟨reason, hreason⟩ := exists_reasonOf (hf.givesText (.inr hfailure))
    refine ⟨{ kind := .failed, reason, detail := describeResponse f.response }, ?_, ?_⟩
    · rw [ofFault, if_neg (mt FaultKind.isA_testSkipped_iff.mp hskipped),
        if_pos (FaultKind.isA_testFailure_iff.mpr hfailure), hreason]
      rfl
    · refine ⟨?_, ?_, ?_, ?_, ?_, ?_⟩ <;> simp [hfailure, hreason]
  · rw [ofFault, if_neg (mt FaultKind.isA_testSkipped_iff.mp hskipped),
      if_neg (mt FaultKind.isA_testFailure_iff.mp hfailure), if_pos hf.exception]
    split
    · exact ⟨_, rfl, judges_errored _ hskipped hfailure⟩
    · exact ⟨_, rfl, judges_errored _ hskipped hfailure⟩

/-- A fault that decides an outcome is a verdict, which skips or fails the case, or it means that
the case was not done in time, or the case is an error that is put down to it. -/
theorem cases_of_ofFault {f : Fault} {limit : Binary64} {outcome : Outcome}
    (h : ofFault limit f = .ok outcome) :
    outcome.kind = .skipped ∨ outcome.kind = .failed ∨ outcome = unfinished limit ∨
      outcome = Outcome.errored (f.kind.name ++ ": " ++ f.message) := by
  have hverdict (kind : OutcomeKind) (detail : Option String)
      (h : (do return { kind, reason := ← reasonOf f, detail } : Except Fault Outcome) =
        .ok outcome) : outcome.kind = kind := by
    cases hreason : reasonOf f with
    | ok reason =>
      rw [hreason] at h
      cases h
      rfl
    | error e =>
      rw [hreason] at h
      cases h
  rw [ofFault] at h
  split at h
  · exact .inl (hverdict .skipped none h)
  split at h
  · exact .inr (.inl (hverdict .failed _ h))
  split at h
  · cases h
    exact .inr (.inr (.inl rfl))
  split at h
  · cases h
    exact .inr (.inr (.inr rfl))
  · cases h

end Outcome

namespace Run

variable {c : RunConfig} {limit : Binary64} {onResult : Entry → Run Unit}

/-- A case that does not end with a fault that it may not end with has an outcome, which judges how
it ended. -/
theorem exists_judges_runCase (limit : Binary64) {case : TestCase} {w : World}
    (hcase : ∀ f, (within limit (case.run c) w).1 = .failed f → f.Raisable)
    (hended : (within limit (case.run c) w).1.isCutOff = false) :
    ∃ ending outcome w₁, within limit (case.run c) w = (ending, w₁) ∧ outcome.Judges ending ∧
      runCase c limit case w = (.done outcome, w₁) := by
  rcases hrun : within limit (case.run c) w with ⟨ending, w₁⟩
  rw [hrun] at hended hcase
  cases ending with
  | done result =>
    cases result with
    | none =>
      refine ⟨_, _, w₁, rfl, Outcome.judges_unfinished limit, ?_⟩
      rw [runCase, bind_done (attempt_done hrun)]
      rfl
    | some _ =>
      refine ⟨_, _, w₁, rfl, Outcome.judges_passed, ?_⟩
      rw [runCase, bind_done (attempt_done hrun)]
      rfl
  | failed f =>
    obtain ⟨outcome, houtcome, hjudges⟩ := Outcome.exists_judges_ofFault (hcase f rfl) limit
    refine ⟨_, outcome, w₁, rfl, hjudges, ?_⟩
    rw [runCase, bind_done (attempt_failed hrun)]
    dsimp only
    rw [houtcome]
    rfl
  | cutOff => cases hended

end Run

/-- The world in which a step with a timeout starts where there are no limits. -/
def World.under (w : World) (timeout : Binary64) : World :=
  { w with limits := [w.now.afterTimeout timeout] }

/-- The timeout of a step has not passed when it starts. -/
theorem World.timely_under (w : World) (timeout : Binary64) : (w.under timeout).Timely := by
  refine ⟨fun limit hlimit => ?_, List.pairwise_singleton _ _⟩
  rw [List.mem_singleton.mp hlimit]
  exact w.now.before_afterTimeout timeout

/-- A moment has not come yet in a world that was reached from another one, or it came just as a
wait got what it waited for, and was overlooked. -/
def World.Meets (w u : World) (stop : Moment) : Prop :=
  u.now.before stop = true ∨ ∃ m ∈ u.overlooked.drop w.overlooked.length, m.time = stop.time

namespace Run

variable {α : Type} {x : Run α} {w : World}

/-- How a step with a timeout ends in a world without limits, and the world that it leaves. The
timeout may have passed in advance. Else the step runs under the limit that the timeout sets. It
ends by itself before that moment comes, or just as it comes, or that moment cuts it off. -/
inductive EndsIn (timeout : Binary64) (x : Run α) (w : World) : Ending (Option α) → World → Prop
  | inAdvance (hpassed : (!timeout.isNaN && !timeout.isPositive) = true) :
      EndsIn timeout x w (.done none) w
  | done {a : α} {u : World} (hstarts : (!timeout.isNaN && !timeout.isPositive) = false)
      (hrun : x (w.under timeout) = (.done a, u))
      (hmeets : w.Meets u (w.now.afterTimeout timeout)) :
      EndsIn timeout x w (.done (some a)) { u with limits := [] }
  | failed {f : Fault} {u : World} (hstarts : (!timeout.isNaN && !timeout.isPositive) = false)
      (hrun : x (w.under timeout) = (.failed f, u))
      (hmeets : w.Meets u (w.now.afterTimeout timeout)) :
      EndsIn timeout x w (.failed f) { u with limits := [] }
  | cutOff {u : World} (hstarts : (!timeout.isNaN && !timeout.isPositive) = false)
      (hrun : x (w.under timeout) = (.cutOff, u))
      (hlate : u.now.before (w.now.afterTimeout timeout) = false) :
      EndsIn timeout x w (.done none) { u with limits := [] }

/-- A step that heeds its timeout and is not cut off meets it. -/
theorem HeedsAt.meets {endless : Prop} {timeout : Binary64}
    (hx : HeedsAt endless x (w.under timeout)) (hended : (x (w.under timeout)).1.isCutOff = false) :
    w.Meets (x (w.under timeout)).2 (w.now.afterTimeout timeout) := by
  obtain ⟨helapses, hending⟩ := hx
  obtain ⟨more, hmore, hgone⟩ := helapses.overlooked
  have htimely : (x (w.under timeout)).2.Timely := by
    cases hrun : (x (w.under timeout)).1 with
    | done a => rwa [hrun] at hending
    | failed f => rwa [hrun] at hending
    | cutOff =>
      rw [hrun] at hended
      cases hended
  rcases hgone (w.now.afterTimeout timeout) List.mem_cons_self with hleft | ⟨m, hm, htime, -⟩
  · exact .inl (htimely.ahead _ hleft)
  · refine .inr ⟨m, ?_, htime⟩
    rw [hmore, show (w.under timeout).overlooked = w.overlooked from rfl, List.drop_left]
    exact hm

/-- A timeout that was set where there is no limit is taken away behind a step that heeds it. If the
step was cut off, it was by this timeout. -/
theorem HeedsAt.under {timeout : Binary64} (hx : HeedsAt False x (w.under timeout)) :
    let stop := w.now.afterTimeout timeout
    let u := (x (w.under timeout)).2
    u.replacingLimit (some stop) none = { u with limits := [] } ∧
      ((x (w.under timeout)).1.isCutOff = true →
        u.limit = some stop ∧ u.now.before stop = false) := by
  obtain ⟨helapses, hending⟩ := hx
  have hlimits := helapses.limits
  rw [show (w.under timeout).limits = [w.now.afterTimeout timeout] from rfl] at hlimits
  generalize w.now.afterTimeout timeout = stop at hlimits ⊢
  rcases hrun : x (w.under timeout) with ⟨ending, u⟩
  rw [hrun] at hlimits hending
  dsimp only at hlimits hending ⊢
  have hleft : u.limits = [] ∨ u.limits = [stop] := by
    rcases List.sublist_cons_iff.mp hlimits with hnone | ⟨kept, hkept, hnone⟩
    · exact .inl (List.sublist_nil.mp hnone)
    · rw [hkept, List.sublist_nil.mp hnone]
      exact .inr rfl
  refine ⟨?_, fun hcut => ?_⟩
  · rcases hleft with hnone | hstop
    · have hne : u.limit ≠ some stop := by
        rw [World.limit, hnone]
        rintro ⟨⟩
      rw [World.replacingLimit_of_ne hne, ← hnone]
    · exact World.replacingLimit_of_eq hstop none
  · cases ending with
    | done a => cases hcut
    | failed f => cases hcut
    | cutOff =>
      rcases hleft with hnone | hstop
      · exact (hending.bounded hnone).elim
      · have hlimit : u.limit = some stop := by
          rw [World.limit, hstop]
          rfl
        exact ⟨hlimit, hending.reached stop hlimit⟩

/-- **A timeout is kept.** Where there are no limits, a step that comes to an end under one ends in
its timeout. -/
theorem endsIn_within (timeout : Binary64) (hx : Bounded x) (hlimits : w.limits = []) :
    EndsIn timeout x w (within timeout x w).1 (within timeout x w).2 := by
  cases hstarts : !timeout.isNaN && !timeout.isPositive with
  | true =>
    rw [within_passed hstarts]
    exact .inAdvance hstarts
  | false =>
    have hheeds := hx _ (w.timely_under timeout) (List.cons_ne_nil _ _)
    have hended := hheeds.meets
    obtain ⟨hback, hcut⟩ := hheeds.under
    rw [within_unlimited hlimits hstarts]
    dsimp only
    rw [← World.under]
    rcases hrun : x (w.under timeout) with ⟨ending, u⟩
    rw [hrun] at hback hended hcut
    cases ending with
    | done a =>
      dsimp only
      rw [hback]
      exact .done hstarts hrun (hended rfl)
    | failed f =>
      dsimp only
      rw [hback]
      exact .failed hstarts hrun (hended rfl)
    | cutOff =>
      obtain ⟨hlimit, hlate⟩ := hcut rfl
      dsimp only
      rw [if_pos hlimit, hback]
      exact .cutOff hstarts hrun hlate

/-- A step that ends in its timeout is not cut off by anything else, and its faults are those of the
step itself. -/
theorem EndsIn.ended {timeout : Binary64} {ending : Ending (Option α)} {w' : World}
    (h : EndsIn timeout x w ending w') :
    ending.isCutOff = false ∧ (w.limits = [] → w'.limits = []) ∧
      ∀ f, ending = .failed f → ∃ v v', x v = (.failed f, v') := by
  cases h with
  | inAdvance _ => exact ⟨rfl, id, nofun⟩
  | done _ _ _ => exact ⟨rfl, fun _ => rfl, nofun⟩
  | failed _ hrun _ =>
    refine ⟨rfl, fun _ => rfl, ?_⟩
    rintro _ ⟨⟩
    exact ⟨_, _, hrun⟩
  | cutOff _ _ _ => exact ⟨rfl, fun _ => rfl, nofun⟩

/-- Cases that were run one after the other and reported at once. Each one ends in its timeout, in
the world that is left of the one before it, its outcome judges how it ended there, and its entry is
shown once before the next case is run. -/
inductive Reported (c : RunConfig) (limit : Binary64) (onResult : Entry → Run Unit) :
    World → List TestCase → List Entry → World → Prop
  | nothing (w : World) : Reported c limit onResult w [] [] w
  | next {w w₁ w₂ w₃ : World} {case : TestCase} {cases : List TestCase}
      {ending : Ending (Option Unit)} {outcome : Outcome} {entries : List Entry}
      (ends : EndsIn limit (case.run c) w ending w₁) (judges : outcome.Judges ending)
      (shown : onResult ⟨case.name, outcome⟩ w₁ = (.done (), w₂))
      (rest : Reported c limit onResult w₂ cases entries w₃) :
      Reported c limit onResult w (case :: cases) (⟨case.name, outcome⟩ :: entries) w₃

/-- The entries carry the names of the cases, in order. -/
theorem Reported.names {w w' : World} {cases : List TestCase} {entries : List Entry}
    (h : Reported c limit onResult w cases entries w') :
    entries.map (·.name) = cases.map (·.name) := by
  induction h with
  | nothing w => rfl
  | next ends judges shown rest ih => rw [List.map_cons, List.map_cons, ih]

end Run

end TimeProbe

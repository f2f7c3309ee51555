import TimeProbe.Network.Run

/-!
# Steps in a row

A step that ended decides how a row of steps goes on: a result is handed to the next step
in the world that is left, and a fault or a passed limit ends the row in that world. A
clean-up follows whatever the end was, and behind a step that was cut off it runs without
the limit that did it.
-/

namespace TimeProbe

/-- Replacing a limit changes no more than the limits. -/
theorem World.exists_replacingLimit (w : World) (expected other : Option Moment) :
    ∃ limits, w.replacingLimit expected other = { w with limits } := by
  rw [replacingLimit]
  split
  · exact ⟨_, rfl⟩
  · exact ⟨w.limits, rfl⟩

/-- A limit that is not the one expected stays. -/
theorem World.replacingLimit_of_ne {w : World} {expected other : Option Moment}
    (h : w.limit ≠ expected) : w.replacingLimit expected other = w := by
  rw [replacingLimit, if_neg h]

/-- A limit that is replaced by itself stays. -/
theorem World.replacingLimit_self (w : World) (limit : Option Moment) :
    w.replacingLimit limit limit = w := by
  rw [replacingLimit]
  split
  next h =>
    have hlimits : limit.toList ++ w.limits.tail = w.limits := by
      rw [← h, World.limit]
      cases w.limits <;> rfl
    rw [hlimits]
  next => rfl

/-- Overlooking no limit changes nothing. -/
@[simp] theorem World.overlooking_zero (w : World) : w.overlooking 0 = w := by
  simp [overlooking]

/-- The limit that is expected is replaced. -/
theorem World.replacingLimit_of_eq {w : World} {limit : Moment} {others : List Moment}
    (h : w.limits = limit :: others) (other : Option Moment) :
    w.replacingLimit (some limit) other = { w with limits := other.toList ++ others } := by
  rw [replacingLimit, World.limit, h]
  exact if_pos rfl

namespace Run

variable {α β : Type} {x : Run α} {w w' : World}

/-- A row goes on with the result of its first step. -/
theorem bind_done {a : α} (h : x w = (.done a, w')) (next : α → Run β) :
    (x >>= next) w = next a w' := by
  simp only [Bind.bind, Run.bind, h]

/-- A row ends with the fault of its first step. -/
theorem bind_failed {f : Fault} (h : x w = (.failed f, w')) (next : α → Run β) :
    (x >>= next) w = (.failed f, w') := by
  simp only [Bind.bind, Run.bind, h]

/-- A row is cut off with its first step. -/
theorem bind_cutOff (h : x w = (.cutOff, w')) (next : α → Run β) :
    (x >>= next) w = (.cutOff, w') := by
  simp only [Bind.bind, Run.bind, h]

/-- Rows that begin in the same way go on in the same way. -/
theorem bind_congr {y : Run α} (h : x w = y w') (next : α → Run β) :
    (x >>= next) w = (y >>= next) w' := by
  simp only [Bind.bind, Run.bind, h]

/-- A row has a result only if its first step has one and the rest makes the row's result of it. -/
theorem exists_of_bind_done {b : β} {next : α → Run β} (h : (x >>= next) w = (.done b, w')) :
    ∃ a w₁, x w = (.done a, w₁) ∧ next a w₁ = (.done b, w') := by
  rcases hrun : x w with ⟨ending, w₁⟩
  cases ending with
  | done a => exact ⟨a, w₁, rfl, (bind_done hrun next).symm.trans h⟩
  | failed f =>
    rw [bind_failed hrun] at h
    cases h
  | cutOff =>
    rw [bind_cutOff hrun] at h
    cases h

/-- A computation with a result was free of faults and left the world alone. -/
theorem eq_ok_of_ofExcept {r : Except Fault α} {a : α} (h : ofExcept r w = (.done a, w')) :
    r = .ok a ∧ w' = w := by
  cases r with
  | ok b =>
    cases h
    exact ⟨rfl, rfl⟩
  | error f => cases h

/-- A result is handed on as one. -/
theorem attempt_done {a : α} (h : x w = (.done a, w')) : attempt x w = (.done (.ok a), w') := by
  simp only [attempt, h]

/-- A fault is handed on as a result. -/
theorem attempt_failed {f : Fault} (h : x w = (.failed f, w')) :
    attempt x w = (.done (.error f), w') := by
  simp only [attempt, h]

/-- A passed limit is not held up. -/
theorem attempt_cutOff (h : x w = (.cutOff, w')) : attempt x w = (.cutOff, w') := by
  simp only [attempt, h]

/-- Catching a fault leaves the world as the step does. -/
theorem snd_attempt (x : Run α) (w : World) : (attempt x w).2 = (x w).2 := by
  rcases hrun : x w with ⟨ending, v⟩
  cases ending with
  | done a => rw [attempt_done hrun]
  | failed f => rw [attempt_failed hrun]
  | cutOff => rw [attempt_cutOff hrun]

/-- What leaves the world alone leaves it behind a step as the step does. -/
theorem snd_bind_of_still {next : α → Run β} (hstill : ∀ a v, (next a v).2 = v) (x : Run α)
    (w : World) : ((x >>= next) w).2 = (x w).2 := by
  rcases hrun : x w with ⟨ending, v⟩
  cases ending with
  | done a => rw [bind_done hrun, hstill]
  | failed f => rw [bind_failed hrun]
  | cutOff => rw [bind_cutOff hrun]

/-- A row that begins with a caught step has a result only if what follows makes it of the result
or of the fault of that step. -/
theorem exists_of_attempt_bind_done {b : β} {next : Except Fault α → Run β}
    (h : (attempt x >>= next) w = (.done b, w')) :
    (∃ a w₁, x w = (.done a, w₁) ∧ next (.ok a) w₁ = (.done b, w')) ∨
      ∃ f w₁, x w = (.failed f, w₁) ∧ next (.error f) w₁ = (.done b, w') := by
  rcases hrun : x w with ⟨ending, w₁⟩
  cases ending with
  | done a =>
    rw [bind_done (attempt_done hrun)] at h
    exact .inl ⟨a, w₁, rfl, h⟩
  | failed f =>
    rw [bind_done (attempt_failed hrun)] at h
    exact .inr ⟨f, w₁, rfl, h⟩
  | cutOff =>
    rw [bind_cutOff (attempt_cutOff hrun)] at h
    cases h

/-- Catching a fault and doing nothing else is catching it. -/
theorem attempt_bind_pure (x : Run α) : (attempt x >>= pure) = attempt x := by
  funext w
  rcases hrun : x w with ⟨ending, w₁⟩
  cases ending with
  | done a => rw [bind_done (attempt_done hrun), attempt_done hrun]; rfl
  | failed f => rw [bind_done (attempt_failed hrun), attempt_failed hrun]; rfl
  | cutOff => rw [bind_cutOff (attempt_cutOff hrun), attempt_cutOff hrun]

/-- Drawing hands out the result and keeps the source for the next draw. -/
theorem drawing_eq {draws : Entropy → α × Entropy} {a : α} {e : Entropy}
    (h : draws w.entropy = (a, e)) : drawing draws w = (.done a, { w with entropy := e }) := by
  simp only [drawing, h]

section Cleanup

variable {cleanup : Run Unit}

/-- A clean-up that goes well leaves the end of a step that was not cut off. -/
theorem ensuring_of_ended {ending : Ending α} {w₁ : World} (h : x w = (ending, w₁))
    (hended : ending.isCutOff = false) (hclean : cleanup w₁ = (.done (), w')) :
    ensuring x cleanup w = (ending, w') := by
  simp only [ensuring, h, hended, Bool.false_eq_true, if_false, hclean]

/-- A step that is followed by a clean-up has a result only if it has one by itself, and the
clean-up goes well. -/
theorem exists_of_ensuring_done {a : α} (h : ensuring x cleanup w = (.done a, w')) :
    ∃ w₁, x w = (.done a, w₁) ∧ cleanup w₁ = (.done (), w') := by
  rcases hrun : x w with ⟨ending, w₁⟩
  rw [ensuring, hrun] at h
  dsimp only at h
  split at h
  next _ v hclean =>
    cases h
    exact ⟨w₁, rfl, hclean⟩
  next => cases h
  next => cases h

end Cleanup

section Limits

variable {timeout : Binary64}

/-- A timeout that is zero or less passes before the step starts. -/
theorem within_passed (h : (!timeout.isNaN && !timeout.isPositive) = true) :
    within timeout x w = (.done none, w) := by
  rw [within, if_pos h]

/-- A step within a timeout does not start, or it runs under some limits. Then what it leaves is
left, limits apart, and a result or a fault is one of the step. -/
theorem within_cases (timeout : Binary64) (x : Run α) (w : World) :
    within timeout x w = (.done none, w) ∨
    ∃ limits limits' overlooked,
      (within timeout x w).2 = { (x { w with limits }).2 with limits := limits', overlooked } ∧
      (∀ a, (within timeout x w).1 = .done (some a) → (x { w with limits }).1 = .done a) ∧
      ∀ f, (within timeout x w).1 = .failed f → (x { w with limits }).1 = .failed f := by
  rw [within]
  split
  · exact .inl rfl
  refine .inr ?_
  dsimp only
  split
  · obtain ⟨limits, hlimits⟩ := w.exists_replacingLimit w.limit (w.limit.map Moment.felt)
    refine ⟨limits, ?_⟩
    rw [waiting, hlimits]
    rcases x { w with limits } with ⟨ending, v⟩
    obtain ⟨back, hback⟩ := v.exists_replacingLimit (w.limit.map Moment.felt) w.limit
    obtain ⟨limits', overlooked, hserved⟩ : ∃ limits' overlooked,
        (v.replacingLimit (w.limit.map Moment.felt) w.limit).served =
          { v with limits := limits', overlooked } := by
      rw [hback]
      exact ⟨_, _, rfl⟩
    cases ending with
    | done a => exact ⟨limits', overlooked, hserved, fun _ h => by cases h; rfl, nofun⟩
    | failed f => exact ⟨limits', overlooked, hserved, nofun, fun _ h => by cases h; rfl⟩
    | cutOff => exact ⟨back, v.overlooked, hback, nofun, nofun⟩
  · refine ⟨w.now.afterTimeout timeout :: w.limits, ?_⟩
    rcases x { w with limits := w.now.afterTimeout timeout :: w.limits } with ⟨ending, v⟩
    obtain ⟨back, hback⟩ := v.exists_replacingLimit (some (w.now.afterTimeout timeout)) none
    cases ending with
    | done a => exact ⟨back, v.overlooked, hback, fun _ h => by cases h; rfl, nofun⟩
    | failed f => exact ⟨back, v.overlooked, hback, nofun, fun _ h => by cases h; rfl⟩
    | cutOff =>
      refine ⟨back, v.overlooked, hback, ?_, ?_⟩
      · dsimp only
        split <;> nofun
      · dsimp only
        split <;> nofun

/-- A step within a timeout ends under some limits as it does within the timeout, unless it is cut
off. -/
theorem exists_of_within (timeout : Binary64) (x : Run α) (w : World) :
    (∀ a, (within timeout x w).1 = .done (some a) →
      ∃ limits v, x { w with limits } = (.done a, v)) ∧
    ∀ f, (within timeout x w).1 = .failed f → ∃ limits v, x { w with limits } = (.failed f, v) := by
  rcases within_cases timeout x w with hnone | ⟨limits, _, _, -, hdone, hfailed⟩
  · rw [hnone]
    exact ⟨nofun, nofun⟩
  · exact ⟨fun a h => ⟨limits, _, Prod.ext (hdone a h) rfl⟩,
      fun f h => ⟨limits, _, Prod.ext (hfailed f h) rfl⟩⟩

/-- Where nothing else bounds a step, a timeout that has not passed in advance gives it a limit of
its own. If that limit cuts it off there is no result, and in any case the limit is taken away. -/
theorem within_unlimited (hlimits : w.limits = [])
    (hstarts : (!timeout.isNaN && !timeout.isPositive) = false) :
    within timeout x w =
      (let own := w.now.afterTimeout timeout
      match x { w with limits := [own] } with
      | (.done a, v) => (.done (some a), v.replacingLimit (some own) none)
      | (.failed f, v) => (.failed f, v.replacingLimit (some own) none)
      | (.cutOff, v) =>
        (if v.limit = some own then .done none else .cutOff,
          v.replacingLimit (some own) none)) := by
  have hopen : w.limit.any (·.time ≤ (w.now.afterTimeout timeout).time) = false := by
    rw [World.limit, hlimits]
    rfl
  rcases hx : x { w with limits := [w.now.afterTimeout timeout] } with ⟨ending, v⟩
  cases ending <;>
    simp only [within, hstarts, hopen, hlimits, hx, Bool.false_eq_true, if_false]

end Limits

end Run

end TimeProbe

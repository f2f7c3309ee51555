import TimeProbe.Proofs.ClosingTime
import TimeProbe.Proofs.RunSteps
import TimeProbe.Runner

/-!
# Cases that are refused at once

A case whose connection is refused at once ends with the fault of the refusal: its body does not
run, and the world stays as it is, but for a limit around the case whose time has come, which is
overlooked. All it takes is a timeout that lets a case start, and the timeout of a valid
configuration does.
-/

namespace TimeProbe

/-- Whether a step within a timeout starts at all: it does unless the timeout is zero or less. -/
def Binary64.letsStart (timeout : Binary64) : Bool := timeout.isNaN || timeout.isPositive

/-- A timeout that lets a step start is not one that has passed in advance. -/
theorem Binary64.letsStart_eq (timeout : Binary64) :
    timeout.letsStart = !(!timeout.isNaN && !timeout.isPositive) := by
  rw [letsStart, Bool.not_and, Bool.not_not, Bool.not_not]

/-- The outcome of a case that is refused with a fault that decides this one; where the timeout lets
no case start, it is that of a case that was not done in time. -/
def Outcome.startedOr (refused : Outcome) (limit : Binary64) : Outcome :=
  if limit.letsStart then refused else .unfinished limit

/-- Where no limit's time has come, a wait overlooks none. -/
theorem World.served_of_open {w : World} (hopen : w.limit.any (·.time ≤ w.now.time) = false) :
    w.served = w := by
  rw [served, hopen]
  exact w.overlooking_zero

namespace Run

variable {α β : Type} {x : Run α} {f : Fault} {w : World}

/-- A step that ends with a fault at once, whatever the limits are, and changes nothing. -/
def Refuses (x : Run α) (f : Fault) (w : World) : Prop :=
  ∀ limits, x { w with limits } = (.failed f, { w with limits })

/-- A wait for what is refused overlooks a limit whose time has come, and changes nothing else. -/
theorem Refuses.waiting (hx : Refuses x f w) : waiting x w = (.failed f, w.served) := by
  rw [Run.waiting]
  cases hlimits : w.limits with
  | nil =>
    have hlimit : w.limit = none := by rw [World.limit, hlimits]; rfl
    have hself : x w = (.failed f, w) := hx w.limits
    simp only [hlimit, Option.map_none, World.replacingLimit_self, hself]
  | cons limit others =>
    have hlimit : w.limit = some limit := by rw [World.limit, hlimits]; rfl
    have hback : { w with limits := limit.felt :: others }.replacingLimit limit.felt limit = w := by
      rw [World.replacingLimit_of_eq rfl]
      exact congrArg (fun limits => { w with limits }) hlimits.symm
    rw [hlimit, Option.map_some, World.replacingLimit_of_eq hlimits]
    dsimp only [Option.toList_some, List.singleton_append]
    rw [hx]
    dsimp only
    rw [hback]

/-- A refusal comes before a timeout passes, if the timeout lets the step start. -/
theorem Refuses.within (hx : Refuses x f w) {timeout : Binary64}
    (hstart : timeout.letsStart = true) : within timeout x w = (.failed f, w.served) := by
  rw [Binary64.letsStart_eq, Bool.not_eq_true'] at hstart
  rw [Run.within, hstart, if_neg Bool.false_ne_true]
  dsimp only
  split
  · rw [hx.waiting]
  next hlater =>
    -- The limits around the step pass behind its own, so that none of them has been reached.
    have hopen : w.limit.any (·.time ≤ w.now.time) = false := by
      have hown := Moment.before_iff.mp (w.now.before_afterTimeout timeout)
      cases hlimit : w.limit with
      | none => rfl
      | some limit =>
        rw [hlimit, Option.any_some, decide_eq_true_eq] at hlater
        exact decide_eq_false (by omega)
    rw [hx]
    dsimp only
    rw [World.replacingLimit_of_eq rfl, World.served_of_open hopen]
    rfl

/-- A case that is refused has the outcome that the fault decides, and no more than a limit whose
time has come is overlooked. -/
theorem Refuses.runCase {c : RunConfig} {case : TestCase} {outcome : Outcome}
    (hcase : Refuses (case.run c) f w) {limit : Binary64}
    (houtcome : Outcome.ofFault limit f = .ok outcome) :
    runCase c limit case w =
      (.done (outcome.startedOr limit), if limit.letsStart then w.served else w) := by
  cases hstart : limit.letsStart with
  | false =>
    have hwithin : Run.within limit (case.run c) w = (.done none, w) := by
      rw [Binary64.letsStart_eq, Bool.not_eq_false'] at hstart
      exact within_passed hstart
    rw [Run.runCase, bind_done (attempt_done hwithin), Outcome.startedOr, hstart]
    rfl
  | true =>
    rw [Run.runCase, bind_done (attempt_failed (hcase.within hstart)), Outcome.startedOr, hstart]
    dsimp only
    rw [houtcome]
    rfl

end Run

end TimeProbe

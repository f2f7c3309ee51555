import TimeProbe.Network.World

/-!
# Steps of a run

A step changes the world and ends with a result, with a fault, or because time is
up: the limit set by an enclosing step passed while it waited. A step that is cut off
cannot catch that, but clean-up still runs. `within` bounds a step; of two limits
that pass at the same time the outer one counts. What a wait is there for may come just
as a limit set around the wait passes. It is taken then, and the limit is overlooked.
-/

namespace TimeProbe

/-- How a step ends. -/
inductive Ending (α : Type)
  | done (a : α)
  | failed (f : Fault)
  /-- The limit passed while the step waited. -/
  | cutOff

namespace Ending

/-- Whether a step was cut off. -/
def isCutOff {α : Type} : Ending α → Bool
  | done _ => false
  | failed _ => false
  | cutOff => true

end Ending

/-- A step of a run. -/
def Run (α : Type) : Type := World → Ending α × World

namespace World

/-- The moment by which the step going on has to end, if there is one. -/
def limit (w : World) : Option Moment := w.limits.head?

/-- Whether the limit passes no later than a moment. -/
def limitPassesBy (w : World) (m : Moment) : Bool := w.limit.any fun limit => !m.before limit

/-- The limit, or a moment that comes before it. -/
def limitOr (w : World) (m : Moment) : Moment := w.limit.elim m fun limit => limit.earlier m

/-- The world after the first `n` limits were overlooked. -/
def overlooking (w : World) (n : Nat) : World :=
  { w with limits := w.limits.drop n, overlooked := w.overlooked ++ w.limits.take n }

/-- The world after a wait that got what it waited for: a limit whose time has come is
overlooked. -/
def served (w : World) : World :=
  w.overlooking (if w.limit.any (·.time ≤ w.now.time) then 1 else 0)

/-- The world with another limit, or none, in place of the one that counts, if that is still the
one that is expected. -/
def replacingLimit (w : World) (expected other : Option Moment) : World :=
  if w.limit = expected then { w with limits := other.toList ++ w.limits.tail } else w

end World

namespace Run

variable {α β : Type}

/-- A step that only has a result. -/
protected def pure (a : α) : Run α := fun w => (.done a, w)

/-- Two steps in a row. -/
protected def bind (x : Run α) (f : α → Run β) : Run β := fun w =>
  match x w with
  | (.done a, w) => f a w
  | (.failed e, w) => (.failed e, w)
  | (.cutOff, w) => (.cutOff, w)

instance : Monad Run where
  pure := Run.pure
  bind := Run.bind

/-- A step that fails. -/
def fail (f : Fault) : Run α := fun w => (.failed f, w)

/-- The result of a computation that may have failed. -/
def ofExcept (r : Except Fault α) : Run α :=
  match r with
  | .ok a => pure a
  | .error f => fail f

/-- The fault that a script prescribes, if it does. -/
def suffer (cause : Option Fault) : Run Unit :=
  match cause with
  | some f => fail f
  | none => pure ()

/-- A step without its fault: the fault is a result. -/
def attempt (x : Run α) : Run (Except Fault α) := fun w =>
  match x w with
  | (.done a, w) => (.done (.ok a), w)
  | (.failed f, w) => (.done (.error f), w)
  | (.cutOff, w) => (.cutOff, w)

/-- A clean-up behind a step that was cut off. The limit that did it is spent while the
clean-up runs. If the clean-up does not end well it is overlooked. -/
def pastLimit (cleanup : Run Unit) : Run Unit := fun w =>
  match cleanup { w with limits := w.limits.tail } with
  | (.done (), v) => (.done (), { v with limits := w.limits.take 1 ++ v.limits })
  | (.failed f, v) => (.failed f, { v with overlooked := v.overlooked ++ w.limits.take 1 })
  | (.cutOff, v) => (.cutOff, { v with overlooked := v.overlooked ++ w.limits.take 1 })

/-- A step and a clean-up that follows it in any case. A fault of the clean-up
takes the place of the step's own end. -/
def ensuring (x : Run α) (cleanup : Run Unit) : Run α := fun w =>
  let (ending, w) := x w
  match (if ending.isCutOff then pastLimit cleanup else cleanup) w with
  | (.done _, w) => (ending, w)
  | (.failed f, w) => (.failed f, w)
  | (.cutOff, w) => (.cutOff, w)

/-- Something read from the world. -/
def read (f : World → α) : Run α := fun w => (.done (f w), w)

/-- A change of the world. -/
def update (f : World → World) : Run Unit := fun w => (.done (), f w)

/-- Lets time pass. -/
def pause (ticks : Nat) : Run Unit := fun w =>
  let m := w.now.afterPause ticks
  (if w.limitPassesBy m then .cutOff else .done (), { w with now := w.limitOr m })

/-- Lets time pass for ever: only the limit ends it. -/
def waitForever : Run α := fun w => (.cutOff, { w with now := w.limit.elim w.now w.now.later })

/-- A step that waits for something. If it ends just as the limit passes, the limit is
overlooked. -/
def waiting (x : Run α) : Run α := fun w =>
  let felt := w.limit.map Moment.felt
  match x (w.replacingLimit w.limit felt) with
  | (.done a, v) => (.done a, (v.replacingLimit felt w.limit).served)
  | (.failed f, v) => (.failed f, (v.replacingLimit felt w.limit).served)
  | (.cutOff, v) => (.cutOff, v.replacingLimit felt w.limit)

/-- Waits for something that comes after so many ticks, or is there already. -/
def awaiting (ticks : Nat) : Run Unit := if ticks = 0 then pure () else waiting (pause ticks)

/-- Lets the time pass that output takes to drain. -/
def awaitDrained : Run Unit := do
  match ← read (·.drainTicks) with
  | [] => return ()
  | ticks :: rest => do
    update fun w => { w with drainTicks := rest }
    pause ticks

/-- A step bounded by a timeout: no result if the timeout passes first. A timeout that is
zero or less passes before the step starts. -/
def within (timeout : Binary64) (x : Run α) : Run (Option α) := fun w =>
  if !timeout.isNaN && !timeout.isPositive then (.done none, w)
  else
    let own := w.now.afterTimeout timeout
    if w.limit.any (·.time ≤ own.time) then
      match waiting x w with
      | (.done a, v) => (.done (some a), v)
      | (.failed f, v) => (.failed f, v)
      | (.cutOff, v) => (.cutOff, v)
    else
      match x { w with limits := own :: w.limits } with
      | (.done a, v) => (.done (some a), v.replacingLimit (some own) none)
      | (.failed f, v) => (.failed f, v.replacingLimit (some own) none)
      | (.cutOff, v) =>
        (if v.limit = some own then .done none else .cutOff, v.replacingLimit (some own) none)

/-- A printed line. -/
def print (line : String) : Run Unit :=
  update fun w => { w with printed := w.printed ++ [line] }

/-- The next `n` random octets. -/
def draw (n : Nat) : Run Bytes := fun w =>
  let (bs, e) := w.entropy.draw n
  (.done bs, { w with entropy := e })

/-- A computation that draws random octets. -/
def drawing (f : Entropy → α × Entropy) : Run α := fun w =>
  let (a, e) := f w.entropy
  (.done a, { w with entropy := e })

end Run

end TimeProbe

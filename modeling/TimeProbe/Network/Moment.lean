import TimeProbe.Binary64.Basic

/-!
# Moments

A run is told the time by a clock that shows doubles, counted in ticks, and takes turns
while the clock stands still. A timer goes off once the clock has come close enough to
its time; a timer set for a time that close needs no move of the clock at all, and its
effect is felt two turns later.
-/

namespace TimeProbe

/-- A place in the course of a run: the time on the clock, and the turns taken at it. -/
structure Moment where
  time : Nat := 0
  turn : Nat := 0
deriving DecidableEq, Inhabited

namespace Moment

/-- Whether a moment comes before another one. -/
def before (a b : Moment) : Bool := decide (a.time < b.time ∨ a.time = b.time ∧ a.turn < b.turn)

/-- The earlier of two moments. -/
def earlier (a b : Moment) : Moment := if b.before a then b else a

/-- The later of two moments. -/
def later (a b : Moment) : Moment := if a.before b then b else a

/-- The time that a clock shows after so many ticks: the nearest double. -/
def timeAfter (time ticks : Nat) : Nat := max time (Binary64.ofTicks (time + ticks)).magnitude

/-- How close the clock has to come to the time of a timer: a thousand-millionth. -/
def closeness : Nat := (Binary64.ofRatio false 1 1000000000).magnitude

/-- The moment at which the effect of a timer is felt that needs no move of the clock. -/
def atOnce (m : Moment) : Moment := ⟨m.time, m.turn + 2⟩

/-- The moment at which a timer of so many ticks goes off. -/
def after (m : Moment) (ticks : Nat) : Moment :=
  let time := timeAfter m.time ticks
  if time ≤ m.time ∨ time < timeAfter m.time closeness then m.atOnce else ⟨time, 0⟩

/-- The end of a pause. One of no length takes a turn. -/
def afterPause (m : Moment) (ticks : Nat) : Moment :=
  if ticks = 0 then ⟨m.time, m.turn + 1⟩ else m.after ticks

/-- The moment at which a timeout passes that is greater than zero or no number; the latter
passes at once. -/
def afterTimeout (m : Moment) (timeout : Binary64) : Moment :=
  if timeout.isNaN then m.atOnce else m.after timeout.magnitude

/-- The moment until which an exchange waits. A timeout too short for the clock leaves no
time to wait, and neither does one that is zero or less. -/
def deadline (m : Moment) (timeout : Binary64) : Moment :=
  if timeout.isNaN then m.atOnce
  else if timeout.isPositive && decide (m.time < timeAfter m.time timeout.magnitude) then
    m.after timeout.magnitude
  else m

/-- The moment at which something can be taken that comes at a time. -/
def reaching (m : Moment) (time : Nat) : Moment := if m.time < time then ⟨time, 0⟩ else m

/-- Whether a moment follows on turns rather than on a move of the clock. -/
def isByTurns (m : Moment) : Bool := m.turn != 0

/-- The moment at which a wait feels a limit: what comes at the very time of the limit is
taken first. -/
def felt (m : Moment) : Moment := if m.isByTurns then m else m.atOnce

end Moment

end TimeProbe

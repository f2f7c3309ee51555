import TimeProbe.Proofs.HeededSteps
import TimeProbe.Proofs.ScriptFaults

/-!
# Ordinary worlds

In an ordinary world every scripted fault is one that a network or a computation raises: neither the
user's interrupt nor a verdict. A case that is tame by itself leaves such a world as it should: it
prints nothing, opens no more endpoints than it says, and ends with a result or an ordinary fault
unless a limit cuts it off.
-/

namespace TimeProbe

/-- A jar that remembers no other than an ordinary failure. -/
def SessionSource.Ordinary (s : SessionSource) : Prop := ∀ f ∈ s.error, f.Ordinary

namespace World

/-- A world all of whose faults are ordinary. -/
structure Ordinary (w : World) : Prop extends w.RaisesOnly Fault.Ordinary where
  source : ∀ s ∈ w.source, s.Ordinary

/-- What follows quietly on a world: nothing more is printed, at most `n` endpoints more are open or
were tried, and no limit has appeared. -/
structure Quiet (n : Nat) (w w' : World) : Prop where
  printed : w'.printed = w.printed
  endpoints : w'.endpoints.length ≤ w.endpoints.length + n
  limit : w.limit = none → w'.limit = none

/-- What follows quietly on an ordinary world and is ordinary itself. -/
structure Follows (n : Nat) (w w' : World) : Prop extends w.Quiet n w' where
  ordinary : w'.Ordinary

end World

namespace TestCase

/-- How many endpoints a case opens at most. -/
def opens (case : TestCase) : Nat :=
  match case.requirement with
  | .udp => 1
  | .nts => 1
  | .ntsKe => 0

/-- How many endpoints cases open at most, taken together. -/
def opensInAll : List TestCase → Nat
  | [] => 0
  | case :: cases => case.opens + opensInAll cases

/-- A case that keeps to its connection, makes no other than homemade faults by itself, and does not
wait without end. -/
def Tame (case : TestCase) : Prop :=
  ∀ allowed : Fault → Prop, (∀ f : Fault, f.Homemade → allowed f) →
    case.ConfinedWith allowed False

end TestCase

/-- All cases of the catalog are tame. -/
theorem Catalog.tame_cases : ∀ case ∈ cases, case.Tame :=
  fun case hcase _ hmade => confined_cases hmade case hcase

namespace Run

open World

variable {α : Type} {allowed : Fault → Prop} {endless : Prop} {x : Run α} {n m : Nat}

section Count

/-- A world with at most so many endpoints. -/
def AtMost (n : Nat) (w : World) : Prop := w.endpoints.length ≤ n

/-- The number of endpoints is no matter of time. -/
theorem timeless_atMost : Timeless (AtMost n) := fun _ _ _ _ _ _ _ hw => hw

/-- What is done on an endpoint opens none. -/
theorem endpointLaw_atMost : EndpointLaw (fun _ => True) (AtMost n) where
  timeless := timeless_atMost
  used w i e hw _ := by simpa [AtMost, World.setEndpoint] using hw
  unsent _ _ _ _ _ _ _ := trivial
  broken _ _ _ _ _ _ _ := trivial
  homemade _ _ := trivial

/-- What is done on a stream opens no endpoint. -/
theorem streamingLaw_atMost : StreamingLaw (fun _ => True) (AtMost n) where
  timeless := timeless_atMost
  used _ _ _ hw _ := hw
  unsent _ _ _ _ _ := trivial
  broken _ _ _ _ _ := trivial
  refused _ _ _ _ _ _ _ := trivial
  own _ _ := trivial
  entered _ _ _ _ hw := hw
  marked _ _ _ _ hw := hw
  unopened _ _ _ _ _ _ := trivial

/-- What happens below a session opens no endpoint. -/
theorem keeps_atMost_of_below (hx : Built (BelowSession endless) x) :
    Keeps (fun _ => True) (AtMost n) x :=
  hx.keeps timeless_atMost fun _ _ h => h.keeps endpointLaw_atMost fun _ _ hw => hw

/-- What is done on the target opens no endpoint. -/
theorem keeps_atMost_of_onTarget (hx : Built OnTarget x) : Keeps (fun _ => True) (AtMost n) x :=
  hx.keeps timeless_atMost fun _ _ h => h.keeps streamingLaw_atMost fun _ _ hw => hw

/-- Opening an endpoint adds one. -/
theorem atMost_openEndpoint (address : Address) (timeout : Binary64) :
    Ensures (fun _ => True) (AtMost n) (AtMost (n + 1)) (openEndpoint address timeout) := by
  intro w hw
  have hadd (e : Endpoint) : (w.endpoints ++ [e]).length ≤ n + 1 := by
    rw [List.length_append]
    exact Nat.succ_le_succ hw
  rw [openEndpoint]
  dsimp only
  split <;> exact ⟨hadd _, trivial⟩

/-- Closing an endpoint opens none. -/
theorem keeps_atMost_closeEndpoint (i : Nat) :
    Keeps (fun _ => True) (AtMost n) (closeEndpoint i) := by
  intro w hw
  have hset (e : Endpoint) : AtMost n (w.setEndpoint i e) := by
    simpa [AtMost, World.setEndpoint] using hw
  rw [closeEndpoint]
  split
  · split <;> exact ⟨hset _, trivial⟩
  · exact ⟨hset _, trivial⟩

/-- A body on a connection opens no more endpoints than making the connection does. -/
theorem atMost_onConnection {connect : Run Nat} {body close : Nat → Run Unit}
    (hconnect : Ensures (fun _ => True) (AtMost n) (AtMost m) connect)
    (hbody : ∀ i, Keeps (fun _ => True) (AtMost m) (body i))
    (hclose : ∀ i, Keeps (fun _ => True) (AtMost m) (close i)) :
    Ensures (fun _ => True) (AtMost n) (AtMost m) (TestCase.onConnection connect body close) :=
  hconnect.bind fun i => (hbody i).ensuring timeless_atMost (hclose i)

/-- A plain connection is one endpoint more. -/
theorem atMost_connectPlain (c : RunConfig) :
    Ensures (fun _ => True) (AtMost n) (AtMost (n + 1)) (connectPlain c) := by
  have hserver : Keeps (fun _ => True) (AtMost n) (timeServer c) :=
    (keeps_read _).bind fun _ => keeps_pure _
  exact hserver.seq (fun _ => Nat.le_succ_of_le) fun address =>
    atMost_openEndpoint address c.timeout

/-- A protected connection is one endpoint more. -/
theorem atMost_connectProtected (c : RunConfig) :
    Ensures (fun _ => True) (AtMost n) (AtMost (n + 1)) (connectProtected c) := by
  by_cases hon : c.ntsEnabled = true
  · rw [connectProtected_of_on hon]
    refine (keeps_atMost_of_onTarget (built_takeSession fun _ _ => trivial)).seq
      (fun _ => Nat.le_succ_of_le) fun out => ?_
    exact (atMost_openEndpoint out.address c.timeout).bind fun _ => (keeps_read _).bind fun _ =>
      (ensures_update fun _ => id).bind fun _ => keeps_pure _
  · intro w hw
    rw [connectProtected_of_off (Bool.not_eq_true _ ▸ hon)]
    exact ⟨Nat.le_succ_of_le hw, trivial⟩

/-- A confined case opens no more endpoints than it says. -/
theorem atMost_of_confined {case : TestCase} (hcase : case.ConfinedWith (fun _ => True) endless)
    (c : RunConfig) :
    Ensures (fun _ => True) (AtMost n) (AtMost (n + case.opens)) (case.run c) := by
  cases hcase with
  | plain name summary hbody =>
    exact atMost_onConnection (atMost_connectPlain c)
      (fun i => keeps_atMost_of_below
        (BuiltWith.bind (hbody i) fun _ => built_probe (fun _ _ => trivial) i).onPlain)
      keeps_atMost_closeEndpoint
  | guarded name summary hbody =>
    exact atMost_onConnection (atMost_connectProtected c)
      (fun i => keeps_atMost_of_below ((BuiltWith.bind (hbody i) fun _ =>
        built_probeProtected (fun _ _ => trivial) i).belowSession (fun _ _ => trivial) trivial))
      fun i => (keeps_atMost_of_below
        (built_session (fun _ _ => trivial) i : Built (BelowSession endless) _)).bind fun found =>
          keeps_atMost_closeEndpoint found.1
  | onStream name summary hbody =>
    exact atMost_onConnection (keeps_atMost_of_onTarget (built_connectKe (fun _ _ => trivial) c))
      (fun i => (hbody i).keeps timeless_atMost fun _ _ h =>
        h.elim streamingLaw_atMost.keeps fun h => h.keeps timeless_atMost)
      fun i => streamingLaw_atMost.keeps_closeStream i

end Count

/-- **Tame cases are quiet.** A tame case within a timeout raises ordinary faults only where scripts
do, leaves such a world behind, and is quiet. -/
theorem quiet_of_tame {case : TestCase} (hcase : case.Tame) (c : RunConfig) (limit : Binary64)
    {w : World} (hw : w.RaisesOnly Fault.Ordinary) (hlimit : w.limit = none) :
    (within limit (case.run c) w).2.RaisesOnly Fault.Ordinary ∧
      w.Quiet case.opens (within limit (case.run c) w).2 ∧
      (within limit (case.run c) w).1.RaisesOnly Fault.Ordinary ∧
      (within limit (case.run c) w).1.isCutOff = false := by
  have hmade : ∀ f : Fault, f.Homemade → f.Ordinary := fun _ hf => hf.toOrdinary
  have hany := hcase (fun _ => True) fun _ _ => trivial
  have law := elementaryLaw_raisesOnly hmade
  have hkeeps := law.keeps ((hcase Fault.Ordinary hmade).built hmade (fun _ => ⟨rfl, rfl⟩) c)
  obtain ⟨hleft, hending⟩ :=
    hkeeps.within law.endpoint.timeless law.endpoint.timeless (fun _ => id) limit w hw
  obtain ⟨hlimits, hended⟩ :=
    ((heeds_of_confined hany c).within limit).unlimited (List.head?_eq_none_iff.mp hlimit)
  have hprinted := (leaves_printed (hany.built (fun _ _ => trivial) (fun _ => trivial) c)).within
    (untimed_of_eq fun _ _ _ _ _ _ _ => rfl) limit w
  have hcount := (atMost_of_confined hany c).within timeless_atMost timeless_atMost
    (fun _ h => Nat.le_add_right_of_le h) limit w (Nat.le_refl _)
  exact ⟨hleft, ⟨hprinted, hcount.1, fun _ => List.head?_eq_none_iff.mpr hlimits⟩, hending, hended⟩

end Run

end TimeProbe

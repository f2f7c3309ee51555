import Mathlib.Data.List.Basic
import TimeProbe.Proofs.CaseRuns
import TimeProbe.Proofs.RefusedCases
import TimeProbe.Proofs.Veil

/-!
# Cases that are skipped leave no trace

Without time security a protected case and a key establishment case are skipped: the body does not
run, and the world stays as it is. So a registry can as well be run without them. The other cases
get the same entries, and the world comes to the same, up to the lines that were printed. Nothing
bounds a run from outside: a limit whose time has come would be overlooked by the first case that
ends at once, whichever it is.
-/

namespace TimeProbe

/-- The world with lines printed in front of the others. -/
def World.after (w : World) (earlier : List String) : World :=
  { w with printed := earlier ++ w.printed }

/-- The veil that shows lines as printed in front of the others, and hides nothing else. -/
def Veil.after (earlier : List String) : Veil where
  keeps _ := true
  lines printed := earlier ++ printed
  keeps_of_not_other _ _ := rfl

/-- Behind this veil lines were printed in front of the others. -/
theorem World.behind_after (w : World) (earlier : List String) :
    w.behind (.after earlier) = w.after earlier := by
  have hkept (fault : Option Fault) : fault.filter (Veil.after earlier).keeps = fault := by
    cases fault <;> rfl
  have hscript : (Veil.after earlier).script = id := by
    funext s
    rw [Veil.script, hkept]
    rfl
  have hendpoint : (Veil.after earlier).endpoint = id := by
    funext e
    rw [Veil.endpoint, hkept]
    rfl
  rw [behind, hscript, hendpoint, List.map_id, List.map_id]
  rfl

/-- What was printed has to do neither with time nor with streams. -/
theorem World.streamless_after (earlier : List String) : Streamless (·.after earlier) :=
  ⟨fun _ _ _ _ _ _ _ => rfl, fun _ => rfl, fun _ => rfl, fun _ _ _ => rfl⟩

/-- The ending of a step whose result is made into another one. -/
def Ending.map {α β : Type} (f : α → β) : Ending α → Ending β
  | .done a => .done (f a)
  | .failed e => .failed e
  | .cutOff => .cutOff

namespace Run

variable {α β : Type} {x : Run α}

/-- Lines are printed behind those that were there, and what was printed is not looked at: with
other lines in front the step ends in the same way, and leaves the same world with these lines in
front. -/
def AddsLines (x : Run α) : Prop := ∀ earlier, Unaware (·.after earlier) x

/-- What does not see through veils does not look at what was printed. -/
theorem addsLines_of_unaware (hx : ∀ v : Veil, Unaware (·.behind v) x) : AddsLines x := by
  intro earlier w
  have hunaware : x (w.behind (.after earlier)) =
      ((x w).1, (x w).2.behind (.after earlier)) := hx (.after earlier) w
  rwa [World.behind_after, World.behind_after] at hunaware

/-- What may be done on a plain connection here: anything that opens no key establishment stream,
does not look at what was printed, and heeds limits. -/
structure OffStream (x : Run α) : Prop where
  lines : AddsLines x
  streams : Leaves (·.streams.length) x
  heeds : Heeds True x

/-- The number of streams has nothing to do with time. -/
theorem untimed_length_streams : Untimed (·.streams.length) :=
  untimed_of_eq fun _ _ _ _ _ _ _ => rfl

/-- What confined bodies do on an endpoint is done off the streams. -/
theorem offStream_onEndpoint {i : Nat} (hx : Built (OrAmbient True (OnEndpoint i)) x) :
    OffStream x where
  lines := addsLines_of_unaware fun v => hx.unaware (World.timefree_behind v) fun _ _ h =>
    h.elim (·.unaware) (·.unaware (World.timefree_behind v) fun _ => rfl)
  streams := hx.leaves untimed_length_streams fun _ _ h =>
    h.elim (·.leaves untimed_length_streams fun _ _ _ _ => rfl) (·.leaves untimed_length_streams)
  heeds := hx.heeds fun _ _ h => h.elim (·.heeds) (·.heeds)

end Run

/-- Cases that need time security, on a protected connection or on a key establishment stream; the
body may be any. -/
inductive TestCase.NeedsNts : TestCase → Prop
  | guarded (name summary : String) (body : Nat → Run Unit) :
      NeedsNts (.guarded name summary body)
  | onStream (name summary : String) (body : Nat → Run Unit) :
      NeedsNts (.onStream name summary body)

/-- The cases on plain connections. -/
def Registry.plain (registry : Registry) : Registry :=
  ⟨registry.cases.filter (·.requirement = .udp)⟩

namespace Run

variable {c : RunConfig} {limit : Binary64} {case : TestCase}

end Run

/-- Cases as they are declared: they need time security, or else their bodies keep off the key
establishment streams. -/
inductive TestCase.Declared : TestCase → Prop
  | needsNts {case : TestCase} (h : case.NeedsNts) : Declared case
  | plain (name summary : String) {body : Nat → Run Unit} (hbody : ∀ i, Run.OffStream (body i)) :
      Declared (.plain name summary body)

/-- Confined cases are declared ones. -/
theorem TestCase.ConfinedWith.declared {case : TestCase} (hcase : case.Confined) :
    case.Declared := by
  cases hcase with
  | plain name summary hbody =>
    exact .plain name summary fun i => Run.offStream_onEndpoint (hbody i)
  | guarded name summary hbody => exact .needsNts (.guarded name summary _)
  | onStream name summary hbody => exact .needsNts (.onStream name summary _)

namespace Run

variable {c : RunConfig} {limit : Binary64} {shown : Entry → List String}

/-- What a case on a plain connection does leaves the streams, does not depend on the lines that
were printed before, and sets no limit. -/
theorem OffStream.runCase {case : TestCase} (hcase : OffStream (case.run c)) (limit : Binary64) :
    AddsLines (runCase c limit case) ∧ Leaves (·.streams.length) (runCase c limit case) ∧
      ∀ w : World, w.limits = [] → (Run.runCase c limit case w).2.limits = [] := by
  refine ⟨fun earlier =>
    (hcase.lines earlier).runCase (World.streamless_after earlier).timefree limit, fun w => ?_,
    fun w hlimits => ?_⟩
  · rw [runCase_snd]
    exact hcase.streams.within untimed_length_streams limit w
  · have hleft := (hcase.heeds.within limit w (World.timely_of_unlimited hlimits)).1.limits
    rw [hlimits] at hleft
    rw [runCase_snd]
    exact List.sublist_nil.mp hleft

end Run

end TimeProbe

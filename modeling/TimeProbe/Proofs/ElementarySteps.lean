import TimeProbe.Proofs.ConnectionSteps
import TimeProbe.Proofs.EndpointSteps
import TimeProbe.Proofs.StreamSteps

/-!
# What elementary steps keep

The laws of endpoints and of streams together with one for the books make a law of everything that
cases are built of. What no step ever writes to is left by all of them.
-/

namespace TimeProbe

/-- Replacing a pool changes no more than the sessions. -/
theorem World.exists_setPool (w : World) (i : Nat) (pool : CookiePool) :
    ∃ sessions, w.setPool i pool = { w with sessions } := by
  rw [setPool]
  split
  · exact ⟨_, rfl⟩
  · exact ⟨w.sessions, rfl⟩

namespace Run

variable {α : Type} {allowed : Fault → Prop} {endless : Prop} {p : World → Prop} {x : Run α}

/-- What happens below a session keeps what the law of endpoints allows for, if sessions are no
matter of it. -/
theorem BelowSession.keeps (law : EndpointLaw allowed p)
    (hsessions : ∀ (w : World) sessions, p w → p { w with sessions })
    (h : BelowSession endless α x) : Keeps allowed p x := by
  cases h with
  | ambient h => exact h.keeps law.timeless
  | onEndpoint i h => exact law.keeps h
  | bookkeeping h =>
    cases h with
    | look f => exact keeps_read _
    | pool i pool =>
      refine ensures_update fun w hw => ?_
      obtain ⟨sessions, hpool⟩ := w.exists_setPool i pool
      rw [hpool]
      exact hsessions w sessions hw

/-- What happens below a session leaves a part of the world that has nothing to do with time, that
is the same for an endpoint that is used, and that has nothing to do with pools. -/
theorem BelowSession.leaves {γ : Type} {part : World → γ} (htime : Untimed part)
    (hused : ∀ (w : World) i e, (w.endpoint i).Used e → part (w.setEndpoint i e) = part w)
    (hpool : ∀ (w : World) i pool, part (w.setPool i pool) = part w)
    (h : BelowSession endless α x) : Leaves part x := by
  cases h with
  | ambient h => exact h.leaves htime
  | onEndpoint i h => exact h.leaves htime hused
  | bookkeeping h =>
    cases h with
    | look f => exact leaves_read _ _
    | pool i pool => exact fun w => hpool w i pool

/-- Looking for a session changes nothing. -/
theorem leaves_session {γ : Type} (part : World → γ) (i : Nat) : Leaves part (session i) := by
  refine (leaves_read _ _).bind fun found => ?_
  cases found <;> exact fun _ => rfl

/-- What is done on the target keeps what the law of streams allows for, if the jar is no matter of
it. -/
theorem OnTarget.keeps (law : StreamingLaw allowed p)
    (hjar : ∀ (w : World) source, p w → p { w with source }) (h : OnTarget α x) :
    Keeps allowed p x := by
  cases h with
  | look f => exact keeps_read _
  | jar s => exact ensures_update fun w hw => hjar w (some s) hw
  | openStream address caFile maxRecords => exact law.keeps_openStream address caFile maxRecords
  | onStream i h => exact law.keeps h
  | closeStream i => exact law.keeps_closeStream i

end Run

/-- What a property and a bound on faults have to allow for, so that all elementary steps keep the
property and raise no other faults. -/
structure ElementaryLaw (allowed : Fault → Prop) (p : World → Prop) : Prop where
  endpoint : EndpointLaw allowed p
  stream : StreamingLaw allowed p
  opens : ∀ address timeout, Run.Keeps allowed p (Run.openEndpoint address timeout)
  closes : ∀ i, Run.Keeps allowed p (Run.closeEndpoint i)
  books : ∀ (w : World) sessions source lookups, p w → p { w with sessions, source, lookups }

namespace ElementaryLaw

open Run

variable {α : Type} {allowed : Fault → Prop} {endless : Prop} {p : World → Prop} {x : Run α}

/-- Everything that is built of elementary steps keeps what the law allows for. -/
theorem keeps (law : ElementaryLaw allowed p) (hx : BuiltWith allowed (Elementary endless) x) :
    Keeps allowed p x := by
  refine hx.keeps law.endpoint.timeless fun α x h => ?_
  cases h with
  | below h =>
    exact h.keeps law.endpoint fun w sessions => law.books w sessions w.source w.lookups
  | onTarget h =>
    exact h.keeps law.stream fun w source => law.books w w.sessions source w.lookups
  | openEndpoint address timeout => exact law.opens address timeout
  | closeEndpoint i => exact law.closes i
  | enter endpoint s => exact ensures_update fun w => law.books w _ w.source w.lookups
  | lookUp address => exact ensures_update fun w => law.books w w.sessions w.source _

end ElementaryLaw

namespace Run

variable {α γ : Type} {endless : Prop} {x : Run α} {part : World → γ}

/-- A part of the world that has nothing to do with endpoints or streams, with the books, or with
time is left by everything that is built of elementary steps. -/
theorem BuiltWith.leaves_of_apart (hx : Built (Elementary endless) x) (htime : Untimed part)
    (hnetwork : ∀ (w : World) udpScripts endpoints keScripts streams,
      part { w with udpScripts, endpoints, keScripts, streams } = part w)
    (hbooks : ∀ (w : World) sessions source lookups,
      part { w with sessions, source, lookups } = part w) : Leaves part x := by
  refine leaves_iff_keeps.mpr fun value => ElementaryLaw.keeps ?_ hx
  have hendpoints (w : World) (udpScripts : List UdpScript) (endpoints : List Endpoint)
      (hw : part w = value) : part { w with udpScripts, endpoints } = value :=
    (hnetwork w udpScripts endpoints w.keScripts w.streams).trans hw
  have hstreams (w : World) (keScripts : List KeScript) (streams : List KeStream)
      (hw : part w = value) : part { w with keScripts, streams } = value :=
    (hnetwork w w.udpScripts w.endpoints keScripts streams).trans hw
  exact
    { endpoint :=
        { timeless := htime value
          used := fun w i e hw _ => hendpoints w _ _ hw
          unsent := fun _ _ _ _ _ _ _ => trivial
          broken := fun _ _ _ _ _ _ _ => trivial
          homemade := fun _ _ => trivial }
      stream :=
        { timeless := htime value
          used := fun w i s hw _ => hstreams w _ _ hw
          unsent := fun _ _ _ _ _ => trivial
          broken := fun _ _ _ _ _ => trivial
          refused := fun _ _ _ _ _ _ _ => trivial
          own := fun _ _ => trivial
          entered := fun w _ _ _ hw => hstreams w _ _ hw
          marked := fun w _ _ _ hw => hstreams w _ _ hw
          unopened := fun _ _ _ _ _ _ => trivial }
      opens := fun address timeout w hw => by
        rw [openEndpoint]
        dsimp only
        split <;> exact ⟨hendpoints w _ _ hw, trivial⟩
      closes := fun i w hw => by
        rw [closeEndpoint]
        split
        · split <;> exact ⟨hendpoints w _ _ hw, trivial⟩
        · exact ⟨hendpoints w _ _ hw, trivial⟩
      books := fun w sessions source lookups hw => (hbooks w sessions source lookups).trans hw }

/-- What is built of elementary steps prints nothing. -/
theorem leaves_printed (hx : Built (Elementary endless) x) : Leaves (·.printed) x :=
  hx.leaves_of_apart (untimed_of_eq fun _ _ _ _ _ _ _ => rfl) (fun _ _ _ _ _ => rfl)
    fun _ _ _ _ => rfl

/-- What is built of elementary steps leaves the settings. -/
theorem leaves_settings (hx : Built (Elementary endless) x) : Leaves (·.settings) x :=
  hx.leaves_of_apart (untimed_of_eq fun _ _ _ _ _ _ _ => rfl) (fun _ _ _ _ _ => rfl)
    fun _ _ _ _ => rfl

/-- What a confined case does prints nothing. -/
theorem leaves_printed_of_confined {case : TestCase} (hcase : case.Confined) (c : RunConfig) :
    Leaves (·.printed) (case.run c) :=
  leaves_printed (hcase.built (fun _ _ => trivial) (fun _ => trivial) c)

end Run

end TimeProbe

import TimeProbe.Proofs.HeededWaits

/-!
# Cases heed limits

Every elementary step heeds the limits around it, and so does all that is built of such steps. A
body that keeps to its connection therefore heeds the limit that is set for its case.
-/

namespace TimeProbe.Run

variable {α : Type} {endless : Prop} {kind : StepKind} {x : Run α}

/-- What is built of steps that heed limits does so. -/
theorem BuiltWith.heeds (hx : Built kind x) (hkind : ∀ α x, kind α x → Heeds endless x) :
    Heeds endless x := by
  induction hx with
  | step h => exact hkind _ _ h
  | pure a => exact heeds_pure a
  | fail hf => exact heeds_fail _
  | bind _ _ ihx ihnext => exact ihx.bind ihnext
  | attempt _ _ _ ihx ihdone ihfailed =>
    refine ihx.attempt.bind fun result => ?_
    cases result with
    | ok a => exact ihdone a
    | error f => exact ihfailed f trivial
  | ensuring _ _ ihx ihcleanup => exact ihx.ensuring ihcleanup
  | within timeout _ ih => exact ih.within timeout

/-- Ambient steps heed limits. -/
theorem Ambient.heeds (h : Ambient endless α x) : Heeds endless x := by
  cases h with
  | drawing draws => exact heeds_of_still fun _ => ⟨rfl, rfl, rfl, rfl⟩
  | pause ticks => exact heeds_pause ticks
  | awaiting ticks => exact heeds_awaiting ticks
  | drain => exact heeds_awaitDrained
  | opening => exact heeds_of_still fun _ => ⟨rfl, rfl, rfl, rfl⟩
  | waitForever h => exact fun w hw => heedsAt_waitForever hw fun _ => h
  | look f => exact heeds_read _

/-- Steps below a session heed limits. -/
theorem BelowSession.heeds (h : BelowSession endless α x) : Heeds endless x := by
  cases h with
  | ambient h => exact h.heeds
  | onEndpoint i h => exact h.heeds
  | bookkeeping h =>
    cases h with
    | look f => exact heeds_read _
    | pool i pool =>
      refine heeds_update fun w => ?_
      obtain ⟨sessions, hpool⟩ := w.exists_setPool i pool
      rw [hpool]
      exact ⟨rfl, rfl, rfl⟩

/-- Changing a stream heeds limits. -/
theorem heeds_updateStream (i : Nat) (f : KeStream → KeStream) :
    Heeds endless (updateStream i f) := heeds_update fun _ => ⟨rfl, rfl, rfl⟩

/-- Everything that is done on a stream heeds limits. -/
theorem OnStream.heeds {i : Nat} (h : OnStream i α x) : Heeds endless x := by
  have hexport (use : Export) : Heeds endless (Run.exportKey i use) :=
    heeds_of_still fun _ => ⟨rfl, rfl, rfl, rfl⟩
  cases h with
  | send data =>
    exact (heeds_read _).bind fun fault => (heeds_updateStream i _).bind fun _ =>
      heeds_awaitDrained.bind fun _ => heeds_suffer fault
  | receive => exact heeds_receiveRecord i
  | exportKey use => exact hexport use
  | derive aead direction => exact (hexport _).bind fun _ => heeds_ofExcept _
  | look f => exact heeds_read _

/-- Opening a stream heeds limits. -/
theorem heeds_openStream (address : Address) (caFile : Option String) (maxRecords : Option Int) :
    Heeds endless (openStream address caFile maxRecords) := by
  have hsecure (i ticks : Nat) (fault : Option Fault) :
      Heeds endless (secureStream i ticks fault) := by
    refine (heeds_awaiting ticks).bind fun _ => ?_
    cases fault with
    | none => exact heeds_pure ()
    | some cause =>
      dsimp only [abandonStream]
      split
      · exact heeds_awaitDrained.bind fun _ => (heeds_updateStream i _).bind fun _ =>
          heeds_fail cause
      · exact heeds_fail cause
  have henter : Heeds endless (enterStream address caFile maxRecords) :=
    heeds_of_still fun _ => ⟨rfl, rfl, rfl, rfl⟩
  have hopening : Heeds endless nextOpening := heeds_of_still fun _ => ⟨rfl, rfl, rfl, rfl⟩
  refine henter.bind fun entered => ?_
  obtain ⟨i, script⟩ := entered
  cases script with
  | none => exact heeds_fail _
  | some script =>
    exact hopening.bind fun opening =>
      ((heeds_awaiting opening.connectTicks).bind fun _ => (heeds_suffer _).bind fun _ =>
        heeds_updateStream i _).bind fun _ =>
      (hsecure i opening.handshakeTicks _).bind fun _ => heeds_pure i

/-- What is done on the target heeds limits. -/
theorem OnTarget.heeds (h : OnTarget α x) : Heeds endless x := by
  cases h with
  | look f => exact heeds_read _
  | jar s => exact heeds_update fun _ => ⟨rfl, rfl, rfl⟩
  | openStream address caFile maxRecords => exact heeds_openStream address caFile maxRecords
  | onStream i h => exact h.heeds
  | closeStream i => exact heeds_awaitDrained.bind fun _ => heeds_updateStream i _

/-- Elementary steps heed limits. -/
theorem Elementary.heeds (h : Elementary endless α x) : Heeds endless x := by
  cases h with
  | below h => exact h.heeds
  | onTarget h => exact h.heeds
  | openEndpoint address timeout =>
    refine heeds_of_still fun w => ?_
    rw [Run.openEndpoint]
    dsimp only
    split <;> exact ⟨rfl, rfl, rfl, rfl⟩
  | closeEndpoint i =>
    refine heeds_of_still fun w => ?_
    rw [Run.closeEndpoint]
    split
    · split <;> exact ⟨rfl, rfl, rfl, rfl⟩
    · exact ⟨rfl, rfl, rfl, rfl⟩
  | enter endpoint s => exact heeds_update fun _ => ⟨rfl, rfl, rfl⟩
  | lookUp address => exact heeds_update fun _ => ⟨rfl, rfl, rfl⟩

/-- **Confined cases heed limits.** A case whose body keeps to its connection heeds the limits
around it, and it is cut off only by a limit that is there, if it does not wait without end. -/
theorem heeds_of_confined {case : TestCase} (hcase : case.ConfinedWith (fun _ => True) endless)
    (c : RunConfig) : Heeds endless (case.run c) :=
  (hcase.built (fun _ _ => trivial) (fun _ => trivial) c).heeds fun _ _ h => h.heeds

end TimeProbe.Run

import TimeProbe.Proofs.BuiltSteps

/-!
# Changes that steps do not see

A step does not see a change of the world if it comes to the same before and behind the step: it
ends in the same way, and it leaves the same world, changed. For changes that have nothing to do
with time the combinators see no more than their parts do.
-/

namespace TimeProbe

namespace World

/-- A change that has nothing to do with time, with what is drawn, or with how long opening and
draining take. -/
def Timefree (g : World → World) : Prop :=
  ∀ (w : World) (now : Moment) (limits overlooked : List Moment) (entropy : Entropy)
    (drainTicks : List Nat) (openings : List Opening),
    g { w with now, limits, overlooked, entropy, drainTicks, openings } =
      { g w with now, limits, overlooked, entropy, drainTicks, openings }

namespace Timefree

variable {g : World → World}

/-- A change that has nothing to do with time leaves the clock. -/
theorem now (hg : Timefree g) (w : World) : (g w).now = w.now :=
  (congrArg World.now (hg w w.now w.limits w.overlooked w.entropy w.drainTicks w.openings) :)

/-- A change that has nothing to do with time leaves the limits. -/
theorem limits (hg : Timefree g) (w : World) : (g w).limits = w.limits :=
  (congrArg World.limits (hg w w.now w.limits w.overlooked w.entropy w.drainTicks w.openings) :)

/-- A change that has nothing to do with time leaves what was overlooked. -/
theorem overlooked (hg : Timefree g) (w : World) : (g w).overlooked = w.overlooked :=
  (congrArg World.overlooked (hg w w.now w.limits w.overlooked w.entropy w.drainTicks w.openings) :)

/-- A change that has nothing to do with time leaves the source of random octets. -/
theorem entropy (hg : Timefree g) (w : World) : (g w).entropy = w.entropy :=
  (congrArg World.entropy (hg w w.now w.limits w.overlooked w.entropy w.drainTicks w.openings) :)

/-- A change that has nothing to do with time leaves how long draining takes. -/
theorem drainTicks (hg : Timefree g) (w : World) : (g w).drainTicks = w.drainTicks :=
  (congrArg World.drainTicks (hg w w.now w.limits w.overlooked w.entropy w.drainTicks w.openings) :)

/-- A change that has nothing to do with time leaves how long opening takes. -/
theorem openings (hg : Timefree g) (w : World) : (g w).openings = w.openings :=
  (congrArg World.openings (hg w w.now w.limits w.overlooked w.entropy w.drainTicks w.openings) :)

/-- A change that has nothing to do with time leaves the limit that counts. -/
theorem limit (hg : Timefree g) (w : World) : (g w).limit = w.limit :=
  congrArg List.head? (hg.limits w)

/-- The limits may be set before or after. -/
theorem withLimits (hg : Timefree g) (w : World) (limits : List Moment) :
    { g w with limits } = g { w with limits } := by
  have hset := hg w w.now limits w.overlooked w.entropy w.drainTicks w.openings
  rw [hset, ← hg.now w, ← hg.overlooked w, ← hg.entropy w, ← hg.drainTicks w, ← hg.openings w]

/-- What was overlooked may be noted before or after. -/
theorem withOverlooked (hg : Timefree g) (w : World) (overlooked : List Moment) :
    { g w with overlooked } = g { w with overlooked } := by
  have hset := hg w w.now w.limits overlooked w.entropy w.drainTicks w.openings
  rw [hset, ← hg.now w, ← hg.limits w, ← hg.entropy w, ← hg.drainTicks w, ← hg.openings w]

/-- The clock may be set before or after. -/
theorem withNow (hg : Timefree g) (w : World) (now : Moment) :
    { g w with now } = g { w with now } := by
  have hset := hg w now w.limits w.overlooked w.entropy w.drainTicks w.openings
  rw [hset, ← hg.limits w, ← hg.overlooked w, ← hg.entropy w, ← hg.drainTicks w, ← hg.openings w]

/-- Limits may be overlooked before or after. -/
theorem overlooking (hg : Timefree g) (w : World) (n : Nat) :
    (g w).overlooking n = g (w.overlooking n) := by
  have hset := hg w w.now (w.limits.drop n) (w.overlooked ++ w.limits.take n) w.entropy
    w.drainTicks w.openings
  rw [World.overlooking, World.overlooking, hg.limits, hg.overlooked, hset, ← hg.now w,
    ← hg.entropy w, ← hg.drainTicks w, ← hg.openings w]

/-- A limit whose time has come may be overlooked before or after. -/
theorem served (hg : Timefree g) (w : World) : (g w).served = g w.served := by
  rw [World.served, World.served, hg.limit, hg.now, hg.overlooking]

/-- A limit may be replaced before or after. -/
theorem replacingLimit (hg : Timefree g) (w : World) (expected other : Option Moment) :
    (g w).replacingLimit expected other = g (w.replacingLimit expected other) := by
  rw [World.replacingLimit, World.replacingLimit, hg.limit]
  split
  · rw [hg.limits, hg.withLimits]
  · rfl

end Timefree

end World

namespace Run

open World

variable {α β : Type} {g : World → World} {x : Run α}

/-- A step that does not see a change of the world. -/
def Unaware (g : World → World) (x : Run α) : Prop := ∀ w, x (g w) = ((x w).1, g (x w).2)

/-- A step without effect sees nothing. -/
theorem unaware_pure (a : α) : Unaware g (pure a : Run α) := fun _ => rfl

/-- Raising a fault sees nothing. -/
theorem unaware_fail (f : Fault) : Unaware g (fail f : Run α) := fun _ => rfl

/-- A computation sees nothing. -/
theorem unaware_ofExcept (r : Except Fault α) : Unaware g (ofExcept r) := by
  cases r with
  | ok a => exact unaware_pure a
  | error f => exact unaware_fail f

/-- A fault that a script prescribes sees nothing. -/
theorem unaware_suffer (cause : Option Fault) : Unaware g (suffer cause) := by
  cases cause with
  | none => exact unaware_pure ()
  | some f => exact unaware_fail f

/-- Reading what the change leaves. -/
theorem unaware_read {f : World → α} (hf : ∀ w, f (g w) = f w) : Unaware g (read f) :=
  fun w => by rw [read, hf]; rfl

/-- Two changes may be made in either order. -/
theorem unaware_update {f : World → World} (hf : ∀ w, f (g w) = g (f w)) : Unaware g (update f) :=
  fun w => by rw [update, hf]; rfl

/-- A row of steps sees no more than its steps do. -/
theorem Unaware.bind {next : α → Run β} (hx : Unaware g x) (hnext : ∀ a, Unaware g (next a)) :
    Unaware g (x >>= next) := by
  intro w
  have hstep := hx w
  rcases hrun : x w with ⟨ending, w₁⟩
  rw [hrun] at hstep
  cases ending with
  | done a =>
    rw [bind_done hstep, bind_done hrun]
    exact hnext a w₁
  | failed f => rw [bind_failed hstep, bind_failed hrun]
  | cutOff => rw [bind_cutOff hstep, bind_cutOff hrun]

/-- Something may be read that is not the same behind the change, if what follows makes no use of
the difference. -/
theorem unaware_read_bind {f : World → α} {next : α → Run β}
    (hf : ∀ w, next (f (g w)) = next (f w)) (hnext : ∀ a, Unaware g (next a)) :
    Unaware g (read f >>= next) := by
  intro w
  have hread (w : World) : (read f >>= next) w = next (f w) w := rfl
  rw [hread, hread, hf, hnext]

/-- Catching a fault sees no more than the step. -/
theorem Unaware.attempt (hx : Unaware g x) : Unaware g (attempt x) := by
  intro w
  have hstep := hx w
  rcases hrun : x w with ⟨ending, w₁⟩
  rw [hrun] at hstep
  cases ending with
  | done a => rw [attempt_done hstep, attempt_done hrun]
  | failed f => rw [attempt_failed hstep, attempt_failed hrun]
  | cutOff => rw [attempt_cutOff hstep, attempt_cutOff hrun]

section Timefree

variable (hg : Timefree g)
include hg

/-- A clean-up behind a step that was cut off sees no more than by itself. -/
theorem Unaware.pastLimit {cleanup : Run Unit} (hcleanup : Unaware g cleanup) :
    Unaware g (pastLimit cleanup) := by
  intro w
  have hstep := hcleanup { w with limits := w.limits.tail }
  rw [← hg.withLimits] at hstep
  rcases hrun : cleanup { w with limits := w.limits.tail } with ⟨ending, v⟩
  rw [hrun] at hstep
  simp only [Run.pastLimit, hrun, hg.limits, hstep]
  cases ending with
  | done _ => simp only [hg.limits, hg.withLimits]
  | failed f => simp only [hg.overlooked, hg.withOverlooked]
  | cutOff => simp only [hg.overlooked, hg.withOverlooked]

/-- A step and its clean-up see no more than both do. -/
theorem Unaware.ensuring {cleanup : Run Unit} (hx : Unaware g x) (hcleanup : Unaware g cleanup) :
    Unaware g (ensuring x cleanup) := by
  intro w
  have hstep := hx w
  rcases hrun : x w with ⟨ending, w₁⟩
  rw [hrun] at hstep
  have hclean : Unaware g (if ending.isCutOff then Run.pastLimit cleanup else cleanup) := by
    split
    · exact .pastLimit hg hcleanup
    · exact hcleanup
  have hclean := hclean w₁
  rcases hrun' : (if ending.isCutOff then Run.pastLimit cleanup else cleanup) w₁ with ⟨ending', w₂⟩
  rw [hrun'] at hclean
  simp only [Run.ensuring, hstep, hrun, hclean, hrun']
  cases ending' <;> rfl

/-- A wait sees no more than the step that waits. -/
theorem Unaware.waiting (hx : Unaware g x) : Unaware g (waiting x) := by
  intro w
  have hstep := hx (w.replacingLimit w.limit (w.limit.map Moment.felt))
  rcases hrun : x (w.replacingLimit w.limit (w.limit.map Moment.felt)) with ⟨ending, v⟩
  rw [hrun] at hstep
  simp only [Run.waiting, hg.limit, hg.replacingLimit, hstep, hrun]
  cases ending with
  | done a => simp only [hg.replacingLimit, hg.served]
  | failed f => simp only [hg.replacingLimit, hg.served]
  | cutOff => simp only [hg.replacingLimit]

/-- A timeout sees no more than the step. -/
theorem Unaware.within (timeout : Binary64) (hx : Unaware g x) : Unaware g (within timeout x) := by
  intro w
  rw [Run.within, Run.within, hg.now, hg.limit]
  split
  · rfl
  dsimp only
  split
  · have hstep := hx.waiting hg w
    rcases hrun : Run.waiting x w with ⟨ending, v⟩
    rw [hrun] at hstep
    rw [hstep]
    cases ending <;> rfl
  · generalize w.now.afterTimeout timeout = own
    have hstep := hx { w with limits := own :: w.limits }
    rw [← hg.withLimits] at hstep
    rcases hrun : x { w with limits := own :: w.limits } with ⟨ending, v⟩
    rw [hrun] at hstep
    dsimp only at hstep
    rw [hg.now] at hstep
    rw [hg.limits, hstep]
    cases ending with
    | done a => simp only [hg.replacingLimit]
    | failed f => simp only [hg.replacingLimit]
    | cutOff => simp only [hg.replacingLimit, hg.limit]

/-- Drawing octets does not see the change. -/
theorem unaware_drawing (draws : Entropy → α × Entropy) : Unaware g (drawing draws) := by
  intro w
  have hset := hg w w.now w.limits w.overlooked (draws w.entropy).2 w.drainTicks w.openings
  simp only [drawing, hg.entropy, hset]
  rw [← hg.now w, ← hg.limits w, ← hg.overlooked w, ← hg.drainTicks w, ← hg.openings w]

/-- Letting time pass does not see the change. -/
theorem unaware_pause (ticks : Nat) : Unaware g (pause ticks) := by
  intro w
  simp only [pause, limitPassesBy, limitOr, hg.now, hg.limit, hg.withNow]
  rfl

/-- Waiting for something does not see the change. -/
theorem unaware_awaiting (ticks : Nat) : Unaware g (awaiting ticks) := by
  rw [awaiting]
  split
  · exact unaware_pure ()
  · exact (unaware_pause hg ticks).waiting hg

/-- Waiting for output to drain does not see the change. -/
theorem unaware_awaitDrained : Unaware g awaitDrained := by
  refine (unaware_read fun w => hg.drainTicks w).bind fun waits => ?_
  cases waits with
  | nil => exact unaware_pure ()
  | cons ticks rest =>
    refine (unaware_update fun w => ?_).bind fun _ => unaware_pause hg ticks
    have hset := hg w w.now w.limits w.overlooked w.entropy rest w.openings
    rw [hset, ← hg.now w, ← hg.limits w, ← hg.overlooked w, ← hg.entropy w, ← hg.openings w]

/-- A wait without end does not see the change. -/
theorem unaware_waitForever : Unaware g (waitForever : Run α) := by
  intro w
  simp only [waitForever, hg.now, hg.limit, hg.withNow]

/-- The next opening takes as long. -/
theorem unaware_nextOpening : Unaware g nextOpening := by
  intro w
  have hset := hg w w.now w.limits w.overlooked w.entropy w.drainTicks w.openings.tail
  simp only [nextOpening, hg.openings, hset]
  rw [← hg.now w, ← hg.limits w, ← hg.overlooked w, ← hg.entropy w, ← hg.drainTicks w]

/-- Ambient steps do not see a change that leaves the settings. -/
theorem Ambient.unaware {endless : Prop} (hsettings : ∀ w, (g w).settings = w.settings)
    (h : Ambient endless α x) : Unaware g x := by
  cases h with
  | drawing draws => exact unaware_drawing hg draws
  | pause ticks => exact unaware_pause hg ticks
  | awaiting ticks => exact unaware_awaiting hg ticks
  | drain => exact unaware_awaitDrained hg
  | opening => exact unaware_nextOpening hg
  | waitForever _ => exact unaware_waitForever hg
  | look f => exact unaware_read fun w => by rw [hg.now, hsettings]

/-- What is built of steps that do not see the change does not either. -/
theorem BuiltWith.unaware {kind : StepKind} (hx : Built kind x)
    (hkind : ∀ α x, kind α x → Unaware g x) : Unaware g x := by
  induction hx with
  | step h => exact hkind _ _ h
  | pure a => exact unaware_pure a
  | fail _ => exact unaware_fail _
  | bind _ _ ihx ihnext => exact ihx.bind ihnext
  | attempt _ _ _ ihx ihdone ihfailed =>
    refine ihx.attempt.bind fun result => ?_
    cases result with
    | ok a => exact ihdone a
    | error f => exact ihfailed f trivial
  | ensuring _ _ ihx ihcleanup => exact ihx.ensuring hg ihcleanup
  | within timeout _ ih => exact ih.within hg timeout

end Timefree

end Run

namespace World

/-- A change that has nothing to do with streams either. -/
structure Streamless (g : World → World) : Prop where
  timefree : Timefree g
  settings : ∀ w, (g w).settings = w.settings
  exporter : ∀ w, (g w).exporter = w.exporter
  withStreams : ∀ (w : World) keScripts streams,
    { g w with keScripts, streams } = g { w with keScripts, streams }

namespace Streamless

variable {g : World → World}

/-- A change that has nothing to do with streams leaves those that will be opened. -/
theorem keScripts (hg : Streamless g) (w : World) : (g w).keScripts = w.keScripts :=
  (congrArg World.keScripts (hg.withStreams w w.keScripts w.streams)).symm

/-- A change that has nothing to do with streams leaves those that are there. -/
theorem streams (hg : Streamless g) (w : World) : (g w).streams = w.streams :=
  (congrArg World.streams (hg.withStreams w w.keScripts w.streams)).symm

/-- A change that has nothing to do with streams leaves each of them. -/
theorem stream (hg : Streamless g) (w : World) (i : Nat) : (g w).stream i = w.stream i := by
  rw [World.stream, World.stream, hg.streams]

/-- A stream may be replaced before or after. -/
theorem setStream (hg : Streamless g) (w : World) (i : Nat) (s : KeStream) :
    (g w).setStream i s = g (w.setStream i s) := by
  rw [World.setStream, World.setStream, hg.streams]
  refine Eq.trans ?_ (hg.withStreams w w.keScripts (w.streams.set i s))
  rw [← hg.keScripts w]

end Streamless

end World

namespace Run

open World

variable {α : Type} {g : World → World} {x : Run α} (hg : Streamless g)
include hg

/-- Changing a stream does not see the change. -/
theorem unaware_updateStream (i : Nat) (f : KeStream → KeStream) :
    Unaware g (updateStream i f) := unaware_update fun w => by rw [hg.stream, hg.setStream]

/-- What is done on a stream does not see the change. -/
theorem OnStream.unaware {i : Nat} (h : OnStream i α x) : Unaware g x := by
  have hexport (use : Export) : Unaware g (Run.exportKey i use) := fun w => by
    simp only [Run.exportKey, hg.stream, hg.exporter, hg.setStream]
  cases h with
  | send data =>
    exact (unaware_read fun w => by rw [hg.stream]).bind fun fault =>
      (unaware_updateStream hg i _).bind fun _ => (unaware_awaitDrained hg.timefree).bind fun _ =>
        unaware_suffer fault
  | receive =>
    intro w
    rw [receiveRecord, receiveRecord, hg.stream, hg.timefree.limits, hg.timefree.now]
    generalize awaitRecord w.limits (w.stream i).chunks w.now (w.stream i).buffer = wait
    dsimp only
    rw [hg.setStream, hg.timefree.withNow, hg.timefree.limits, hg.timefree.overlooking]
  | exportKey use => exact hexport use
  | derive aead direction => exact (hexport _).bind fun _ => unaware_ofExcept _
  | look f => exact unaware_read fun w => by rw [hg.stream, hg.settings]

/-- Opening a stream does not see the change. -/
theorem unaware_openStream (address : Address) (caFile : Option String)
    (maxRecords : Option Int) : Unaware g (openStream address caFile maxRecords) := by
  have hsecure (i ticks : Nat) (fault : Option Fault) :
      Unaware g (secureStream i ticks fault) := by
    refine (unaware_awaiting hg.timefree ticks).bind fun _ => ?_
    cases fault with
    | none => exact unaware_pure ()
    | some cause =>
      dsimp only [abandonStream]
      split
      · exact (unaware_awaitDrained hg.timefree).bind fun _ =>
          (unaware_updateStream hg i _).bind fun _ => unaware_fail cause
      · exact unaware_fail cause
  have henter : Unaware g (enterStream address caFile maxRecords) := fun w => by
    have hlimit : KeStream.recordLimit maxRecords (g w).settings =
        KeStream.recordLimit maxRecords w.settings := by rw [hg.settings]
    simp only [enterStream, hg.keScripts, hg.streams, hlimit, hg.withStreams]
  refine henter.bind fun entered => ?_
  obtain ⟨i, script⟩ := entered
  cases script with
  | none => exact unaware_fail _
  | some script =>
    exact (unaware_nextOpening hg.timefree).bind fun opening =>
      ((unaware_awaiting hg.timefree opening.connectTicks).bind fun _ =>
        (unaware_suffer _).bind fun _ => unaware_updateStream hg i _).bind fun _ =>
      (hsecure i opening.handshakeTicks _).bind fun _ => unaware_pure i

/-- Closing a stream does not see the change. -/
theorem unaware_closeStream (i : Nat) : Unaware g (closeStream i) :=
  (unaware_awaitDrained hg.timefree).bind fun _ => unaware_updateStream hg i _

/-- A key establishment does not see the change. -/
theorem unaware_establishTarget (c : RunConfig) : Unaware g (establishTarget c) :=
  (unaware_openStream hg _ _ _).bind fun i => .ensuring hg.timefree
    ((built_establish_default (fun _ _ => trivial) i).unaware hg.timefree fun _ _ h => h.unaware hg)
    (unaware_closeStream hg i)

end Run

end TimeProbe

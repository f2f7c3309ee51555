import TimeProbe.Proofs.RunSteps

/-!
# What steps establish and keep

A step establishes a property of the world if it holds however the step ends, and along with it
goes a bound on the faults that the step may raise. Rows, caught faults, clean-ups and timeouts
establish what their parts do. The laws of the combinators are proved here, once for all
properties that do not look at the clock or at limits.
-/

namespace TimeProbe

namespace World

/-- A property that has to do neither with the clock and limits, nor with what is drawn, nor with
how long opening and draining take. -/
def Timeless (p : World → Prop) : Prop :=
  ∀ (w : World) (now : Moment) (limits overlooked : List Moment) (entropy : Entropy)
    (drainTicks : List Nat) (openings : List Opening), p w →
      p { w with now, limits, overlooked, entropy, drainTicks, openings }

variable {p : World → Prop} {w : World}

/-- The limits are no matter of a timeless property. -/
theorem Timeless.withLimits (hp : Timeless p) (limits overlooked : List Moment) (hw : p w) :
    p { w with limits, overlooked } :=
  hp w w.now limits overlooked w.entropy w.drainTicks w.openings hw

/-- The clock is no matter of a timeless property. -/
theorem Timeless.withNow (hp : Timeless p) (now : Moment) (hw : p w) : p { w with now } :=
  hp w now w.limits w.overlooked w.entropy w.drainTicks w.openings hw

/-- Overlooking limits is no matter of a timeless property. -/
theorem Timeless.overlooking (hp : Timeless p) (n : Nat) (hw : p w) : p (w.overlooking n) :=
  hp.withLimits _ _ hw

/-- Replacing a limit is no matter of a timeless property. -/
theorem Timeless.replacingLimit (hp : Timeless p) (expected other : Option Moment) (hw : p w) :
    p (w.replacingLimit expected other) := by
  obtain ⟨limits, hlimits⟩ := w.exists_replacingLimit expected other
  rw [hlimits]
  exact hp.withLimits limits w.overlooked hw

end World

/-- A step that ended with no other than an allowed fault. -/
def Ending.RaisesOnly {α : Type} (allowed : Fault → Prop) : Ending α → Prop
  | .done _ => True
  | .failed f => allowed f
  | .cutOff => True

namespace Run

open World

variable {α β γ : Type} {allowed : Fault → Prop} {pre mid post inv : World → Prop} {x : Run α}
  {next : α → Run β} {cleanup : Run Unit}

/-- A step that establishes a property and raises no other than allowed faults, wherever it starts
with some property. -/
def Ensures (allowed : Fault → Prop) (pre post : World → Prop) (x : Run α) : Prop :=
  ∀ w, pre w → post (x w).2 ∧ (x w).1.RaisesOnly allowed

/-- A step that keeps a property and raises no other than allowed faults. -/
abbrev Keeps (allowed : Fault → Prop) (inv : World → Prop) (x : Run α) : Prop :=
  Ensures allowed inv inv x

/-- A step without effect keeps everything. -/
theorem keeps_pure (a : α) : Keeps allowed inv (pure a : Run α) := fun _ hw => ⟨hw, trivial⟩

/-- An allowed fault may be raised. -/
theorem keeps_fail {f : Fault} (hf : allowed f) : Keeps allowed inv (fail f : Run α) :=
  fun _ hw => ⟨hw, hf⟩

/-- A computation keeps everything, and its faults have to be allowed. -/
theorem keeps_ofExcept {r : Except Fault α} (hr : ∀ f, r = .error f → allowed f) :
    Keeps allowed inv (ofExcept r) := by
  cases r with
  | ok a => exact keeps_pure a
  | error f => exact keeps_fail (hr f rfl)

/-- A fault that a script prescribes has to be allowed. -/
theorem keeps_suffer {cause : Option Fault} (hcause : ∀ f ∈ cause, allowed f) :
    Keeps allowed inv (suffer cause) := by
  cases cause with
  | none => exact keeps_pure ()
  | some f => exact keeps_fail (hcause f rfl)

/-- Reading keeps everything. -/
theorem keeps_read (f : World → α) : Keeps allowed inv (read f) := fun _ hw => ⟨hw, trivial⟩

/-- A change of the world establishes what holds behind it. -/
theorem ensures_update {f : World → World} (hf : ∀ w, pre w → post (f w)) :
    Ensures allowed pre post (update f) :=
  fun w hw => ⟨hf w hw, trivial⟩

/-- What establishes a stronger property from a weaker one, with fewer faults. -/
theorem Ensures.imp {pre' post' : World → Prop} {allowed' : Fault → Prop}
    (hx : Ensures allowed pre post x) (hpre : ∀ w, pre' w → pre w)
    (hpost : ∀ w, post w → post' w) (hallowed : ∀ f, allowed f → allowed' f) :
    Ensures allowed' pre' post' x := by
  intro w hw
  obtain ⟨hleft, hending⟩ := hx w (hpre w hw)
  refine ⟨hpost _ hleft, ?_⟩
  cases hrun : (x w).1 with
  | done a => trivial
  | failed f =>
    rw [hrun] at hending
    exact hallowed f hending
  | cutOff => trivial

/-- A row establishes what its first step does, if the rest does so wherever that step has a
result. -/
theorem Ensures.follow (hx : Ensures allowed pre post x)
    (hnext : ∀ w a w', pre w → x w = (.done a, w') →
      post (next a w').2 ∧ (next a w').1.RaisesOnly allowed) :
    Ensures allowed pre post (x >>= next) := by
  intro w hw
  obtain ⟨hleft, hending⟩ := hx w hw
  rcases hrun : x w with ⟨ending, w₁⟩
  rw [hrun] at hleft hending
  cases ending with
  | done a =>
    rw [bind_done hrun]
    exact hnext w a w₁ hw hrun
  | failed f =>
    rw [bind_failed hrun]
    exact ⟨hleft, hending⟩
  | cutOff =>
    rw [bind_cutOff hrun]
    exact ⟨hleft, trivial⟩

/-- A row establishes what its second step does from what the first one establishes. -/
theorem Ensures.seq (hx : Ensures allowed pre mid x) (hpost : ∀ w, mid w → post w)
    (hnext : ∀ a, Ensures allowed mid post (next a)) : Ensures allowed pre post (x >>= next) := by
  refine (hx.imp (fun _ => id) hpost fun _ => id).follow fun w a w' hw hrun => ?_
  have hleft := (hx w hw).1
  rw [hrun] at hleft
  exact hnext a w' hleft

/-- A row of steps that keep what the first one establishes. -/
theorem Ensures.bind (hx : Ensures allowed pre inv x) (hnext : ∀ a, Keeps allowed inv (next a)) :
    Ensures allowed pre inv (x >>= next) := hx.seq (fun _ => id) hnext

/-- What follows a step whose fault is caught goes on with a result, or with an allowed fault. -/
theorem Ensures.attempt_bind {next : Except Fault α → Run β} (hx : Ensures allowed pre inv x)
    (hdone : ∀ a, Keeps allowed inv (next (.ok a)))
    (hfailed : ∀ f, allowed f → Keeps allowed inv (next (.error f))) :
    Ensures allowed pre inv (attempt x >>= next) := by
  intro w hw
  obtain ⟨hleft, hending⟩ := hx w hw
  rcases hrun : x w with ⟨ending, w₁⟩
  rw [hrun] at hleft hending
  cases ending with
  | done a =>
    rw [bind_done (attempt_done hrun)]
    exact hdone a w₁ hleft
  | failed f =>
    rw [bind_done (attempt_failed hrun)]
    exact hfailed f hending w₁ hleft
  | cutOff =>
    rw [bind_cutOff (attempt_cutOff hrun)]
    exact ⟨hleft, trivial⟩

/-- Catching a fault establishes what the step does. -/
theorem Ensures.attempt (hx : Ensures allowed pre inv x) : Ensures allowed pre inv (attempt x) :=
  attempt_bind_pure x ▸ hx.attempt_bind (fun _ => keeps_pure _) fun _ _ => keeps_pure _

/-- A clean-up keeps a timeless property also behind a step that was cut off. -/
theorem Ensures.pastLimit (hinv : Timeless inv) (hcleanup : Keeps allowed inv cleanup) :
    Keeps allowed inv (pastLimit cleanup) := by
  intro w hw
  obtain ⟨hleft, hending⟩ :=
    hcleanup { w with limits := w.limits.tail } (hinv.withLimits _ w.overlooked hw)
  rcases hrun : cleanup { w with limits := w.limits.tail } with ⟨ending, v⟩
  rw [hrun] at hleft hending
  cases ending with
  | done _ =>
    simp only [Run.pastLimit, hrun]
    exact ⟨hinv.withLimits _ v.overlooked hleft, trivial⟩
  | failed f =>
    simp only [Run.pastLimit, hrun]
    exact ⟨hinv.withLimits v.limits _ hleft, hending⟩
  | cutOff =>
    simp only [Run.pastLimit, hrun]
    exact ⟨hinv.withLimits v.limits _ hleft, trivial⟩

/-- A step with a clean-up establishes a timeless property that the clean-up keeps. -/
theorem Ensures.ensuring (hinv : Timeless inv) (hx : Ensures allowed pre inv x)
    (hcleanup : Keeps allowed inv cleanup) : Ensures allowed pre inv (ensuring x cleanup) := by
  intro w hw
  obtain ⟨hleft, hending⟩ := hx w hw
  rcases hrun : x w with ⟨ending, w₁⟩
  rw [hrun] at hleft hending
  have hclean : Keeps allowed inv (if ending.isCutOff then Run.pastLimit cleanup else cleanup) := by
    split
    · exact .pastLimit hinv hcleanup
    · exact hcleanup
  obtain ⟨hleft', hending'⟩ := hclean w₁ hleft
  rcases hrun' : (if ending.isCutOff then Run.pastLimit cleanup else cleanup) w₁ with ⟨last, w₂⟩
  rw [hrun'] at hleft' hending'
  simp only [Run.ensuring, hrun, hrun']
  cases last with
  | done _ => exact ⟨hleft', hending⟩
  | failed f => exact ⟨hleft', hending'⟩
  | cutOff => exact ⟨hleft', trivial⟩

/-- A wait establishes the timeless properties that the step does that waits. -/
theorem Ensures.waiting (hpre : Timeless pre) (hpost : Timeless post)
    (hx : Ensures allowed pre post x) : Ensures allowed pre post (waiting x) := by
  intro w hw
  have hstart : pre (w.replacingLimit w.limit (w.limit.map Moment.felt)) :=
    hpre.replacingLimit _ _ hw
  obtain ⟨hleft, hending⟩ := hx _ hstart
  rcases hrun : x (w.replacingLimit w.limit (w.limit.map Moment.felt)) with ⟨ending, v⟩
  rw [hrun] at hleft hending
  have hback : post (v.replacingLimit (w.limit.map Moment.felt) w.limit) :=
    hpost.replacingLimit _ _ hleft
  simp only [Run.waiting, hrun]
  cases ending with
  | done a => exact ⟨hpost.overlooking _ hback, trivial⟩
  | failed f => exact ⟨hpost.overlooking _ hback, hending⟩
  | cutOff => exact ⟨hback, trivial⟩

/-- A timeout establishes the timeless properties that the step does, if they hold without the step
as well. -/
theorem Ensures.within (hpre : Timeless pre) (hpost : Timeless post)
    (hskip : ∀ w, pre w → post w) (timeout : Binary64) (hx : Ensures allowed pre post x) :
    Ensures allowed pre post (within timeout x) := by
  intro w hw
  rw [Run.within]
  split
  · exact ⟨hskip w hw, trivial⟩
  dsimp only
  split
  · obtain ⟨hleft, hending⟩ := hx.waiting hpre hpost w hw
    rcases hrun : Run.waiting x w with ⟨ending, v⟩
    rw [hrun] at hleft hending
    cases ending with
    | done a => exact ⟨hleft, trivial⟩
    | failed f => exact ⟨hleft, hending⟩
    | cutOff => exact ⟨hleft, trivial⟩
  · generalize hown : ({ w with limits := w.now.afterTimeout timeout :: w.limits } : World) = u
    obtain ⟨hleft, hending⟩ := hx u (hown ▸ hpre.withLimits _ w.overlooked hw)
    rcases hrun : x u with ⟨ending, v⟩
    rw [hrun] at hleft hending
    have hback := hpost.replacingLimit (some (w.now.afterTimeout timeout)) none hleft
    cases ending with
    | done a => exact ⟨hback, trivial⟩
    | failed f => exact ⟨hback, hending⟩
    | cutOff =>
      refine ⟨hback, ?_⟩
      dsimp only
      split <;> trivial

section Passing

variable (hinv : Timeless inv)
include hinv

/-- Letting time pass keeps what is timeless. -/
theorem keeps_pause (ticks : Nat) : Keeps allowed inv (pause ticks) := by
  intro w hw
  refine ⟨hinv.withNow _ hw, ?_⟩
  rw [Run.pause]
  dsimp only
  split <;> trivial

/-- Waiting for something keeps what is timeless. -/
theorem keeps_awaiting (ticks : Nat) : Keeps allowed inv (awaiting ticks) := by
  rw [Run.awaiting]
  split
  · exact keeps_pure ()
  · exact (keeps_pause hinv ticks).waiting hinv hinv

/-- Waiting for output to drain keeps what is timeless. -/
theorem keeps_awaitDrained : Keeps allowed inv awaitDrained := by
  refine (keeps_read _).bind fun waits => ?_
  cases waits with
  | nil => exact keeps_pure ()
  | cons ticks rest =>
    exact (ensures_update fun w hw => hinv w _ _ _ _ _ _ hw).bind fun _ => keeps_pause hinv ticks

end Passing

/-- However a step ends, a part of the world is what it was before. -/
def Leaves (part : World → γ) (x : Run α) : Prop := ∀ w, part (x w).2 = part w

variable {part : World → γ}

/-- To leave a part of the world is to keep every value of it. -/
theorem leaves_iff_keeps :
    Leaves part x ↔ ∀ value, Keeps (fun _ => True) (fun w => part w = value) x := by
  constructor
  · intro hx value w hw
    refine ⟨(hx w).trans hw, ?_⟩
    cases (x w).1 <;> trivial
  · exact fun hx w => (hx (part w) w rfl).1

/-- A part of the world that has nothing to do with time. -/
def Untimed (part : World → γ) : Prop := ∀ value, Timeless fun w => part w = value

/-- A part that is the same whatever the time is has nothing to do with it. -/
theorem untimed_of_eq (hpart : ∀ (w : World) (now : Moment) (limits overlooked : List Moment)
    (entropy : Entropy) (drainTicks : List Nat) (openings : List Opening),
      part { w with now, limits, overlooked, entropy, drainTicks, openings } = part w) :
    Untimed part :=
  fun _ w now limits overlooked entropy drainTicks openings hw =>
    (hpart w now limits overlooked entropy drainTicks openings).trans hw

/-- Reading leaves everything. -/
theorem leaves_read (part : World → γ) (f : World → α) : Leaves part (read f) := fun _ => rfl

/-- A row of steps leaves what all of its steps leave. -/
theorem Leaves.bind (hx : Leaves part x) (hnext : ∀ a, Leaves part (next a)) :
    Leaves part (x >>= next) :=
  leaves_iff_keeps.mpr fun value => (leaves_iff_keeps.mp hx value).bind fun a =>
    leaves_iff_keeps.mp (hnext a) value

/-- A step and its clean-up leave what both leave. -/
theorem Leaves.ensuring (hpart : Untimed part) (hx : Leaves part x)
    (hcleanup : Leaves part cleanup) : Leaves part (ensuring x cleanup) :=
  leaves_iff_keeps.mpr fun value => (leaves_iff_keeps.mp hx value).ensuring (hpart value)
    (leaves_iff_keeps.mp hcleanup value)

/-- A timeout leaves what the step leaves, time apart. -/
theorem Leaves.within (hpart : Untimed part) (timeout : Binary64) (hx : Leaves part x) :
    Leaves part (within timeout x) :=
  leaves_iff_keeps.mpr fun value => (leaves_iff_keeps.mp hx value).within (hpart value)
    (hpart value) (fun _ => id) timeout

end Run

end TimeProbe

import TimeProbe.Proofs.TimelyWorlds

/-!
# Limits that are heeded

A step heeds the limits around it if it goes on in time, if a limit that is no longer there behind
it was overlooked once its time had come, and if it is cut off no sooner than by the innermost limit
that is left. Rows, clean-ups, waits and timeouts of steps that heed limits do so themselves.
-/

namespace TimeProbe

/-- The end of a step that heeds limits: it was cut off by one that has been reached, or they are
still to come. -/
def Ending.InTime {α : Type} (endless : Prop) (w : World) : Ending α → Prop
  | .done _ => w.Timely
  | .failed _ => w.Timely
  | .cutOff => w.Overdue endless

namespace Run

open World

variable {α β : Type} {endless : Prop} {x : Run α} {w : World}

/-- A step heeds the limits around it where it starts. -/
def HeedsAt (endless : Prop) (x : Run α) (w : World) : Prop :=
  w.Elapses (x w).2 ∧ (x w).1.InTime endless (x w).2

/-- A step that heeds the limits around it. Where `endless` does not hold, it is cut off only by a
limit that is there. -/
def Heeds (endless : Prop) (x : Run α) : Prop := ∀ w, w.Timely → HeedsAt endless x w

/-- A step that heeds the limits around it wherever there is one, and comes to an end then. -/
def Bounded (x : Run α) : Prop := ∀ w : World, w.Timely → w.limits ≠ [] → HeedsAt False x w

/-- What heeds limits and does not wait without end comes to an end wherever there is one. -/
theorem Heeds.bounded (hx : Heeds False x) : Bounded x := fun w hw _ => hx w hw

/-- A step that takes no time, leaves limits alone and is not cut off heeds them. -/
theorem heeds_of_still (hstill : ∀ w, (x w).1.isCutOff = false ∧ (x w).2.now = w.now ∧
    (x w).2.limits = w.limits ∧ (x w).2.overlooked = w.overlooked) : Heeds endless x := by
  intro w hw
  obtain ⟨hended, hnow, hlimits, hoverlooked⟩ := hstill w
  refine ⟨elapses_of_eq hnow hlimits hoverlooked, ?_⟩
  cases hending : (x w).1 with
  | done a => exact hw.of_eq hnow hlimits
  | failed f => exact hw.of_eq hnow hlimits
  | cutOff =>
    rw [hending] at hended
    cases hended

/-- A change of something else heeds limits. -/
theorem heeds_update {f : World → World} (hstill : ∀ w, (f w).now = w.now ∧
    (f w).limits = w.limits ∧ (f w).overlooked = w.overlooked) : Heeds endless (update f) :=
  heeds_of_still fun w => ⟨rfl, hstill w⟩

/-- A step without effect heeds limits. -/
theorem heeds_pure (a : α) : Heeds endless (pure a : Run α) :=
  heeds_of_still fun _ => ⟨rfl, rfl, rfl, rfl⟩

/-- Raising a fault heeds limits. -/
theorem heeds_fail (f : Fault) : Heeds endless (fail f : Run α) :=
  heeds_of_still fun _ => ⟨rfl, rfl, rfl, rfl⟩

/-- A computation heeds limits. -/
theorem heeds_ofExcept (r : Except Fault α) : Heeds endless (ofExcept r) := by
  cases r with
  | ok a => exact heeds_pure a
  | error f => exact heeds_fail f

/-- A fault that a script prescribes heeds limits. -/
theorem heeds_suffer (cause : Option Fault) : Heeds endless (suffer cause) := by
  cases cause with
  | none => exact heeds_pure ()
  | some f => exact heeds_fail f

/-- Reading heeds limits. -/
theorem heeds_read (f : World → α) : Heeds endless (read f) :=
  heeds_of_still fun _ => ⟨rfl, rfl, rfl, rfl⟩

/-- A row heeds the limits around it if its first step does, and the rest does so where that step
has a result. -/
theorem HeedsAt.bind {next : α → Run β} (hx : HeedsAt endless x w)
    (hnext : ∀ a v, x w = (.done a, v) → v.Timely → HeedsAt endless (next a) v) :
    HeedsAt endless (x >>= next) w := by
  obtain ⟨helapses, hending⟩ := hx
  rw [HeedsAt]
  rcases hrun : x w with ⟨ending, v⟩
  rw [hrun] at helapses hending
  cases ending with
  | done a =>
    rw [bind_done hrun]
    obtain ⟨helapses', hending'⟩ := hnext a v hrun hending
    exact ⟨helapses.trans helapses', hending'⟩
  | failed f =>
    rw [bind_failed hrun]
    exact ⟨helapses, hending⟩
  | cutOff =>
    rw [bind_cutOff hrun]
    exact ⟨helapses, hending⟩

/-- A row of steps that heed limits does so. -/
theorem Heeds.bind {next : α → Run β} (hx : Heeds endless x) (hnext : ∀ a, Heeds endless (next a)) :
    Heeds endless (x >>= next) :=
  fun w hw => (hx w hw).bind fun a v _ hv => hnext a v hv

/-- A step whose fault is caught heeds the limits that it heeds by itself. -/
theorem Heeds.attempt (hx : Heeds endless x) : Heeds endless (attempt x) := by
  intro w hw
  obtain ⟨helapses, hending⟩ := hx w hw
  rw [HeedsAt]
  rcases hrun : x w with ⟨ending, v⟩
  rw [hrun] at helapses hending
  cases ending with
  | done a =>
    rw [attempt_done hrun]
    exact ⟨helapses, hending⟩
  | failed f =>
    rw [attempt_failed hrun]
    exact ⟨helapses, hending⟩
  | cutOff =>
    rw [attempt_cutOff hrun]
    exact ⟨helapses, hending⟩

/-- What heeds limits and does not wait without end is not cut off where there are none, and none
appear. -/
theorem Heeds.unlimited (hx : Heeds False x) (hlimits : w.limits = []) :
    (x w).2.limits = [] ∧ (x w).1.isCutOff = false := by
  obtain ⟨helapses, hending⟩ := hx w (timely_of_unlimited hlimits)
  have hnone : (x w).2.limits = [] := List.sublist_nil.mp (hlimits ▸ helapses.limits)
  refine ⟨hnone, ?_⟩
  cases hrun : (x w).1 with
  | done a => rfl
  | failed f => rfl
  | cutOff =>
    rw [hrun] at hending
    exact (hending.bounded hnone).elim

/-- A clean-up behind a step that was cut off leaves the limit that did it, or overlooks it. -/
theorem Heeds.pastLimit {cleanup : Run Unit} (hcleanup : Heeds endless cleanup)
    (hw : w.Overdue endless) :
    w.Elapses (pastLimit cleanup w).2 ∧
      ((pastLimit cleanup w).1 = .done () → (pastLimit cleanup w).2.Overdue endless) ∧
      ((pastLimit cleanup w).1 ≠ .done () →
        (pastLimit cleanup w).1.InTime endless (pastLimit cleanup w).2) := by
  obtain ⟨helapses, hending⟩ := hcleanup _ hw.others
  obtain ⟨more, hmore, hgone⟩ := helapses.overlooked
  have hforward := helapses.forward
  rcases hrun : cleanup { w with limits := w.limits.tail } with ⟨ending, v⟩
  rw [hrun] at helapses hending hmore hgone hforward
  have hreached : ∀ limit ∈ w.limits.head?,
      limit.time ≤ v.now.time ∧ v.now.before limit = false := by
    intro limit hlimit
    have hpassed := Moment.before_eq_false_trans (hw.reached limit hlimit) hforward
    exact ⟨Moment.time_le_of_before_eq_false hpassed, hpassed⟩
  have hsplit : w.limits.take 1 ++ w.limits.tail = w.limits := by
    cases w.limits <;> rfl
  -- What a clean-up that does not end well leaves: the limit is overlooked.
  have hlost : w.Elapses { v with overlooked := v.overlooked ++ w.limits.take 1 } := by
    refine ⟨hforward, helapses.limits.trans (List.tail_sublist _), more ++ w.limits.take 1, ?_,
      fun limit hlimit => ?_⟩
    · rw [← List.append_assoc, ← hmore]
    · rw [← hsplit] at hlimit
      rcases List.mem_append.mp hlimit with hfirst | hother
      · refine .inr ⟨limit, List.mem_append_right _ hfirst, rfl, (hreached limit ?_).1⟩
        rw [List.take_one] at hfirst
        exact Option.mem_toList.mp hfirst
      · exact (hgone limit hother).imp_right fun ⟨m, hm, h⟩ => ⟨m, List.mem_append_left _ hm, h⟩
  cases ending with
  | done _ =>
    simp only [Run.pastLimit, hrun]
    have hkept : (w.limits.take 1 ++ v.limits).Sublist w.limits := by
      have hboth := (List.append_sublist_append_left (w.limits.take 1)).mpr helapses.limits
      rwa [hsplit] at hboth
    refine ⟨⟨hforward, hkept, more, hmore, fun limit hlimit => ?_⟩, fun _ => ?_,
      fun h => absurd rfl h⟩
    · rw [← hsplit] at hlimit
      rcases List.mem_append.mp hlimit with hfirst | hother
      · exact .inl (List.mem_append_left _ hfirst)
      · exact (hgone limit hother).imp_left (List.mem_append_right _)
    · exact hw.restored hending helapses.limits fun limit hlimit => (hreached limit hlimit).2
  | failed f =>
    simp only [Run.pastLimit, hrun]
    exact ⟨hlost, nofun, fun _ => Timely.of_eq hending rfl rfl⟩
  | cutOff =>
    simp only [Run.pastLimit, hrun]
    exact ⟨hlost, nofun, fun _ =>
      ⟨hending.bounded, hending.reached, hending.ahead, hending.ordered⟩⟩

/-- A step with a clean-up heeds limits if both do. -/
theorem Heeds.ensuring {cleanup : Run Unit} (hx : Heeds endless x)
    (hcleanup : Heeds endless cleanup) : Heeds endless (ensuring x cleanup) := by
  intro w hw
  obtain ⟨helapses, hending⟩ := hx w hw
  rw [HeedsAt]
  rcases hrun : x w with ⟨ending, v⟩
  rw [hrun] at helapses hending
  -- Behind a step that was not cut off the clean-up starts where limits are still to come.
  have hended (hv : v.Timely) (hnot : ending.isCutOff = false) :
      w.Elapses (Run.ensuring x cleanup w).2 ∧
        (Run.ensuring x cleanup w).1.InTime endless (Run.ensuring x cleanup w).2 := by
    obtain ⟨helapses', hending'⟩ := hcleanup v hv
    rcases hclean : cleanup v with ⟨last, u⟩
    rw [hclean] at helapses' hending'
    simp only [Run.ensuring, hrun, hnot, Bool.false_eq_true, if_false, hclean]
    cases last with
    | done _ =>
      refine ⟨helapses.trans helapses', ?_⟩
      cases ending with
      | done a => exact hending'
      | failed f => exact hending'
      | cutOff => cases hnot
    | failed f => exact ⟨helapses.trans helapses', hending'⟩
    | cutOff => exact ⟨helapses.trans helapses', hending'⟩
  cases ending with
  | done a => exact hended hending rfl
  | failed f => exact hended hending rfl
  | cutOff =>
    obtain ⟨helapses', hdone, hother⟩ := hcleanup.pastLimit hending
    rcases hclean : Run.pastLimit cleanup v with ⟨last, u⟩
    rw [hclean] at helapses' hdone hother
    simp only [Run.ensuring, hrun, Ending.isCutOff, if_true, hclean]
    cases last with
    | done _ => exact ⟨helapses.trans helapses', hdone rfl⟩
    | failed f => exact ⟨helapses.trans helapses', hother (by rintro ⟨⟩)⟩
    | cutOff => exact ⟨helapses.trans helapses', hother (by rintro ⟨⟩)⟩

/-- Letting time pass heeds limits. -/
theorem heeds_pause (ticks : Nat) : Heeds endless (pause ticks) := by
  intro w hw
  have hlater := Moment.before_eq_false_of_before (w.now.before_afterPause ticks)
  rw [HeedsAt, pause]
  dsimp only
  rw [limitPassesBy, limitOr]
  cases hlimit : w.limit with
  | none =>
    refine ⟨elapses_of_later hlater rfl rfl, timely_of_head (fun l hl => ?_) hw.ordered⟩
    rw [show w.limits.head? = none from hlimit] at hl
    cases hl
  | some limit =>
    have hmem : limit ∈ w.limits := List.mem_of_head? hlimit
    rw [Option.any_some, Option.elim_some, Moment.earlier]
    cases hpasses : (w.now.afterPause ticks).before limit with
    | true =>
      refine ⟨elapses_of_later hlater rfl rfl, timely_of_head (fun l hl => ?_) hw.ordered⟩
      rw [show w.limits.head? = some limit from hlimit] at hl
      cases hl
      exact hpasses
    | false =>
      refine ⟨elapses_of_later
        (Moment.before_eq_false_of_before (hw.ahead limit hmem)) rfl rfl, ?_⟩
      exact overdue_of_reached hlimit limit.before_self (Nat.le_refl _) hw.ordered

/-- A wait heeds limits where the step does that waits. -/
theorem heedsAt_waiting (hw : w.Timely)
    (hx : ∀ u : World, u.Timely → (u.limits = [] → w.limits = []) → HeedsAt endless x u) :
    HeedsAt endless (waiting x) w := by
  rw [HeedsAt, waiting]
  cases hlimits : w.limits with
  | nil =>
    have hnone : w.limit = none := by rw [World.limit, hlimits]; rfl
    obtain ⟨helapses, hending⟩ := hx w hw fun _ => hlimits
    simp only [hnone, Option.map_none, replacingLimit_self]
    rcases hrun : x w with ⟨ending, v⟩
    rw [hrun] at helapses hending
    cases ending with
    | done a =>
      obtain ⟨hserved, htimely⟩ := Timely.served hending
      exact ⟨helapses.trans hserved, htimely⟩
    | failed f =>
      obtain ⟨hserved, htimely⟩ := Timely.served hending
      exact ⟨helapses.trans hserved, htimely⟩
    | cutOff => exact ⟨helapses, hending⟩
  | cons limit others =>
    have hlimit : w.limit = some limit := by rw [World.limit, hlimits]; rfl
    have hself : { w with limits := limit :: others } = w := by rw [← hlimits]
    rw [← hself] at hw
    obtain ⟨helapses, hending⟩ :=
      hx { w with limits := limit.felt :: others } hw.feltLater (absurd · (List.cons_ne_nil _ _))
    rw [hlimit, Option.map_some, replacingLimit_of_eq hlimits]
    rcases hrun : x { w with limits := limit.felt :: others } with ⟨ending, v⟩
    rw [hrun] at helapses hending
    obtain ⟨hback, hserved, hoverdue⟩ := hw.feltBack endless helapses
    rw [hself] at hback
    have hrun' : x { w with limits := (some limit.felt).toList ++ others } = (ending, v) := hrun
    rw [hrun']
    cases ending with
    | done a => exact ⟨hback.trans (hserved hending).1, (hserved hending).2⟩
    | failed f => exact ⟨hback.trans (hserved hending).1, (hserved hending).2⟩
    | cutOff => exact ⟨hback, hoverdue hending⟩

/-- A wait heeds limits if the step does that waits. -/
theorem Heeds.waiting (hx : Heeds endless x) : Heeds endless (waiting x) :=
  fun _ hw => heedsAt_waiting hw fun u hu _ => hx u hu

/-- A timeout heeds the limits around it, if the step does so under a limit. -/
theorem heeds_within (timeout : Binary64)
    (hx : ∀ w : World, w.Timely → w.limits ≠ [] → HeedsAt endless x w) :
    Heeds endless (within timeout x) := by
  intro w hw
  rw [HeedsAt, within]
  split
  · exact ⟨elapses_of_eq rfl rfl rfl, hw⟩
  dsimp only
  split
  next houter =>
    have hlimits : w.limits ≠ [] := by
      intro hnone
      rw [World.limit, hnone] at houter
      cases houter
    obtain ⟨helapses, hending⟩ :=
      heedsAt_waiting (x := x) hw fun u hu hnone => hx u hu fun h => hlimits (hnone h)
    rcases hrun : Run.waiting x w with ⟨ending, v⟩
    rw [hrun] at helapses hending
    cases ending with
    | done a => exact ⟨helapses, hending⟩
    | failed f => exact ⟨helapses, hending⟩
    | cutOff => exact ⟨helapses, hending⟩
  next houter =>
    have hown := hw.within (w.now.before_afterTimeout timeout) (Bool.not_eq_true _ ▸ houter)
    obtain ⟨helapses, hending⟩ := hx _ hown (List.cons_ne_nil _ _)
    generalize w.now.afterTimeout timeout = own at hown helapses hending ⊢
    rcases hrun : x { w with limits := own :: w.limits } with ⟨ending, v⟩
    rw [hrun] at helapses hending
    obtain ⟨hback, htimely, hoverdue⟩ := hown.ownBack endless helapses
    cases ending with
    | done a => exact ⟨hback, htimely hending⟩
    | failed f => exact ⟨hback, htimely hending⟩
    | cutOff =>
      dsimp only
      refine ⟨hback, ?_⟩
      split
      next hleft => exact (hoverdue hending).1 hleft
      next hlost => exact (hoverdue hending).2 hlost

/-- A timeout heeds limits if the step does. -/
theorem Heeds.within (timeout : Binary64) (hx : Heeds endless x) :
    Heeds endless (within timeout x) := heeds_within timeout fun w hw _ => hx w hw

/-- Waiting for something heeds limits. -/
theorem heeds_awaiting (ticks : Nat) : Heeds endless (awaiting ticks) := by
  rw [awaiting]
  split
  · exact heeds_pure ()
  · exact (heeds_pause ticks).waiting

/-- Waiting for output to drain heeds limits. -/
theorem heeds_awaitDrained : Heeds endless awaitDrained := by
  refine (heeds_read _).bind fun waits => ?_
  cases waits with
  | nil => exact heeds_pure ()
  | cons ticks rest =>
    refine Heeds.bind (heeds_update ?_) fun _ => heeds_pause ticks
    exact fun _ => ⟨rfl, rfl, rfl⟩

/-- A wait without end is cut off by the limit, where there is one. -/
theorem heedsAt_waitForever (hw : w.Timely) (hlimits : w.limits = [] → endless) :
    HeedsAt endless (waitForever : Run α) w := by
  rw [HeedsAt, waitForever]
  dsimp only
  cases hlimit : w.limit with
  | none =>
    have hnone : w.limits = [] := List.head?_eq_none_iff.mp hlimit
    refine ⟨elapses_of_eq rfl rfl rfl, fun _ => hlimits hnone, ?_, ?_, ?_⟩ <;> simp [hnone]
  | some limit =>
    have hahead := hw.ahead limit (List.mem_of_head? hlimit)
    rw [Option.elim_some, Moment.later, if_pos hahead]
    exact ⟨elapses_of_later (Moment.before_eq_false_of_before hahead) rfl rfl,
      overdue_of_reached hlimit limit.before_self (Nat.le_refl _) hw.ordered⟩

end Run

end TimeProbe

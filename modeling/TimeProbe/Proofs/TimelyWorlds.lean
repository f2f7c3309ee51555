import TimeProbe.Proofs.ClosingTime
import TimeProbe.Proofs.RunSteps

/-!
# Limits that are still to come

The limits around a step are moments still to come, and an inner one comes before an outer one. As
time goes on a limit is reached, or it is overlooked once its time has come. Setting a limit in
front of the others, feeling one later and taking one away again keep this order.
-/

namespace TimeProbe

namespace World

/-- A world whose limits are still to come, an inner one before an outer one. -/
structure Timely (w : World) : Prop where
  ahead : ∀ limit ∈ w.limits, w.now.before limit = true
  ordered : w.limits.Pairwise (·.time < ·.time)

/-- A world in which the innermost limit has been reached, and the others are still to come. Where
there is no limit, a wait goes on without end. -/
structure Overdue (endless : Prop) (w : World) : Prop where
  bounded : w.limits = [] → endless
  reached : ∀ limit ∈ w.limits.head?, w.now.before limit = false
  ahead : ∀ limit ∈ w.limits.tail, w.now.before limit = true
  ordered : w.limits.Pairwise (·.time < ·.time)

/-- What becomes of the clock and of limits: the clock does not go back, no limit is added, and one
that is no longer there was overlooked once its time had come. -/
structure Elapses (w w' : World) : Prop where
  forward : w'.now.before w.now = false
  limits : w'.limits.Sublist w.limits
  overlooked : ∃ more, w'.overlooked = w.overlooked ++ more ∧
    ∀ limit ∈ w.limits, limit ∈ w'.limits ∨
      ∃ m ∈ more, m.time = limit.time ∧ m.time ≤ w'.now.time

variable {endless : Prop} {u v w w' : World}

/-- The innermost limit is the one that comes first. -/
theorem timely_of_head (hhead : ∀ limit ∈ w.limits.head?, w.now.before limit = true)
    (hordered : w.limits.Pairwise (·.time < ·.time)) : w.Timely := by
  refine ⟨fun limit hlimit => ?_, hordered⟩
  cases hlimits : w.limits with
  | nil =>
    rw [hlimits] at hlimit
    cases hlimit
  | cons first others =>
    rw [hlimits] at hhead hordered hlimit
    have hfirst := Moment.before_iff.mp (hhead first rfl)
    rcases List.mem_cons.mp hlimit with rfl | hmem
    · exact Moment.before_iff.mpr hfirst
    · have hlater := List.rel_of_pairwise_cons hordered hmem
      exact Moment.before_iff.mpr (by omega)

/-- Without limits the world is timely. -/
theorem timely_of_unlimited (hlimits : w.limits = []) : w.Timely := by
  constructor <;> rw [hlimits]
  · exact List.forall_mem_nil _
  · exact .nil

/-- The limits around the innermost one are still to come when it is reached. -/
theorem Overdue.others (hw : w.Overdue endless) : { w with limits := w.limits.tail }.Timely :=
  ⟨hw.ahead, hw.ordered.sublist (List.tail_sublist _)⟩

/-- Time may pass. -/
theorem elapses_of_later (hnow : w'.now.before w.now = false) (hlimits : w'.limits = w.limits)
    (hoverlooked : w'.overlooked = w.overlooked) : w.Elapses w' :=
  ⟨hnow, hlimits ▸ List.Sublist.refl _, [], by rw [hoverlooked, List.append_nil],
    fun _ hlimit => .inl (hlimits ▸ hlimit)⟩

/-- The clock and the limits may stay what they were. -/
theorem elapses_of_eq (hnow : w'.now = w.now) (hlimits : w'.limits = w.limits)
    (hoverlooked : w'.overlooked = w.overlooked) : w.Elapses w' := by
  refine elapses_of_later ?_ hlimits hoverlooked
  rw [hnow]
  exact w.now.before_self

/-- A timely world stays so where neither the clock nor the limits change. -/
theorem Timely.of_eq (hw : w.Timely) (hnow : w'.now = w.now) (hlimits : w'.limits = w.limits) :
    w'.Timely := by
  refine ⟨?_, hlimits ▸ hw.ordered⟩
  rw [hnow, hlimits]
  exact hw.ahead

/-- What elapses in two steps elapses in a row. -/
theorem Elapses.trans (huv : u.Elapses v) (hvw : v.Elapses w) : u.Elapses w := by
  obtain ⟨more, hmore, hgone⟩ := huv.overlooked
  obtain ⟨later, hlater, hgone'⟩ := hvw.overlooked
  refine ⟨Moment.before_eq_false_trans huv.forward hvw.forward, hvw.limits.trans huv.limits,
    more ++ later, ?_, fun limit hlimit => ?_⟩
  · rw [hlater, hmore, List.append_assoc]
  · rcases hgone limit hlimit with hkept | ⟨m, hm, htime, hnow⟩
    · rcases hgone' limit hkept with hkept | ⟨m, hm, hreached⟩
      · exact .inl hkept
      · exact .inr ⟨m, List.mem_append_right _ hm, hreached⟩
    · exact .inr ⟨m, List.mem_append_left _ hm, htime,
        Nat.le_trans hnow (Moment.time_le_of_before_eq_false hvw.forward)⟩

/-- The first limits may be overlooked where their time has come. -/
theorem elapses_overlooking {n : Nat}
    (hreached : ∀ limit ∈ w.limits.take n, limit.time ≤ w.now.time) :
    w.Elapses (w.overlooking n) := by
  refine ⟨(elapses_of_eq rfl rfl rfl : w.Elapses w).forward, List.drop_sublist n _,
    w.limits.take n, rfl, fun limit hlimit => ?_⟩
  rw [← List.take_append_drop n w.limits] at hlimit
  rcases List.mem_append.mp hlimit with hmem | hmem
  · exact .inr ⟨limit, hmem, rfl, hreached limit hmem⟩
  · exact .inl hmem

/-- Time may pass before the first limits are overlooked. -/
theorem elapses_overlooking_later {n : Nat} (hnow : w'.now.before w.now = false)
    (hlimits : w'.limits = w.limits) (hoverlooked : w'.overlooked = w.overlooked)
    (hreached : ∀ limit ∈ w.limits.take n, limit.time ≤ w'.now.time) :
    w.Elapses (w'.overlooking n) :=
  (elapses_of_later hnow hlimits hoverlooked).trans
    (elapses_overlooking (hlimits.symm ▸ hreached))

/-- Behind a wait that got what it waited for, a limit whose time has come is overlooked. -/
theorem Timely.served (hw : w.Timely) : w.Elapses w.served ∧ w.served.Timely := by
  rw [World.served]
  split
  next hpassed =>
    refine ⟨elapses_overlooking fun limit hlimit => ?_,
      ⟨fun limit hlimit => hw.ahead limit (List.mem_of_mem_drop hlimit),
        hw.ordered.sublist (List.drop_sublist _ _)⟩⟩
    cases hlimits : w.limits with
    | nil =>
      rw [hlimits] at hlimit
      cases hlimit
    | cons first others =>
      rw [World.limit, hlimits] at hpassed
      rw [hlimits, List.take_succ_cons, List.take_zero, List.mem_singleton] at hlimit
      rw [hlimit]
      exact of_decide_eq_true hpassed
  next =>
    exact ⟨elapses_overlooking fun limit hlimit => by simp at hlimit,
      hw.of_eq rfl (List.drop_zero)⟩

/-- When the innermost limit is reached the others are still to come. -/
theorem overdue_of_reached {limit : Moment} (hlimit : w.limit = some limit)
    (hreached : w.now.before limit = false) (htime : w.now.time ≤ limit.time)
    (hordered : w.limits.Pairwise (·.time < ·.time)) : w.Overdue endless := by
  obtain ⟨others, hlimits⟩ := List.head?_eq_some_iff.mp hlimit
  refine ⟨fun hnone => ?_, fun l hl => ?_, fun l hl => ?_, hordered⟩
  · rw [hlimits] at hnone
    cases hnone
  · rw [hlimits] at hl
    cases hl
    exact hreached
  · rw [hlimits] at hl hordered
    have hlater := List.rel_of_pairwise_cons hordered hl
    exact Moment.before_iff.mpr (.inl (Nat.lt_of_le_of_lt htime hlater))

/-- A limit may be felt later than it passes. -/
theorem Timely.feltLater {limit : Moment} {others : List Moment}
    (hw : { w with limits := limit :: others }.Timely) :
    { w with limits := limit.felt :: others }.Timely := by
  have hordered := List.pairwise_cons.mp hw.ordered
  refine ⟨fun l hl => ?_, List.pairwise_cons.mpr ⟨fun l hl => ?_, hordered.2⟩⟩
  · rcases List.mem_cons.mp hl with rfl | hmem
    · exact Moment.before_felt (hw.ahead limit List.mem_cons_self)
    · exact hw.ahead l (List.mem_cons_of_mem _ hmem)
  · rw [Moment.time_felt]
    exact hordered.1 l hl

/-- A limit that was felt later is put back behind a wait. If it was overlooked in the meantime it
stays so. If the wait was not cut off and the time of the limit has come, it is overlooked now. -/
theorem Timely.feltBack (endless : Prop) {limit : Moment} {others : List Moment}
    (hw : { w with limits := limit :: others }.Timely)
    (hv : { w with limits := limit.felt :: others }.Elapses v) :
    { w with limits := limit :: others }.Elapses (v.replacingLimit limit.felt limit) ∧
      (v.Timely → (v.replacingLimit limit.felt limit).Elapses
        (v.replacingLimit limit.felt limit).served ∧
          (v.replacingLimit limit.felt limit).served.Timely) ∧
      (v.Overdue endless → (v.replacingLimit limit.felt limit).Overdue endless) := by
  have hordered := List.pairwise_cons.mp hw.ordered
  obtain ⟨more, hmore, hgone⟩ := hv.overlooked
  have hothers : ∀ l ∈ others, l ∈ v.limits ∨ ∃ m ∈ more, m.time = l.time ∧ m.time ≤ v.now.time :=
    fun l hl => hgone l (List.mem_cons_of_mem _ hl)
  rcases List.sublist_cons_iff.mp hv.limits with hlimits | ⟨kept, hlimits, hkept⟩
  · have hgone' : limit.felt ∉ v.limits := fun hmem => by
      have hlater := hordered.1 _ (hlimits.subset hmem)
      rw [Moment.time_felt] at hlater
      omega
    have hsame : v.replacingLimit limit.felt limit = v :=
      replacingLimit_of_ne fun h => hgone' (List.mem_of_head? h)
    rw [hsame]
    refine ⟨⟨hv.forward, hlimits.cons _, more, hmore, fun l hl => ?_⟩, Timely.served, id⟩
    rcases List.mem_cons.mp hl with rfl | hmem
    · have hover := (hgone _ List.mem_cons_self).resolve_left hgone'
      rw [Moment.time_felt] at hover
      exact .inr hover
    · exact hothers l hmem
  · have hback : v.replacingLimit limit.felt limit = { v with limits := limit :: kept } :=
      replacingLimit_of_eq hlimits _
    have hafter : ∀ l ∈ kept, limit.time < l.time := fun l hl => hordered.1 l (hkept.subset hl)
    have hpairwise : (limit :: kept).Pairwise (·.time < ·.time) :=
      List.pairwise_cons.mpr ⟨hafter, hordered.2.sublist hkept⟩
    rw [hback]
    refine ⟨⟨hv.forward, hkept.cons_cons limit, more, hmore, fun l hl => ?_⟩, fun htimely => ?_,
      fun hoverdue => ?_⟩
    · rcases List.mem_cons.mp hl with rfl | hmem
      · exact .inl List.mem_cons_self
      · refine (hothers l hmem).imp_left fun hleft => ?_
        rw [hlimits] at hleft
        rcases List.mem_cons.mp hleft with rfl | hkeeps
        · exact absurd (hordered.1 _ hmem) (by simp)
        · exact List.mem_cons_of_mem _ hkeeps
    · by_cases hpassed : limit.time ≤ v.now.time
      · rw [World.served, World.limit, List.head?_cons, Option.any_some, decide_eq_true hpassed,
          if_pos rfl]
        refine ⟨elapses_overlooking fun l hl => ?_, fun l hl => ?_, hordered.2.sublist hkept⟩
        · rw [List.mem_singleton.mp hl]
          exact hpassed
        · exact htimely.ahead l (hlimits ▸ List.mem_cons_of_mem _ hl)
      · refine (timely_of_head (fun l hl => ?_) hpairwise).served
        cases hl
        exact Moment.before_iff.mpr (.inl (Nat.not_le.mp hpassed))
    · have hreached := hoverdue.reached limit.felt (by rw [hlimits]; rfl)
      refine ⟨(absurd · (List.cons_ne_nil _ _)), fun l hl => ?_, fun l hl => ?_, hpairwise⟩
      · cases hl
        rw [← Bool.not_eq_true] at hreached ⊢
        exact fun h => hreached (Moment.before_felt h)
      · exact hoverdue.ahead l (by rw [hlimits]; exact hl)

/-- A limit may be set in front of those that come behind it. -/
theorem Timely.within {own : Moment} (hw : w.Timely) (hown : w.now.before own = true)
    (houter : w.limit.any (·.time ≤ own.time) = false) :
    { w with limits := own :: w.limits }.Timely := by
  refine timely_of_head (fun l hl => ?_) (List.pairwise_cons.mpr ⟨fun l hl => ?_, hw.ordered⟩)
  · cases hl
    exact hown
  · have hordered := hw.ordered
    rw [World.limit] at houter
    cases hlimits : w.limits with
    | nil =>
      rw [hlimits] at hl
      cases hl
    | cons first others =>
      rw [hlimits] at houter hordered hl
      have hfirst : own.time < first.time := by
        rw [List.head?_cons, Option.any_some, decide_eq_false_iff_not] at houter
        exact Nat.not_le.mp houter
      rcases List.mem_cons.mp hl with rfl | hmem
      · exact hfirst
      · exact Nat.lt_trans hfirst (List.rel_of_pairwise_cons hordered hmem)

/-- A limit that was set for a step is taken away behind it. If it is still there and was what cut
the step off, the others are still to come. -/
theorem Timely.ownBack (endless : Prop) {own : Moment}
    (hw : { w with limits := own :: w.limits }.Timely)
    (hv : { w with limits := own :: w.limits }.Elapses v) :
    w.Elapses (v.replacingLimit own none) ∧
      (v.Timely → (v.replacingLimit own none).Timely) ∧
      (v.Overdue endless →
        (v.limit = own → (v.replacingLimit own none).Timely) ∧
        (v.limit ≠ own → (v.replacingLimit own none).Overdue endless)) := by
  have hordered := List.pairwise_cons.mp hw.ordered
  obtain ⟨more, hmore, hgone⟩ := hv.overlooked
  have hothers : ∀ l ∈ w.limits,
      l ∈ v.limits ∨ ∃ m ∈ more, m.time = l.time ∧ m.time ≤ v.now.time :=
    fun l hl => hgone l (List.mem_cons_of_mem _ hl)
  rcases List.sublist_cons_iff.mp hv.limits with hlimits | ⟨kept, hlimits, hkept⟩
  · have hlost : v.limit ≠ some own := fun h =>
      absurd (hordered.1 own (hlimits.subset (List.mem_of_head? h))) (Nat.lt_irrefl _)
    rw [replacingLimit_of_ne hlost]
    exact ⟨⟨hv.forward, hlimits, more, hmore, hothers⟩, id,
      fun hoverdue => ⟨fun h => absurd h hlost, fun _ => hoverdue⟩⟩
  · rw [replacingLimit_of_eq hlimits]
    have hkeeps (l : Moment) (hl : l ∈ kept) : l ∈ v.limits :=
      hlimits ▸ List.mem_cons_of_mem _ hl
    refine ⟨⟨hv.forward, hkept, more, hmore, fun l hl => ?_⟩, fun htimely => ?_,
      fun hoverdue => ⟨fun _ => ?_, fun h => absurd (by rw [World.limit, hlimits]; rfl) h⟩⟩
    · refine (hothers l hl).imp_left fun hleft => ?_
      rw [hlimits] at hleft
      rcases List.mem_cons.mp hleft with rfl | hmem
      · exact absurd (hordered.1 _ hl) (Nat.lt_irrefl _)
      · exact hmem
    · exact ⟨fun l hl => htimely.ahead l (hkeeps l hl), hordered.2.sublist hkept⟩
    · refine ⟨fun l hl => hoverdue.ahead l ?_, hordered.2.sublist hkept⟩
      rw [hlimits]
      exact hl

/-- The limit that cut a step off is put back in front of those that are still to come. -/
theorem Overdue.restored (hw : w.Overdue endless) (hv : v.Timely)
    (hlimits : v.limits.Sublist w.limits.tail)
    (hreached : ∀ limit ∈ w.limits.head?, v.now.before limit = false) :
    { v with limits := w.limits.take 1 ++ v.limits }.Overdue endless := by
  cases hfirst : w.limits with
  | nil =>
    rw [hfirst] at hlimits
    have hnone := List.sublist_nil.mp hlimits
    refine ⟨fun _ => hw.bounded hfirst, ?_, ?_, ?_⟩ <;> simp [hnone]
  | cons first others =>
    rw [hfirst] at hreached hlimits
    have hordered := hw.ordered
    rw [hfirst] at hordered
    exact ⟨nofun, hreached, hv.ahead, hordered.sublist (hlimits.cons_cons first)⟩

end World

end TimeProbe

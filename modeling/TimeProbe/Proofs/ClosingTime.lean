import TimeProbe.Network.World

/-!
# Closing times

Whether something can be taken within a timeout is a matter of the time at which it comes: there is
a closing time, and what comes before it can be taken. Taking things that come before the closing
time, one after the other, does not change that for what follows, and does not put off the end of
the timeout.
-/

namespace TimeProbe

namespace Moment

/-- The time before which something has to be there to be taken within a timeout: the time that the
clock shows when the timeout ends. A timeout so short that its timer goes off at once, or that is
no number, lets only be taken what is there already, and one that the clock does not show at all,
such as zero, nothing. -/
def closing (m : Moment) (timeout : Binary64) : Nat :=
  if timeout.isNaN then m.time + 1
  else if timeout.isPositive && decide (m.time < timeAfter m.time timeout.magnitude) then
    if timeAfter m.time timeout.magnitude < timeAfter m.time closeness then m.time + 1
    else timeAfter m.time timeout.magnitude
  else 0

/-- The moment at which all of some arrivals can have been taken. -/
def reachingAll (m : Moment) (arrivals : List (Nat × Arrival)) : Moment :=
  arrivals.foldl (fun m arrival => m.reaching arrival.1) m

variable {m stop : Moment}

/-- A timeout passes by turns, or at its closing time, or leaves no time to wait. -/
theorem deadline_cases (m : Moment) (timeout : Binary64) :
    (m.deadline timeout = m.atOnce ∧ m.closing timeout = m.time + 1) ∨
      (m.time < m.closing timeout ∧ m.deadline timeout = ⟨m.closing timeout, 0⟩) ∨
      (m.deadline timeout = m ∧ m.closing timeout = 0) := by
  unfold deadline closing
  by_cases hnan : timeout.isNaN = true
  · rw [if_pos hnan, if_pos hnan]
    exact .inl ⟨rfl, rfl⟩
  · rw [if_neg hnan, if_neg hnan]
    split
    next hpositive =>
      have hlong : m.time < timeAfter m.time timeout.magnitude := by
        simp only [Bool.and_eq_true, decide_eq_true_eq] at hpositive
        exact hpositive.2
      by_cases hshort : timeAfter m.time timeout.magnitude < timeAfter m.time closeness
      · rw [after, if_pos (.inr hshort), if_pos hshort]
        exact .inl ⟨rfl, rfl⟩
      · rw [after, if_neg (by omega), if_neg hshort]
        exact .inr (.inl ⟨hlong, rfl⟩)
    next => exact .inr (.inr ⟨rfl, rfl⟩)

/-- One moment comes before another at an earlier time, or at an earlier turn of the same time. -/
theorem before_iff :
    m.before stop = true ↔ m.time < stop.time ∨ m.time = stop.time ∧ m.turn < stop.turn :=
  decide_eq_true_iff

/-- No moment comes before itself. -/
theorem before_self (m : Moment) : m.before m = false := by
  rw [← Bool.not_eq_true, before_iff]
  omega

/-- What comes before a moment does not come behind it. -/
theorem before_eq_false_of_before (h : m.before stop = true) : stop.before m = false := by
  rw [← Bool.not_eq_true, before_iff]
  rw [before_iff] at h
  omega

/-- What does not come before a moment does not come before an earlier one. -/
theorem before_eq_false_trans {a b : Moment} (hab : b.before a = false)
    (hbm : m.before b = false) : m.before a = false := by
  rw [← Bool.not_eq_true, before_iff] at hab hbm ⊢
  omega

/-- What comes before a moment comes before one that is no earlier. -/
theorem before_of_before {a : Moment} (ha : a.before m = true) (hm : stop.before m = false) :
    a.before stop = true := by
  rw [← Bool.not_eq_true, before_iff] at hm
  rw [before_iff] at ha ⊢
  omega

/-- What comes behind a moment comes behind one that is no later. -/
theorem before_of_behind {a : Moment} (ha : m.before a = false) (hm : m.before stop = true) :
    a.before stop = true := by
  rw [← Bool.not_eq_true, before_iff] at ha
  rw [before_iff] at hm ⊢
  omega

/-- What does not come before a moment comes at no earlier time. -/
theorem time_le_of_before_eq_false (h : m.before stop = false) : stop.time ≤ m.time := by
  rw [← Bool.not_eq_true, before_iff] at h
  omega

/-- No moment comes before the first one at its time. -/
theorem before_time (m : Moment) : m.before ⟨m.time, 0⟩ = false := by
  rw [← Bool.not_eq_true, before_iff]
  dsimp only
  omega

/-- A timer goes off behind the moment at which it is set. -/
theorem before_after (m : Moment) (ticks : Nat) : m.before (m.after ticks) = true := by
  rw [after]
  split
  · exact before_iff.mpr (.inr ⟨rfl, by simp [atOnce]⟩)
  next hlong =>
    simp only [not_or, Nat.not_le] at hlong
    exact before_iff.mpr (.inl hlong.1)

/-- A pause ends behind the moment at which it begins. -/
theorem before_afterPause (m : Moment) (ticks : Nat) : m.before (m.afterPause ticks) = true := by
  rw [afterPause]
  split
  · exact before_iff.mpr (.inr ⟨rfl, Nat.lt_succ_self _⟩)
  · exact before_after m ticks

/-- A timeout passes behind the moment at which it is set. -/
theorem before_afterTimeout (m : Moment) (timeout : Binary64) :
    m.before (m.afterTimeout timeout) = true := by
  rw [afterTimeout]
  split
  · exact before_iff.mpr (.inr ⟨rfl, by simp [atOnce]⟩)
  · exact before_after m _

/-- A timeout that passes on turns passes at a time that the clock shows already. -/
theorem afterTimeout_time_le {timeout : Binary64}
    (hturns : (m.afterTimeout timeout).isByTurns = true) :
    (m.afterTimeout timeout).time ≤ m.time := by
  have hafter (ticks : Nat) (h : (m.after ticks).isByTurns = true) :
      (m.after ticks).time ≤ m.time := by
    revert h
    rw [after]
    split
    · exact fun _ => Nat.le_refl _
    · exact nofun
  revert hturns
  rw [afterTimeout]
  split
  · exact fun _ => Nat.le_refl _
  · exact hafter _

/-- A limit is felt at its own time, and no sooner than it is reached. -/
theorem before_felt (h : m.before stop = true) : m.before stop.felt = true := by
  rw [before_iff] at h
  rw [felt, before_iff]
  split
  · exact h
  · dsimp only [atOnce]
    omega

/-- A limit is felt at its own time. -/
@[simp] theorem time_felt (m : Moment) : m.felt.time = m.time := by
  rw [felt]
  split <;> rfl

/-- Something is reached before a moment if it is still to come and comes before it. -/
theorem reaching_before_iff {time : Nat} :
    (m.reaching time).before stop = true ↔
      m.before stop = true ∧ (m.time < time → before ⟨time, 0⟩ stop = true) := by
  by_cases hlater : m.time < time
  · rw [reaching, if_pos hlater]
    simp only [before_iff, hlater, true_imp_iff]
    omega
  · rw [reaching, if_neg hlater]
    exact (and_iff_left fun h => absurd h hlater).symm

/-- What can be taken before a timeout passes is there before the closing time. -/
theorem reaching_before_deadline_iff {timeout : Binary64} {time : Nat} :
    (m.reaching time).before (m.deadline timeout) = true ↔ time < m.closing timeout := by
  rw [reaching_before_iff]
  rcases deadline_cases m timeout with ⟨hstop, hclosing⟩ | ⟨hlong, hstop⟩ | ⟨hstop, hclosing⟩
  · rw [hstop, hclosing]
    simp only [before_iff, atOnce, true_and]
    omega
  · rw [hstop]
    simp only [before_iff]
    omega
  · rw [hstop, hclosing]
    simp only [before_iff]
    omega

/-- Two things are reached before a moment if each of them is. -/
theorem reaching_reaching_before_iff {time time' : Nat} :
    ((m.reaching time).reaching time').before stop = true ↔
      (m.reaching time).before stop = true ∧ (m.reaching time').before stop = true := by
  rw [reaching_before_iff, and_congr_right_iff]
  intro hfirst
  by_cases hlater : m.time < time
  · rw [reaching, if_pos hlater] at hfirst ⊢
    rw [reaching_before_iff]
    simp only [before_iff] at hfirst ⊢
    omega
  · rw [reaching, if_neg hlater] at hfirst ⊢
    rw [reaching_before_iff]
    exact (and_iff_right hfirst).symm

/-- A wait does not end before its deadline, or there is no wait. -/
theorem later_deadline (m : Moment) (timeout : Binary64) :
    m.later (m.deadline timeout) = m.deadline timeout := by
  rcases deadline_cases m timeout with ⟨hstop, -⟩ | ⟨hlong, hstop⟩ | ⟨hstop, -⟩
  · have hbefore : m.before m.atOnce = true := by simp [before, atOnce]
    rw [hstop, later, if_pos hbefore]
  · have hbefore : m.before ⟨m.closing timeout, 0⟩ = true := by simp [before, hlong]
    rw [hstop, later, if_pos hbefore]
  · rw [hstop, later]
    split <;> rfl

/-- Arrivals that are there before a moment have all been taken before it. -/
theorem reachingAll_before {front : List (Nat × Arrival)} (hm : m.before stop = true)
    (hfront : ∀ a ∈ front, (m.reaching a.1).before stop = true) :
    (m.reachingAll front).before stop = true := by
  induction front generalizing m with
  | nil => exact hm
  | cons first front ih =>
    have hfirst := hfront first List.mem_cons_self
    refine ih hfirst fun a ha => ?_
    rw [reaching_reaching_before_iff]
    exact ⟨hfirst, hfront a (List.mem_cons_of_mem first ha)⟩

/-- Taking arrivals that are there before a moment does not change what else is. -/
theorem reachingAll_reaching_before_iff {front : List (Nat × Arrival)} {time : Nat}
    (hfront : ∀ a ∈ front, (m.reaching a.1).before stop = true) :
    ((m.reachingAll front).reaching time).before stop = true ↔
      (m.reaching time).before stop = true := by
  induction front generalizing m with
  | nil => exact Iff.rfl
  | cons first front ih =>
    have hfirst := hfront first List.mem_cons_self
    have hboth {time : Nat} : ((m.reaching first.1).reaching time).before stop = true ↔
        (m.reaching time).before stop = true := by
      rw [reaching_reaching_before_iff]
      exact and_iff_right hfirst
    have hothers : ∀ a ∈ front, ((m.reaching first.1).reaching a.1).before stop = true :=
      fun a ha => hboth.mpr (hfront a (List.mem_cons_of_mem first ha))
    exact (ih hothers).trans hboth

section

variable {front : List (Nat × Arrival)} {timeout : Binary64}

/-- Taking arrivals that come before the closing time does not change what else can be taken. -/
theorem reachingAll_before_deadline_iff (hfront : ∀ a ∈ front, a.1 < m.closing timeout)
    {time : Nat} :
    ((m.reachingAll front).reaching time).before (m.deadline timeout) = true ↔
      time < m.closing timeout := by
  have htime : ∀ a ∈ front, (m.reaching a.1).before (m.deadline timeout) = true :=
    fun a ha => reaching_before_deadline_iff.mpr (hfront a ha)
  rw [reachingAll_reaching_before_iff htime, reaching_before_deadline_iff]

/-- Taking arrivals that come before the closing time does not put off the deadline. -/
theorem later_reachingAll_deadline (hfront : ∀ a ∈ front, a.1 < m.closing timeout) :
    (m.reachingAll front).later (m.deadline timeout) = m.deadline timeout := by
  have htime : ∀ a ∈ front, (m.reaching a.1).before (m.deadline timeout) = true :=
    fun a ha => reaching_before_deadline_iff.mpr (hfront a ha)
  cases front with
  | nil => exact later_deadline m timeout
  | cons first front =>
    have hm := (reaching_before_iff.mp (htime first List.mem_cons_self)).1
    rw [later, if_pos (reachingAll_before hm htime)]

end

end Moment

end TimeProbe

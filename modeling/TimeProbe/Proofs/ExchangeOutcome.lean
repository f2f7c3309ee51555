import TimeProbe.Proofs.ReplyWait
import TimeProbe.Proofs.EndpointSteps
import TimeProbe.Proofs.TickRounding

/-!
# What an exchange comes to

An exchange takes the arrivals at its endpoint in their order, and the first one that decides it
before the closing time of its timeout settles how it ends. If there is none, the exchange ends at
the deadline that was fixed before its datagram was sent, whatever was taken meanwhile. For a
timeout that the clock can measure the closing time is the sum of the start and the timeout. One too
short for that leaves what would have decided the exchange at the endpoint.
-/

namespace TimeProbe

namespace Moment

variable {m : Moment} {timeout : Binary64}

end Moment

namespace Endpoint

/-- What is pending at an endpoint comes in the order of its times. -/
def EarliestFirst (e : Endpoint) : Prop := e.pending.Pairwise fun a b => a.1 ≤ b.1

/-- What is put among arrivals stands in the order of the times. -/
theorem pairwise_insertArrival (time : Nat) (arrival : Arrival) {pending : List (Nat × Arrival)}
    (h : pending.Pairwise fun a b => a.1 ≤ b.1) :
    (insertArrival time arrival pending).Pairwise fun a b => a.1 ≤ b.1 := by
  induction pending with
  | nil => exact List.pairwise_singleton _ _
  | cons first pending ih =>
    obtain ⟨hfirst, hothers⟩ := List.pairwise_cons.mp h
    rw [insertArrival]
    split
    next hle =>
      refine List.pairwise_cons.mpr ⟨fun a ha => ?_, ih hothers⟩
      rcases mem_insertArrival.mp ha with rfl | ha
      · exact hle
      · exact hfirst a ha
    next hlt =>
      refine List.pairwise_cons.mpr ⟨fun a ha => ?_, h⟩
      have hearlier : time ≤ first.1 := Nat.le_of_not_le hlt
      rcases List.mem_cons.mp ha with rfl | ha
      · exact hearlier
      · exact Nat.le_trans hearlier (hfirst a ha)

/-- Scheduling keeps the order of the times. -/
theorem EarliestFirst.schedule {e : Endpoint} (h : e.EarliestFirst) (now : Nat)
    (events : List Event) : (e.schedule now events).EarliestFirst := by
  rw [EarliestFirst] at h
  rw [EarliestFirst, Endpoint.schedule]
  dsimp only
  generalize e.pending = pending at h ⊢
  induction events generalizing pending with
  | nil => exact h
  | cons event events ih => exact ih _ (pairwise_insertArrival _ _ h)

/-- Sending keeps the order of the times. -/
theorem EarliestFirst.send {e e' : Endpoint} {now : Nat} {data : Bytes} {fault : Option Fault}
    (h : e.EarliestFirst) (hsend : e.send now data = (fault, e')) : e'.EarliestFirst := by
  rw [Endpoint.send] at hsend
  split at hsend
  · cases hsend
    exact h
  · cases hsend
    exact EarliestFirst.schedule h now _
  · cases hsend
    exact h

end Endpoint

/-- A wait whose deadline comes before the limits around it is an ordinary wait. -/
theorem awaitAmid_of_not_passed {α : Type} {accept : Bytes → Except ReplyError (Option α)}
    {w : World} {deadline : Moment} (hlimit : w.limitPassesBy deadline = false)
    (arrivals : List (Nat × Arrival)) (now : Moment) (last : Option (ReplyError × Bytes)) :
    awaitAmid accept deadline w.limits arrivals now last =
      (0, awaitReply accept deadline arrivals now last) := by
  rw [World.limitPassesBy, World.limit] at hlimit
  cases hlimits : w.limits with
  | nil => rfl
  | cons limit limits =>
    rw [hlimits, List.head?_cons, Option.any_some, Bool.not_eq_false'] at hlimit
    rw [awaitAmid, if_pos hlimit]

namespace Run

variable {α : Type} {i : Nat} {data : Bytes} {accept : Bytes → Except ReplyError (Option α)}
  {timeout : Option Binary64} {T : Binary64} {w : World} {e : Endpoint}

/-- An exchange whose datagram was sent ends as its wait amid the limits does, unless the wait
expires as a limit passes before the deadline. -/
theorem exchangeRaw_sent {n : Nat} {wait : Wait α} (hi : i < w.endpoints.length)
    (htimeout : timeout.getD (w.endpoint i).timeout = T)
    (hsend : (w.endpoint i).send w.now.time data = (none, e))
    (hwait : awaitAmid accept (w.now.deadline T) w.limits e.pending w.now none = (n, wait)) :
    let v := World.overlooking
      { w.setEndpoint i { e with pending := wait.left } with now := wait.moment } n
    exchangeRaw i data accept timeout w =
      (if wait.verdict.isExpired && w.now.before (w.now.deadline T) &&
          v.limitPassesBy (w.now.deadline T) then .cutOff
        else wait.verdict.ending e.address T, v) := by
  have hsent : sendDatagram i data w = (.done (), w.setEndpoint i e) := by
    rw [sendDatagram, hsend]
  have hendpoint : (w.setEndpoint i e).endpoint i = e := by
    simp [World.setEndpoint, World.endpoint, hi]
  have hleft : (w.setEndpoint i e).setEndpoint i { e with pending := wait.left } =
      w.setEndpoint i { e with pending := wait.left } := by
    simp [World.setEndpoint, List.set_set]
  have hamid : awaitAmid accept (w.now.deadline T) (w.setEndpoint i e).limits e.pending
      (w.setEndpoint i e).now none = (n, wait) := hwait
  simp only [exchangeRaw, Bind.bind, Run.bind, read, htimeout, hsent, hendpoint, hamid, hleft]
  cases wait.verdict with
  | answered a => rfl
  | broken cause => rfl
  | abandoned last => rfl
  | expired last => exact (apply_ite (Prod.mk · _) _ _ _).symm

/-- An exchange whose datagram was sent ends as its wait does, and the arrivals not taken stay. -/
theorem exchangeRaw_of_send {wait : Wait α} (hi : i < w.endpoints.length)
    (htimeout : timeout.getD (w.endpoint i).timeout = T)
    (hsend : (w.endpoint i).send w.now.time data = (none, e))
    (hlimit : w.limitPassesBy (w.now.deadline T) = false)
    (hwait : awaitReply accept (w.now.deadline T) e.pending w.now none = wait) :
    ∃ w', exchangeRaw i data accept timeout w = (wait.verdict.ending e.address T, w') ∧
      w'.endpoint i = { e with pending := wait.left } ∧ w'.now = wait.moment := by
  have hamid : awaitAmid accept (w.now.deadline T) w.limits e.pending w.now none = (0, wait) := by
    rw [awaitAmid_of_not_passed hlimit, hwait]
  have hopen : (World.overlooking { w.setEndpoint i { e with pending := wait.left } with
      now := wait.moment } 0).limitPassesBy (w.now.deadline T) = false := hlimit
  have hexchange := exchangeRaw_sent hi htimeout hsend hamid
  dsimp only at hexchange
  rw [hopen, Bool.and_false, if_neg Bool.false_ne_true] at hexchange
  refine ⟨_, hexchange, ?_, rfl⟩
  simp [World.overlooking, World.setEndpoint, World.endpoint, hi]

/-- An exchange that nothing decides in time ends at its deadline, with the error of the last
invalid datagram taken, or else with a receive timeout. -/
theorem exchangeRaw_expired {front rest : List (Nat × Arrival)} (hi : i < w.endpoints.length)
    (htimeout : timeout.getD (w.endpoint i).timeout = T)
    (hsend : (w.endpoint i).send w.now.time data = (none, e))
    (hlimit : w.limitPassesBy (w.now.deadline T) = false) (hpending : e.pending = front ++ rest)
    (hfront : ∀ a ∈ front, a.1 < w.now.closing T ∧
      (a.2.Unrelated accept ∨ a.2.Invalid accept))
    (hrest : ∀ a ∈ rest.head?, w.now.closing T ≤ a.1) :
    ∃ w', exchangeRaw i data accept timeout w =
        (.failed (noReply e.address T (rejections accept front).getLast?), w') ∧
      w'.endpoint i = { e with pending := rest } ∧ w'.now = w.now.deadline T := by
  have hlate : ∀ a ∈ rest.head?,
      ((w.now.reachingAll front).reaching a.1).before (w.now.deadline T) = false := by
    intro a ha
    rw [Bool.eq_false_iff]
    intro hbefore
    have hearly := (Moment.reachingAll_before_deadline_iff fun a ha => (hfront a ha).1).mp hbefore
    exact Nat.not_lt.mpr (hrest a ha) hearly
  have hwait : awaitReply accept (w.now.deadline T) e.pending w.now none =
      ⟨.expired (rejections accept front).getLast?, w.now.deadline T, rest⟩ := by
    rw [hpending, awaitReply_passedOver hfront, awaitReply_late hlate,
      Moment.later_reachingAll_deadline fun a ha => (hfront a ha).1]
  exact exchangeRaw_of_send hi htimeout hsend hlimit hwait

end Run

end TimeProbe

import Mathlib.Data.List.Basic
import TimeProbe.Proofs.InvalidReplies
import TimeProbe.Proofs.RefusedCases
import TimeProbe.Proofs.EndpointSteps
import TimeProbe.Proofs.HeededSteps

/-!
# What is taken in time

An exchange that is not cut off by a limit around it ends as it would without one, and so does a
receive. So what comes first settles how they end: the first datagram that holds an answer, if it
comes in time and before any error of the socket, and for a receive whatever comes first.
-/

namespace TimeProbe

section

variable {α : Type} {accept : Bytes → Except ReplyError (Option α)} {stop stop' now : Moment}
  {arrivals : List (Nat × Arrival)} {last : Option (ReplyError × Bytes)}

/-- Datagrams that are passed over leave no error just if all of them are unrelated. -/
theorem rejections_eq_nil_iff
    (h : ∀ x ∈ arrivals, x.2.Unrelated accept ∨ x.2.Invalid accept) :
    rejections accept arrivals = [] ↔ ∀ x ∈ arrivals, x.2.Unrelated accept := by
  refine ⟨fun hnone x hx => (h x hx).resolve_right fun hinvalid => ?_, rejections_eq_nil⟩
  obtain ⟨data, e, -, -, hrejected⟩ := hinvalid.exists_rejected
  rw [List.filterMap_eq_nil_iff.mp hnone x hx] at hrejected
  cases hrejected

/-- A datagram that is passed over holds nothing. -/
theorem holds_eq_none_of_passed {holds : Bytes → Option α} {arrival : Arrival}
    (haccept : ∀ octets a, accept octets = .ok (some a) ↔ holds octets = some a)
    (h : arrival.Unrelated accept ∨ arrival.Invalid accept) :
    ∃ octets, arrival = .datagram octets ∧ holds octets = none := by
  have hnone {octets : Bytes} (hvalue : ∀ a, accept octets ≠ .ok (some a)) :
      holds octets = none :=
    Option.eq_none_iff_forall_ne_some.mpr fun a ha => hvalue a ((haccept octets a).mpr ha)
  obtain ⟨⟨hvalue⟩⟩ | ⟨⟨hvalue⟩⟩ := h
  · exact ⟨_, rfl, hnone fun a ha => by cases hvalue.symm.trans ha⟩
  · exact ⟨_, rfl, hnone fun a ha => by cases hvalue.symm.trans ha⟩

/-- An error of the system is no timeout. -/
theorem isTimeout_of_system {cause : Option Fault}
    (h : Arrival.FromSystem (.socketError cause)) : isTimeout cause = false := by
  cases cause with
  | none => rfl
  | some cause => exact (FaultKind.isA_of_os (h cause rfl)).1

end

namespace Endpoint

variable {α : Type} {holds : Bytes → Option α} {closing closing' : Nat} {e : Endpoint}
  {earlier earlier' later later' : List (Nat × Arrival)} {time time' : Nat} {a a' : α}

/-- An endpoint brings what the first datagram holds that holds something, if this datagram comes
before a closing time and before any error of the socket. -/
structure Brings (holds : Bytes → Option α) (closing : Nat) (e : Endpoint)
    (earlier : List (Nat × Arrival)) (time : Nat) (a : α) (later : List (Nat × Arrival)) :
    Prop where
  arrives : ∃ data, e.pending = earlier ++ (time, .datagram data) :: later ∧ holds data = some a
  inTime : time < closing
  passedOver : ∀ x ∈ earlier, ∃ data, x.2 = .datagram data ∧ holds data = none

/-- An endpoint brings only one thing first. -/
theorem Brings.unique (h : e.Brings holds closing earlier time a later)
    (h' : e.Brings holds closing' earlier' time' a' later') :
    earlier = earlier' ∧ time = time' ∧ a = a' ∧ later = later' := by
  obtain ⟨data, hpending, hholds⟩ := h.arrives
  obtain ⟨data', hpending', hholds'⟩ := h'.arrives
  have hpassed := h.passedOver
  have hpassed' := h'.passedOver
  have hsame := hpending.symm.trans hpending'
  clear hpending hpending' h h'
  induction earlier generalizing earlier' with
  | nil =>
    cases earlier' with
    | nil =>
      cases hsame
      rw [hholds] at hholds'
      cases hholds'
      exact ⟨rfl, rfl, rfl, rfl⟩
    | cons first _ =>
      obtain ⟨octets, hfirst, hnothing⟩ := hpassed' first List.mem_cons_self
      obtain ⟨rfl, -⟩ := List.cons.inj hsame
      cases hfirst
      rw [hholds] at hnothing
      cases hnothing
  | cons first rest ih =>
    cases earlier' with
    | nil =>
      obtain ⟨octets, hfirst, hnothing⟩ := hpassed first List.mem_cons_self
      obtain ⟨rfl, -⟩ := List.cons.inj hsame
      cases hfirst
      rw [hholds'] at hnothing
      cases hnothing
    | cons first' rest' =>
      obtain ⟨rfl, hrest⟩ := List.cons.inj hsame
      obtain ⟨rfl, htime, ha, hlater⟩ :=
        ih (fun x hx => hpassed x (List.mem_cons_of_mem _ hx))
          (fun x hx => hpassed' x (List.mem_cons_of_mem _ hx)) hrest
      exact ⟨rfl, htime, ha, hlater⟩

/-- What comes before something in the order of the times comes no later. -/
theorem EarliestFirst.le_of_mem {arrival : Arrival} (h : e.EarliestFirst)
    (hpending : e.pending = earlier ++ (time, arrival) :: later) {x : Nat × Arrival}
    (hx : x ∈ earlier) : x.1 ≤ time := by
  rw [EarliestFirst, hpending] at h
  exact (List.pairwise_append.mp h).2.2 x hx (time, arrival) List.mem_cons_self

/-- What comes behind something late is late. -/
theorem le_of_le_head {closing : Nat} {pending : List (Nat × Arrival)}
    (h : pending.Pairwise fun a b => a.1 ≤ b.1) (hhead : ∀ x ∈ pending.head?, closing ≤ x.1) :
    ∀ x ∈ pending, closing ≤ x.1 := by
  cases pending with
  | nil => exact List.forall_mem_nil _
  | cons first pending =>
    have hfirst := hhead first rfl
    exact List.forall_mem_cons.mpr
      ⟨hfirst, fun x hx => Nat.le_trans hfirst ((List.pairwise_cons.mp h).1 x hx)⟩

/-- What comes too late is what is left without the arrivals in time. -/
theorem dropWhile_append_eq {closing : Nat} {front rest : List (Nat × Arrival)}
    (hfront : ∀ x ∈ front, x.1 < closing) (hrest : ∀ x ∈ rest.head?, closing ≤ x.1) :
    (front ++ rest).dropWhile (·.1 < closing) = rest := by
  rw [List.dropWhile_append_of_pos fun x hx => decide_eq_true (hfront x hx)]
  cases rest with
  | nil => rfl
  | cons first rest =>
    have hfirst := hrest first rfl
    rw [List.dropWhile_cons_of_neg]
    simpa using hfirst

/-- An error of the system becomes a transport fault. -/
theorem receiveFault_of_system {cause : Option Fault}
    (h : Arrival.FromSystem (.socketError cause)) (address : Address) :
    (receiveFault address cause).kind = .transport ∧ (receiveFault address cause).Ordinary := by
  cases cause with
  | none => exact ⟨rfl, rfl, rfl⟩
  | some cause =>
    obtain ⟨-, htransport, hinterrupt⟩ := FaultKind.isA_of_os (h cause rfl)
    rw [receiveFault, htransport, hinterrupt, if_neg Bool.false_ne_true,
      if_neg Bool.false_ne_true]
    exact ⟨rfl, rfl, rfl⟩

end Endpoint

namespace Moment

/-- Whether what comes at a time can be received within a timeout: the timeout lets a receive start,
and the time is reached before the timeout passes. -/
def receivable (m : Moment) (timeout : Binary64) (time : Nat) : Bool :=
  timeout.letsStart && (m.reaching time).before (m.afterTimeout timeout)

/-- The moment at which a receive ends that nothing came to. -/
def receiveEnd (m : Moment) (timeout : Binary64) : Moment :=
  if timeout.letsStart then m.later (m.afterTimeout timeout) else m

/-- What comes no later than something receivable is receivable. -/
theorem receivable_of_le {m : Moment} {timeout : Binary64} {time time' : Nat}
    (h : m.receivable timeout time' = true) (htime : time ≤ time') :
    m.receivable timeout time = true := by
  obtain ⟨hstart, hbefore⟩ := Bool.and_eq_true_iff.mp h
  refine Bool.and_eq_true_iff.mpr ⟨hstart, ?_⟩
  rw [reaching_before_iff] at hbefore ⊢
  refine ⟨hbefore.1, fun hlater => ?_⟩
  have hbefore := hbefore.2 (Nat.lt_of_lt_of_le hlater htime)
  simp only [before_iff] at hbefore ⊢
  omega

/-- What can be taken before a moment that comes no later than a timeout passes can be taken in
time, if the clock shows the time of that moment already where it follows on turns. -/
theorem reaching_before_afterTimeout {m stop : Moment} {timeout : Binary64} {time : Nat}
    (hturns : stop.isByTurns = true → stop.time ≤ m.time)
    (htime : stop.time ≤ (m.afterTimeout timeout).time)
    (h : (m.reaching time).before stop = true) :
    (m.reaching time).before (m.afterTimeout timeout) = true := by
  have hahead := m.before_afterTimeout timeout
  generalize m.afterTimeout timeout = own at htime hahead ⊢
  rw [reaching_before_iff] at h ⊢
  refine ⟨hahead, fun hlater => ?_⟩
  have hstop := before_iff.mp (h.2 hlater)
  have hset : stop.turn ≠ 0 → stop.time ≤ m.time := fun hturn => hturns (bne_iff_ne.mpr hturn)
  rw [before_iff]
  dsimp only at hstop ⊢
  omega

end Moment

/-- A world on the way to a moment by which a case has to end: no other limit is set. If the moment
follows on turns, the clock shows its time already. -/
structure World.Underway (stop : Moment) (w : World) : Prop where
  timely : w.Timely
  only : w.limits.Sublist [stop]
  byTurns : stop.isByTurns = true → stop.time ≤ w.now.time

namespace Run

section

variable {α β : Type} {x : Run α} {w : World} {stop : Moment}

/-- A step ends before a moment comes. -/
def EndsBefore (stop : Moment) (x : Run α) (w : World) : Prop :=
  (x w).2.now.before stop = true

/-- A step that ends before the moment by which it has to is not cut off, and the case goes on. -/
theorem Heeds.underway (hx : Heeds False x) (hw : w.Underway stop) (hends : EndsBefore stop x w) :
    (x w).1.isCutOff = false ∧ (x w).2.Underway stop := by
  obtain ⟨helapses, hending⟩ := hx w hw.timely
  have hforward := helapses.forward
  have honly := helapses.limits.trans hw.only
  have hset : stop.isByTurns = true → stop.time ≤ (x w).2.now.time := by
    exact fun h => Nat.le_trans (hw.byTurns h) (Moment.time_le_of_before_eq_false hforward)
  rw [EndsBefore] at hends
  cases hrun : (x w).1 with
  | done a =>
    rw [hrun] at hending
    exact ⟨rfl, hending, honly, hset⟩
  | failed f =>
    rw [hrun] at hending
    exact ⟨rfl, hending, honly, hset⟩
  | cutOff =>
    rw [hrun] at hending
    rcases List.sublist_singleton.mp honly with hnone | hstop
    · exact (hending.bounded hnone).elim
    · rw [hending.reached stop (by rw [hstop]; rfl)] at hends
      cases hends

/-- A row that ends before a moment begins with a step that does. -/
theorem EndsBefore.first {next : α → Run β} (hx : Heeds False x)
    (hnext : ∀ a, Heeds False (next a)) (hw : w.Timely) (hends : EndsBefore stop (x >>= next) w) :
    EndsBefore stop x w := by
  obtain ⟨-, hending⟩ := hx w hw
  rw [EndsBefore] at hends ⊢
  rcases hrun : x w with ⟨ending, v⟩
  rw [hrun] at hending
  cases ending with
  | done a =>
    rw [bind_done hrun] at hends
    exact Moment.before_of_behind (hnext a v hending).1.forward hends
  | failed f => rwa [bind_failed hrun] at hends
  | cutOff => rwa [bind_cutOff hrun] at hends

end

end Run

namespace Run

variable {α : Type} {i : Nat} {data : Bytes} {accept : Bytes → Except ReplyError (Option α)}
  {timeout : Option Binary64} {T : Binary64} {w : World} {e : Endpoint} {stop : Moment}

/-- An exchange that nothing answered fails with a receive timeout just if no invalid datagram was
taken. -/
theorem isA_receiveTimeout_noReply {address : Address} {last : Option (ReplyError × Bytes)} :
    (noReply address T last).kind.isA .receiveTimeout = true ↔ last = none := by
  rcases last with _ | ⟨error, octets⟩
  · exact iff_of_true rfl rfl
  · refine iff_of_false (fun h => ?_) nofun
    have hinvalid := Fault.isInvalidReply_ofReplyError error
    revert h hinvalid
    rw [noReply]
    dsimp only
    cases (Fault.ofReplyError error).kind <;> decide

/-- An exchange that is not cut off ends as its wait does without limits, and changes no more than
its endpoint, the time and the limits. -/
theorem exchangeRaw_of_not_cutOff {wait : Wait α} (hi : i < w.endpoints.length)
    (htimeout : timeout.getD (w.endpoint i).timeout = T)
    (hsend : (w.endpoint i).send w.now.time data = (none, e))
    (hfinished : (exchangeRaw i data accept timeout w).1 ≠ .cutOff)
    (hwait : awaitReply accept (w.now.deadline T) e.pending w.now none = wait) :
    ∃ limits overlooked, exchangeRaw i data accept timeout w = (wait.verdict.ending e.address T,
      { w.setEndpoint i { e with pending := wait.left } with
        now := wait.moment, limits, overlooked }) := by
  rcases hamid : awaitAmid accept (w.now.deadline T) w.limits e.pending w.now none with ⟨n, found⟩
  have hwhole := @awaitAmid_eq_awaitReply _ accept (w.now.deadline T) w.limits e.pending w.now none
  have hexchange := exchangeRaw_sent hi htimeout hsend hamid
  rw [hamid, hwait] at hwhole
  dsimp only at hwhole hexchange
  rw [hexchange] at hfinished
  split at hfinished
  next => exact absurd rfl hfinished
  next hopen =>
    rw [if_neg hopen] at hexchange
    have hsame : found = wait := by
      refine hwhole fun hexpired hwaits limit hlimit => ?_
      -- A limit that is left by the deadline would have cut the exchange off.
      rw [hexpired, hwaits, Bool.true_and, Bool.true_and, World.limitPassesBy, World.limit,
        World.overlooking] at hopen
      dsimp only at hopen
      rw [show (w.setEndpoint i { e with pending := found.left }).limits = w.limits from rfl,
        hlimit] at hopen
      simpa using hopen
    exact ⟨_, _, hsame ▸ hexchange⟩

/-- An exchange brings what its endpoint brings in time. -/
theorem exchangeRaw_of_brings {holds : Bytes → Option α} {earlier later : List (Nat × Arrival)}
    {time : Nat} {a : α}
    (haccept : ∀ octets a, accept octets = .ok (some a) ↔ holds octets = some a)
    (hi : i < w.endpoints.length) (htimeout : timeout.getD (w.endpoint i).timeout = T)
    (hsend : (w.endpoint i).send w.now.time data = (none, e)) (hsorted : e.EarliestFirst)
    (hfinished : (exchangeRaw i data accept timeout w).1 ≠ .cutOff)
    (hbrings : e.Brings holds (w.now.closing T) earlier time a later) :
    ∃ limits overlooked, exchangeRaw i data accept timeout w = (.done a,
      { w.setEndpoint i { e with pending := later } with
        now := (w.now.reachingAll earlier).reaching time, limits, overlooked }) := by
  obtain ⟨octets, hpending, hholds⟩ := hbrings.arrives
  have hfront : ∀ x ∈ earlier, x.1 < w.now.closing T ∧
      (x.2.Unrelated accept ∨ x.2.Invalid accept) := by
    intro x hx
    refine ⟨Nat.lt_of_le_of_lt (hsorted.le_of_mem hpending hx) hbrings.inTime, ?_⟩
    obtain ⟨passed, hdatagram, hnothing⟩ := hbrings.passedOver x hx
    rw [hdatagram]
    cases hvalue : accept passed with
    | error error => exact .inr ⟨hvalue⟩
    | ok value =>
      cases value with
      | none => exact .inl ⟨hvalue⟩
      | some b =>
        rw [haccept, hnothing] at hvalue
        cases hvalue
  have hreached : ((w.now.reachingAll earlier).reaching time).before (w.now.deadline T) = true :=
    (Moment.reachingAll_before_deadline_iff fun x hx => (hfront x hx).1).mpr hbrings.inTime
  have hwait : awaitReply accept (w.now.deadline T) e.pending w.now none =
      ⟨.answered a, (w.now.reachingAll earlier).reaching time, later⟩ := by
    rw [hpending, awaitReply_passedOver hfront, awaitReply.eq_def]
    dsimp only
    rw [if_pos hreached, (haccept octets a).mpr hholds]
  exact exchangeRaw_of_not_cutOff hi htimeout hsend hfinished hwait

/-- An exchange fails at its deadline if everything that comes in time is passed over, and what
comes too late stays. -/
theorem exchangeRaw_of_late {front rest : List (Nat × Arrival)} (hi : i < w.endpoints.length)
    (htimeout : timeout.getD (w.endpoint i).timeout = T)
    (hsend : (w.endpoint i).send w.now.time data = (none, e))
    (hfinished : (exchangeRaw i data accept timeout w).1 ≠ .cutOff)
    (hpending : e.pending = front ++ rest)
    (hfront : ∀ x ∈ front, x.1 < w.now.closing T ∧
      (x.2.Unrelated accept ∨ x.2.Invalid accept))
    (hlate : ∀ x ∈ rest.head?, w.now.closing T ≤ x.1) :
    ∃ limits overlooked, exchangeRaw i data accept timeout w =
      (.failed (noReply e.address T (rejections accept front).getLast?),
        { w.setEndpoint i { e with pending := rest } with
          now := w.now.deadline T, limits, overlooked }) := by
  have hearly : ∀ x ∈ front, x.1 < w.now.closing T := fun x hx => (hfront x hx).1
  have hreach : ∀ x ∈ rest.head?,
      ((w.now.reachingAll front).reaching x.1).before (w.now.deadline T) = false := by
    intro x hx
    rw [Bool.eq_false_iff, ne_eq, Moment.reachingAll_before_deadline_iff hearly]
    exact Nat.not_lt.mpr (hlate x hx)
  have hwait : awaitReply accept (w.now.deadline T) e.pending w.now none =
      ⟨.expired (rejections accept front).getLast?, w.now.deadline T, rest⟩ := by
    rw [hpending, awaitReply_passedOver hfront, awaitReply_late hreach,
      Moment.later_reachingAll_deadline hearly]
  exact exchangeRaw_of_not_cutOff hi htimeout hsend hfinished hwait

/-- An exchange fails with the fault of the first error of the socket that comes in time, if
everything in front of it is passed over. -/
theorem exchangeRaw_of_socketError {front later : List (Nat × Arrival)} {time : Nat}
    {cause : Option Fault} (hi : i < w.endpoints.length)
    (htimeout : timeout.getD (w.endpoint i).timeout = T)
    (hsend : (w.endpoint i).send w.now.time data = (none, e))
    (hfinished : (exchangeRaw i data accept timeout w).1 ≠ .cutOff)
    (hpending : e.pending = front ++ (time, .socketError cause) :: later)
    (hfront : ∀ x ∈ front, x.1 < w.now.closing T ∧
      (x.2.Unrelated accept ∨ x.2.Invalid accept))
    (htime : time < w.now.closing T) (hsystem : Arrival.FromSystem (.socketError cause)) :
    ∃ limits overlooked, exchangeRaw i data accept timeout w =
      (.failed (Endpoint.receiveFault e.address cause),
        { w.setEndpoint i { e with pending := later } with
          now := (w.now.reachingAll front).reaching time, limits, overlooked }) := by
  have hreached : ((w.now.reachingAll front).reaching time).before (w.now.deadline T) = true :=
    (Moment.reachingAll_before_deadline_iff fun x hx => (hfront x hx).1).mpr htime
  have hwait : awaitReply accept (w.now.deadline T) e.pending w.now none =
      ⟨.broken cause, (w.now.reachingAll front).reaching time, later⟩ := by
    rw [hpending, awaitReply_passedOver hfront, awaitReply.eq_def]
    dsimp only
    rw [if_pos hreached, isTimeout_of_system hsystem]
    rfl
  exact exchangeRaw_of_not_cutOff hi htimeout hsend hfinished hwait

/-- An exchange whose endpoint brings nothing in time fails: with a transport fault after an error
of the socket, or at its deadline. It fails with a receive timeout just if what came in time was
unrelated, and then what comes too late stays. -/
theorem exchangeRaw_of_not_brings {holds : Bytes → Option α}
    (haccept : ∀ octets a, accept octets = .ok (some a) ↔ holds octets = some a)
    (hi : i < w.endpoints.length) (htimeout : timeout.getD (w.endpoint i).timeout = T)
    (hsend : (w.endpoint i).send w.now.time data = (none, e)) (hsorted : e.EarliestFirst)
    (hsystem : ∀ x ∈ e.pending, x.2.FromSystem)
    (hfinished : (exchangeRaw i data accept timeout w).1 ≠ .cutOff)
    (hnothing : ∀ earlier time a later,
      ¬ e.Brings holds (w.now.closing T) earlier time a later) :
    ∃ f left m limits overlooked, exchangeRaw i data accept timeout w =
        (.failed f,
          { w.setEndpoint i { e with pending := left } with now := m, limits, overlooked }) ∧
      f.Ordinary ∧
      (f.kind.isA .receiveTimeout = true ↔
        ∀ x ∈ e.pending, x.1 < w.now.closing T → x.2.Unrelated accept) ∧
      (f.kind.isA .receiveTimeout = true →
        left = e.pending.dropWhile (·.1 < w.now.closing T) ∧ m = w.now.deadline T) := by
  obtain ⟨front, rest, hpending, hfront, hrest⟩ :=
    exists_front accept (w.now.closing T) e.pending
  by_cases hlate : ∀ x ∈ rest.head?, w.now.closing T ≤ x.1
  · obtain ⟨limits, overlooked, hexchange⟩ :=
      exchangeRaw_of_late hi htimeout hsend hfinished hpending hfront hlate
    have hstays : ∀ x ∈ rest, w.now.closing T ≤ x.1 := by
      rw [Endpoint.EarliestFirst, hpending] at hsorted
      exact Endpoint.le_of_le_head (List.pairwise_append.mp hsorted).2.1 hlate
    have hdropped : e.pending.dropWhile (·.1 < w.now.closing T) = rest := by
      rw [hpending]
      exact Endpoint.dropWhile_append_eq (fun x hx => (hfront x hx).1) hlate
    refine ⟨_, rest, _, limits, overlooked, hexchange, (homemade_noReply _ _ _).toOrdinary, ?_,
      fun _ => ⟨hdropped.symm, rfl⟩⟩
    rw [isA_receiveTimeout_noReply, List.getLast?_eq_none_iff,
      rejections_eq_nil_iff fun x hx => (hfront x hx).2]
    constructor
    · intro hunrelated x hx htime
      rw [hpending] at hx
      rcases List.mem_append.mp hx with hx | hx
      · exact hunrelated x hx
      · exact absurd htime (Nat.not_lt.mpr (hstays x hx))
    · exact fun hunrelated x hx =>
        hunrelated x (hpending ▸ List.mem_append_left rest hx) (hfront x hx).1
  · obtain ⟨time, arrival, later, rfl, hnext⟩ : ∃ time arrival later,
        rest = (time, arrival) :: later ∧ time < w.now.closing T := by
      cases rest with
      | nil => simp at hlate
      | cons next later => exact ⟨next.1, next.2, later, rfl, by simpa using hlate⟩
    have hmem : (time, arrival) ∈ e.pending := hpending ▸ by simp
    have hdecisive := hrest _ rfl hnext
    cases arrival with
    | datagram octets =>
      rw [Arrival.isDecisive] at hdecisive
      split at hdecisive
      next a hvalue =>
        refine absurd ⟨⟨octets, hpending, (haccept octets a).mp hvalue⟩, hnext, fun x hx => ?_⟩
          (hnothing front time a later)
        exact holds_eq_none_of_passed haccept (hfront x hx).2
      next => cases hdecisive
      next => cases hdecisive
    | socketError cause =>
      obtain ⟨limits, overlooked, hexchange⟩ := exchangeRaw_of_socketError hi htimeout hsend
        hfinished hpending hfront hnext (hsystem _ hmem)
      obtain ⟨hkind, hordinary⟩ :=
        Endpoint.receiveFault_of_system (hsystem _ hmem) e.address
      have hno : ¬ (Endpoint.receiveFault e.address cause).kind.isA .receiveTimeout = true := by
        rw [hkind]
        exact Bool.false_ne_true
      refine ⟨_, later, _, limits, overlooked, hexchange, hordinary,
        iff_of_false hno fun hunrelated => ?_, fun htimedOut => absurd htimedOut hno⟩
      cases hunrelated _ hmem hnext

/-- What comes first is taken if no limit passes before it can be. -/
theorem nextArrival_of_open {time : Nat} {arrival : Arrival} {rest : List (Nat × Arrival)}
    (hpending : (w.endpoint i).pending = (time, arrival) :: rest) {limits : List Moment}
    (hopen : World.limitPassesBy { w with limits } (w.now.reaching time) = false) :
    nextArrival i { w with limits } = (.done arrival,
      { w.setEndpoint i { w.endpoint i with pending := rest } with
        now := w.now.reaching time, limits }) := by
  have hsame : World.endpoint { w with limits } i = w.endpoint i := rfl
  rw [nextArrival, hsame, hpending]
  dsimp only
  rw [hopen, if_neg Bool.false_ne_true]
  rfl

/-- What comes first is waited for in vain if a limit passes before it can be taken, and so is what
never comes. -/
theorem nextArrival_of_passed {limits : List Moment}
    (hpassed : ∀ x ∈ (w.endpoint i).pending.head?,
      World.limitPassesBy { w with limits } (w.now.reaching x.1) = true) :
    nextArrival i { w with limits } = waitForever { w with limits } := by
  have hsame : World.endpoint { w with limits } i = w.endpoint i := rfl
  rw [nextArrival, hsame]
  cases hpending : (w.endpoint i).pending with
  | nil => rfl
  | cons first rest =>
    rw [hpending] at hpassed
    dsimp only
    exact if_pos (hpassed first rfl)

/-- Under a limit of its own, a wait is cut off by it if what comes first cannot be reached before,
or if nothing comes. -/
theorem nextArrival_of_own {own : Moment} (hunreached : ∀ x ∈ (w.endpoint i).pending.head?,
      (w.now.reaching x.1).before own = false) :
    nextArrival i { w with limits := own :: w.limits } =
      (.cutOff, { w with now := w.now.later own, limits := own :: w.limits }) := by
  rw [nextArrival_of_passed]
  · rfl
  · intro x hx
    rw [World.limitPassesBy, World.limit, List.head?_cons, Option.any_some, hunreached x hx]
    rfl

/-- A wait for what comes first takes it, with no more changed than the endpoint, the time and the
limits, or it is cut off. -/
theorem waiting_nextArrival (i : Nat) (w : World) :
    (waiting (nextArrival i) w).1 = .cutOff ∨
    ∃ time arrival rest limits overlooked, (w.endpoint i).pending = (time, arrival) :: rest ∧
      waiting (nextArrival i) w = (.done arrival,
        { w.setEndpoint i { w.endpoint i with pending := rest } with
          now := w.now.reaching time, limits, overlooked }) := by
  obtain ⟨felt, hfelt⟩ := w.exists_replacingLimit w.limit (w.limit.map Moment.felt)
  by_cases hpassed : ∀ x ∈ (w.endpoint i).pending.head?,
      World.limitPassesBy { w with limits := felt } (w.now.reaching x.1) = true
  · refine .inl ?_
    rw [waiting, hfelt, nextArrival_of_passed hpassed]
    rfl
  · obtain ⟨time, arrival, rest, hpending, hopen⟩ : ∃ time arrival rest,
        (w.endpoint i).pending = (time, arrival) :: rest ∧
          World.limitPassesBy { w with limits := felt } (w.now.reaching time) = false := by
      cases hpending : (w.endpoint i).pending with
      | nil => simp [hpending] at hpassed
      | cons first rest => exact ⟨first.1, first.2, rest, rfl, by simpa [hpending] using hpassed⟩
    refine .inr ⟨time, arrival, rest, ?_⟩
    rw [waiting, hfelt, nextArrival_of_open hpending hopen]
    dsimp only
    generalize hv : ({ w.setEndpoint i { w.endpoint i with pending := rest } with
      now := w.now.reaching time, limits := felt } : World) = v
    obtain ⟨back, hback⟩ := v.exists_replacingLimit (w.limit.map Moment.felt) w.limit
    rw [hback, ← hv]
    exact ⟨_, _, hpending, rfl⟩

/-- What comes first is received if it can be reached before the timeout passes. -/
theorem within_nextArrival_of_receivable {time : Nat} {arrival : Arrival}
    {rest : List (Nat × Arrival)} (hpending : (w.endpoint i).pending = (time, arrival) :: rest)
    (htime : w.now.receivable T time = true)
    (hfinished : (within T (nextArrival i) w).1 ≠ .cutOff) :
    ∃ limits overlooked, within T (nextArrival i) w = (.done (some arrival),
      { w.setEndpoint i { w.endpoint i with pending := rest } with
        now := w.now.reaching time, limits, overlooked }) := by
  obtain ⟨hstart, hbefore⟩ := Bool.and_eq_true_iff.mp htime
  rw [Binary64.letsStart_eq, Bool.not_eq_true'] at hstart
  rw [within, hstart, if_neg Bool.false_ne_true] at hfinished ⊢
  dsimp only at hfinished ⊢
  split at hfinished
  next hlimit =>
    rw [if_pos hlimit]
    rcases waiting_nextArrival i w with hcut | ⟨_, _, _, limits, overlooked, hfirst, hrun⟩
    · rcases hrun : waiting (nextArrival i) w with ⟨ending, v⟩
      rw [hrun] at hcut hfinished
      cases hcut
      exact absurd rfl hfinished
    · cases hpending.symm.trans hfirst
      rw [hrun]
      exact ⟨limits, overlooked, rfl⟩
  next hlimit =>
    rw [if_neg hlimit, nextArrival_of_open hpending]
    · dsimp only
      generalize hv : ({ w.setEndpoint i { w.endpoint i with pending := rest } with
        now := w.now.reaching time, limits := w.now.afterTimeout T :: w.limits } : World) = v
      obtain ⟨back, hback⟩ := v.exists_replacingLimit (some (w.now.afterTimeout T)) none
      rw [hback, ← hv]
      exact ⟨_, _, rfl⟩
    · rw [World.limitPassesBy, World.limit, List.head?_cons, Option.any_some, hbefore]
      rfl

/-- Nothing is received if what comes first cannot be reached before the timeout passes, or if
nothing comes. -/
theorem within_nextArrival_of_not_receivable (hw : w.Underway stop)
    (hlate : ∀ x ∈ (w.endpoint i).pending.head?, w.now.receivable T x.1 = false)
    (hends : EndsBefore stop (within T (nextArrival i)) w) :
    ∃ limits overlooked, within T (nextArrival i) w =
      (.done none, { w with now := w.now.receiveEnd T, limits, overlooked }) := by
  obtain ⟨hfinished, -⟩ := Heeds.underway
    (heeds_within T fun _ hv hlimits => heedsAt_nextArrival i hv hlimits) hw hends
  cases hstart : T.letsStart with
  | false =>
    rw [Moment.receiveEnd, hstart, if_neg Bool.false_ne_true]
    rw [Binary64.letsStart_eq, Bool.not_eq_false'] at hstart
    exact ⟨w.limits, w.overlooked, within_passed hstart⟩
  | true =>
    have hunreached : ∀ x ∈ (w.endpoint i).pending.head?,
        (w.now.reaching x.1).before (w.now.afterTimeout T) = false := by
      intro x hx
      have hx := hlate x hx
      rwa [Moment.receivable, hstart, Bool.true_and] at hx
    rw [Moment.receiveEnd, hstart, if_pos rfl]
    rw [Binary64.letsStart_eq, Bool.not_eq_true'] at hstart
    rw [EndsBefore, within, hstart, if_neg Bool.false_ne_true] at hends
    rw [within, hstart, if_neg Bool.false_ne_true] at hfinished ⊢
    dsimp only at hfinished hends ⊢
    split at hends
    next hlimit =>
      rw [if_pos hlimit] at hfinished
      obtain ⟨hstop, htime⟩ : w.limit = some stop ∧ stop.time ≤ (w.now.afterTimeout T).time := by
        rcases List.sublist_singleton.mp hw.only with hnone | hstop
        · rw [World.limit, hnone] at hlimit
          cases hlimit
        · rw [World.limit, hstop] at hlimit ⊢
          exact ⟨rfl, of_decide_eq_true hlimit⟩
      rcases waiting_nextArrival i w with hcut |
        ⟨time, arrival, rest, limits, overlooked, hpending, hrun⟩
      · rcases hrun : waiting (nextArrival i) w with ⟨ending, v⟩
        rw [hrun] at hcut hfinished
        cases hcut
        cases hfinished
      · -- What is taken before the case has to end is there in time.
        rw [hrun] at hends
        have hreached := Moment.reaching_before_afterTimeout hw.byTurns htime hends
        rw [hunreached (time, arrival) (by rw [hpending]; rfl)] at hreached
        cases hreached
    next hlimit =>
      rw [if_neg hlimit, nextArrival_of_own hunreached]
      refine ⟨w.limits, w.overlooked, Prod.ext (if_pos rfl) ?_⟩
      exact World.replacingLimit_of_eq rfl none

end Run

end TimeProbe

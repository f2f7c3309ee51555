import TimeProbe.Network.Exchange
import TimeProbe.Proofs.ClosingTime

/-!
# The wait for a reply

A wait takes arrivals in their order. A datagram without a value is passed over, and of the invalid
ones the error of the last one is kept. The first arrival that is anything else ends the wait, if
it can be taken in time. Limits around the wait do not change how it ends, as long as none of them
cuts it off.
-/

namespace TimeProbe

/-- A fault of the system is neither a fault of the prober's own transport nor an interrupt. -/
theorem FaultKind.isA_of_os {kind : FaultKind} (h : kind.isA .os = true) :
    kind.isA .receiveTimeout = false ∧ kind.isA .transport = false ∧
      kind.isA .interrupt = false := by
  revert h
  cases kind <;> decide

namespace Arrival

variable {α : Type}

/-- Whether an arrival decides an exchange: a socket error does, and a datagram with a value. -/
def isDecisive (accept : Bytes → Except ReplyError (Option α)) : Arrival → Bool
  | .socketError _ => true
  | .datagram data =>
    match accept data with
    | .ok (some _) => true
    | .ok none => false
    | .error _ => false

/-- The error of an invalid datagram, with the datagram. -/
def rejected? (accept : Bytes → Except ReplyError (Option α)) :
    Arrival → Option (ReplyError × Bytes)
  | .socketError _ => none
  | .datagram data =>
    match accept data with
    | .ok _ => none
    | .error e => some (e, data)

/-- A datagram that does not belong to the request. -/
inductive Unrelated (accept : Bytes → Except ReplyError (Option α)) : Arrival → Prop
  | intro {data : Bytes} (noValue : accept data = .ok none) : Unrelated accept (.datagram data)

/-- A datagram that is no valid reply. -/
inductive Invalid (accept : Bytes → Except ReplyError (Option α)) : Arrival → Prop
  | intro {data : Bytes} {e : ReplyError} (error : accept data = .error e) :
      Invalid accept (.datagram data)

/-- How an exchange ends by an arrival that decides it: with the value of a datagram, or with a
transport fault for a socket error. -/
inductive Decides (accept : Bytes → Except ReplyError (Option α)) (address : Address) :
    Arrival → Ending α → Prop
  | answered {data : Bytes} {a : α} (value : accept data = .ok (some a)) :
      Decides accept address (.datagram data) (.done a)
  | broken {cause : Option Fault}
      (transport : (Endpoint.receiveFault address cause).kind = .transport) :
      Decides accept address (.socketError cause) (.failed (Endpoint.receiveFault address cause))

/-- Whether an arrival is no socket error with a cause other than a fault of the system. -/
def FromSystem (arrival : Arrival) : Prop :=
  ∀ cause, arrival = .socketError (some cause) → cause.kind.isA .os = true

variable {accept : Bytes → Except ReplyError (Option α)} {arrival : Arrival}

/-- An arrival that does not decide is a datagram that is unrelated or invalid. -/
theorem isDecisive_eq_false_iff :
    arrival.isDecisive accept = false ↔ arrival.Unrelated accept ∨ arrival.Invalid accept := by
  constructor
  · intro hpassed
    cases arrival with
    | socketError cause => cases hpassed
    | datagram data =>
      rw [isDecisive] at hpassed
      split at hpassed
      next => cases hpassed
      next hvalue => exact .inl ⟨hvalue⟩
      next hvalue => exact .inr ⟨hvalue⟩
  · rintro (⟨⟨hvalue⟩⟩ | ⟨⟨hvalue⟩⟩) <;> simp only [isDecisive, hvalue]

/-- An unrelated datagram is not rejected. -/
theorem Unrelated.rejected?_eq (h : arrival.Unrelated accept) :
    arrival.rejected? accept = none := by
  obtain ⟨hvalue⟩ := h
  rw [rejected?, hvalue]

/-- An invalid datagram is rejected with its error. -/
theorem Invalid.exists_rejected (h : arrival.Invalid accept) :
    ∃ data e, arrival = .datagram data ∧ accept data = .error e ∧
      arrival.rejected? accept = some (e, data) := by
  obtain ⟨hvalue⟩ := h
  refine ⟨_, _, rfl, hvalue, ?_⟩
  rw [rejected?, hvalue]

end Arrival

/-- The errors of the invalid datagrams among arrivals, with the datagrams. -/
def rejections {α : Type} (accept : Bytes → Except ReplyError (Option α))
    (arrivals : List (Nat × Arrival)) : List (ReplyError × Bytes) :=
  arrivals.filterMap (·.2.rejected? accept)

/-- The last invalid datagram is the last one of the others, or else the first arrival. -/
theorem getLast?_rejections_cons {α : Type} (accept : Bytes → Except ReplyError (Option α))
    (time : Nat) (arrival : Arrival) (rest : List (Nat × Arrival))
    (last : Option (ReplyError × Bytes)) :
    (rejections accept ((time, arrival) :: rest)).getLast?.or last =
      (rejections accept rest).getLast?.or ((arrival.rejected? accept).or last) := by
  rw [rejections, rejections, List.filterMap_cons]
  cases arrival.rejected? accept with
  | none => rfl
  | some rejected =>
    dsimp only
    rw [List.getLast?_cons]
    cases (rest.filterMap (·.2.rejected? accept)).getLast? <;> rfl

/-- Unrelated datagrams leave no error. -/
theorem rejections_eq_nil {α : Type} {accept : Bytes → Except ReplyError (Option α)}
    {arrivals : List (Nat × Arrival)} (h : ∀ a ∈ arrivals, a.2.Unrelated accept) :
    rejections accept arrivals = [] :=
  List.filterMap_eq_nil_iff.mpr fun a ha => (h a ha).rejected?_eq

/-- Whether a wait ended because the time was up. -/
def Verdict.isExpired {α : Type} : Verdict α → Bool
  | answered _ => false
  | broken _ => false
  | abandoned _ => false
  | expired _ => true

/-- How an exchange ends by the verdict of its wait. -/
def Verdict.ending {α : Type} (address : Address) (timeout : Binary64) : Verdict α → Ending α
  | .answered a => .done a
  | .broken cause => .failed (Endpoint.receiveFault address cause)
  | .abandoned last => .failed (Run.noReply address timeout last)
  | .expired last => .failed (Run.noReply address timeout last)

section

variable {α : Type} {accept : Bytes → Except ReplyError (Option α)} {stop now : Moment}
  {time : Nat} {arrival : Arrival} {front rest : List (Nat × Arrival)}
  {last : Option (ReplyError × Bytes)}

/-- An arrival that does not decide is taken and passed over. -/
theorem awaitReply_passed (htime : (now.reaching time).before stop = true)
    (hpassed : arrival.isDecisive accept = false) :
    awaitReply accept stop ((time, arrival) :: rest) now last =
      awaitReply accept stop rest (now.reaching time) ((arrival.rejected? accept).or last) := by
  cases arrival with
  | socketError cause => cases hpassed
  | datagram data =>
    rw [Arrival.isDecisive] at hpassed
    rw [awaitReply.eq_def, Arrival.rejected?]
    dsimp only
    rw [if_pos htime]
    cases haccept : accept data with
    | error e => rfl
    | ok value =>
      cases value with
      | none => rfl
      | some a =>
        rw [haccept] at hpassed
        cases hpassed

/-- Arrivals that do not decide are taken one after the other, and the error of the last invalid
one is kept. -/
theorem awaitReply_front (hfront : ∀ a ∈ front, (now.reaching a.1).before stop = true)
    (hpassed : ∀ a ∈ front, a.2.isDecisive accept = false) :
    awaitReply accept stop (front ++ rest) now last =
      awaitReply accept stop rest (now.reachingAll front)
        ((rejections accept front).getLast?.or last) := by
  induction front generalizing now last with
  | nil => rfl
  | cons first front ih =>
    obtain ⟨time, arrival⟩ := first
    have hfirst := hfront _ List.mem_cons_self
    have hothers : ∀ a ∈ front, ((now.reaching time).reaching a.1).before stop = true := by
      intro a ha
      rw [Moment.reaching_reaching_before_iff]
      exact ⟨hfirst, hfront a (List.mem_cons_of_mem _ ha)⟩
    rw [List.cons_append, awaitReply_passed hfirst (hpassed _ List.mem_cons_self),
      ih hothers fun a ha => hpassed a (List.mem_cons_of_mem _ ha), getLast?_rejections_cons]
    rfl

/-- Datagrams without a value that come before the closing time are passed over. -/
theorem awaitReply_passedOver {timeout : Binary64}
    (hfront : ∀ a ∈ front, a.1 < now.closing timeout ∧
      (a.2.Unrelated accept ∨ a.2.Invalid accept)) :
    awaitReply accept (now.deadline timeout) (front ++ rest) now none =
      awaitReply accept (now.deadline timeout) rest (now.reachingAll front)
        (rejections accept front).getLast? := by
  have htime : ∀ a ∈ front, (now.reaching a.1).before (now.deadline timeout) = true :=
    fun a ha => Moment.reaching_before_deadline_iff.mpr (hfront a ha).1
  have hpassed : ∀ a ∈ front, a.2.isDecisive accept = false :=
    fun a ha => Arrival.isDecisive_eq_false_iff.mpr (hfront a ha).2
  rw [awaitReply_front htime hpassed, Option.or_none]

/-- The first arrivals that come before a closing time and do not decide. -/
theorem exists_front (accept : Bytes → Except ReplyError (Option α)) (closing : Nat)
    (arrivals : List (Nat × Arrival)) :
    ∃ front rest, arrivals = front ++ rest ∧
      (∀ a ∈ front, a.1 < closing ∧ (a.2.Unrelated accept ∨ a.2.Invalid accept)) ∧
      ∀ a ∈ rest.head?, a.1 < closing → a.2.isDecisive accept = true := by
  induction arrivals with
  | nil => exact ⟨[], [], rfl, List.forall_mem_nil _, by simp⟩
  | cons first arrivals ih =>
    by_cases hpassed : first.1 < closing ∧ first.2.isDecisive accept = false
    · obtain ⟨front, rest, rfl, hfront, hrest⟩ := ih
      have hfirst := Arrival.isDecisive_eq_false_iff.mp hpassed.2
      exact ⟨first :: front, rest, rfl, List.forall_mem_cons.mpr ⟨⟨hpassed.1, hfirst⟩, hfront⟩,
        hrest⟩
    · refine ⟨[], first :: arrivals, rfl, List.forall_mem_nil _, ?_⟩
      rintro a ⟨⟩ htime
      exact Bool.not_eq_false _ ▸ fun hno => hpassed ⟨htime, hno⟩

/-- An arrival that decides ends every wait in the same way for which it is there in time. -/
theorem awaitReply_decided (time : Nat) (hdecisive : arrival.isDecisive accept = true) :
    ∃ verdict : Verdict α, verdict.isExpired = false ∧
      ∀ stop, (now.reaching time).before stop = true →
        awaitReply accept stop ((time, arrival) :: rest) now last =
          ⟨verdict, now.reaching time, rest⟩ := by
  cases arrival with
  | socketError cause =>
    cases htimeout : isTimeout cause with
    | true =>
      refine ⟨.abandoned last, rfl, fun stop htime => ?_⟩
      rw [awaitReply, if_pos htime, htimeout, if_pos rfl]
    | false =>
      refine ⟨.broken cause, rfl, fun stop htime => ?_⟩
      rw [awaitReply, if_pos htime, htimeout, if_neg Bool.false_ne_true]
  | datagram data =>
    rw [Arrival.isDecisive] at hdecisive
    split at hdecisive
    next a hvalue =>
      refine ⟨.answered a, rfl, fun stop htime => ?_⟩
      rw [awaitReply, if_pos htime, hvalue]
    next => cases hdecisive
    next => cases hdecisive

/-- An arrival that is not there in time is not taken. -/
theorem awaitReply_unreached (htime : (now.reaching time).before stop = false) :
    awaitReply accept stop ((time, arrival) :: rest) now last =
      ⟨.expired last, now.later stop, (time, arrival) :: rest⟩ := by
  rw [awaitReply.eq_def]
  dsimp only
  rw [htime, if_neg Bool.false_ne_true]

/-- Where the next arrival is not there in time, the wait lasts until its end. -/
theorem awaitReply_late
    (hlate : ∀ a ∈ rest.head?, (now.reaching a.1).before stop = false) :
    awaitReply accept stop rest now last = ⟨.expired last, now.later stop, rest⟩ := by
  cases rest with
  | nil => rfl
  | cons first rest => exact awaitReply_unreached (hlate first rfl)

/-- Where there is no time to wait, nothing is taken. -/
theorem awaitReply_of_not_before (h : now.before stop = false) :
    awaitReply accept stop rest now last = ⟨.expired last, now, rest⟩ := by
  have hlater : now.later stop = now := by rw [Moment.later, h, if_neg Bool.false_ne_true]
  have hlate : ∀ a ∈ rest.head?, (now.reaching a.1).before stop = false := by
    intro a _
    rw [Bool.eq_false_iff, ne_eq, Moment.reaching_before_iff, h]
    simp
  rw [awaitReply_late hlate, hlater]

end

namespace Moment

variable {a b m : Moment}

/-- Waiting until something can be taken does not go back in time. -/
theorem reaching_before_self (m : Moment) (time : Nat) : (m.reaching time).before m = false := by
  rw [← Bool.not_eq_true, before_iff, reaching]
  split
  · simp only
    omega
  · omega

/-- The later of two moments comes before what both come before. -/
theorem later_before (ha : a.before m = true) (hb : b.before m = true) :
    (a.later b).before m = true := by
  rw [later]
  split
  · exact hb
  · exact ha

/-- The later of two moments does not come before either of them. -/
theorem later_not_before (a b : Moment) :
    (a.later b).before a = false ∧ (a.later b).before b = false := by
  rw [later]
  simp only [← Bool.not_eq_true]
  split
  next h =>
    rw [before_iff] at h ⊢
    rw [before_iff]
    omega
  next h =>
    refine ⟨?_, h⟩
    rw [before_iff]
    omega

variable {now deadline : Moment} {time limit : Nat}

/-- A wait for the time of a limit that is still to come lasts until that time. -/
theorem time_later {limit : Moment} (h : now.before limit = true) :
    (now.later ⟨limit.time, 0⟩).time = limit.time := by
  rw [later]
  split
  · rfl
  next hlate =>
    rw [before_iff] at h hlate
    dsimp only at hlate
    omega

/-- Waiting for an earlier moment on the way to a deadline does not put the deadline off. -/
theorem later_later {stop : Moment} (hstop : deadline.before stop = false) :
    (now.later stop).later deadline = now.later deadline := by
  rw [← Bool.not_eq_true, before_iff] at hstop
  obtain ⟨nowTime, nowTurn⟩ := now
  obtain ⟨stopTime, stopTurn⟩ := stop
  obtain ⟨time, turn⟩ := deadline
  simp only [later, before_iff] at hstop ⊢
  by_cases hnow : nowTime < stopTime ∨ nowTime = stopTime ∧ nowTurn < stopTurn
  · rw [if_pos hnow, if_pos (show nowTime < time ∨ nowTime = time ∧ nowTurn < turn by omega)]
    split
    · rfl
    · rw [mk.injEq]
      dsimp only at *
      omega
  · rw [if_neg hnow]

/-- What comes no sooner than the time of a limit is reached as well when the limit was waited
for. -/
theorem later_reaching (h : (now.reaching time).before ⟨limit, 0⟩ = false) :
    (now.later ⟨limit, 0⟩).reaching time = now.reaching time := by
  rw [later]
  split
  next hnow =>
    have htime : now.time < limit := by simpa [before_iff] using hnow
    rw [← Bool.not_eq_true, reaching_before_iff] at h
    obtain ⟨hbehind, hlate⟩ : now.time < time ∧ limit ≤ time := by
      simp only [before_iff] at h
      omega
    rw [reaching, reaching, if_pos hbehind]
    split
    · rfl
    · rw [mk.injEq]
      dsimp only at *
      omega
  next => rfl

end Moment

section Amid

variable {α : Type} (accept : Bytes → Except ReplyError (Option α)) {deadline : Moment}

/-- A wait for a reply ends before it has to, or it expires at the moment at which it has to end. -/
theorem awaitReply_moment (stop : Moment) (arrivals : List (Nat × Arrival)) (now : Moment)
    (last : Option (ReplyError × Bytes)) :
    let wait := awaitReply accept stop arrivals now last
    (wait.verdict.isExpired = true → wait.moment = now.later stop) ∧
      (wait.verdict.isExpired = false →
        wait.moment.before stop = true ∧ wait.moment.before now = false) := by
  induction arrivals generalizing now last with
  | nil => exact ⟨fun _ => rfl, by rintro ⟨⟩⟩
  | cons first rest ih =>
    obtain ⟨time, arrival⟩ := first
    have hback := now.reaching_before_self time
    cases hearly : (now.reaching time).before stop with
    | false =>
      rw [awaitReply_unreached hearly]
      exact ⟨fun _ => rfl, by rintro ⟨⟩⟩
    | true =>
      cases hdecisive : arrival.isDecisive accept with
      | true =>
        obtain ⟨verdict, hverdict, hwait⟩ := awaitReply_decided time hdecisive
        rw [hwait stop hearly]
        refine ⟨fun h => ?_, fun _ => ⟨hearly, hback⟩⟩
        cases hverdict.symm.trans h
      | false =>
        have hnow := (Moment.reaching_before_iff.mp hearly).1
        obtain ⟨hexpired, hended⟩ := ih (now.reaching time) ((arrival.rejected? accept).or last)
        rw [awaitReply_passed hearly hdecisive]
        refine ⟨fun h => ?_, fun h => ⟨(hended h).1, ?_⟩⟩
        · rw [hexpired h, Moment.later, Moment.later, if_pos hearly, if_pos hnow]
        · exact Moment.before_eq_false_trans hback (hended h).2

/-- A wait for a reply does not go back in time. -/
theorem awaitReply_onward (stop : Moment) (arrivals : List (Nat × Arrival)) (now : Moment)
    (last : Option (ReplyError × Bytes)) :
    (awaitReply accept stop arrivals now last).moment.before now = false := by
  obtain ⟨hexpired, hended⟩ := awaitReply_moment accept stop arrivals now last
  cases h : (awaitReply accept stop arrivals now last).verdict.isExpired with
  | true =>
    rw [hexpired h]
    exact (Moment.later_not_before now stop).1
  | false => exact (hended h).2

/-- A wait that something ends before its time is up ends in the same way if it may last longer. -/
theorem awaitReply_of_not_expired {stop now : Moment} {arrivals : List (Nat × Arrival)}
    {last : Option (ReplyError × Bytes)}
    (hstop : ∀ m : Moment, m.before stop = true → m.before deadline = true)
    (h : (awaitReply accept stop arrivals now last).verdict.isExpired = false) :
    awaitReply accept deadline arrivals now last = awaitReply accept stop arrivals now last := by
  induction arrivals generalizing now last with
  | nil => cases h
  | cons first rest ih =>
    obtain ⟨time, arrival⟩ := first
    cases htime : (now.reaching time).before stop with
    | false =>
      rw [awaitReply_unreached htime] at h
      cases h
    | true =>
      cases hdecisive : arrival.isDecisive accept with
      | false =>
        rw [awaitReply_passed htime hdecisive] at h ⊢
        rw [awaitReply_passed (hstop _ htime) hdecisive]
        exact ih h
      | true =>
        obtain ⟨verdict, -, hwait⟩ := awaitReply_decided time hdecisive
        rw [hwait _ htime, hwait _ (hstop _ htime)]

/-- A wait that expired before its deadline goes on to the deadline as if it had not been
interrupted. -/
theorem awaitReply_later {limit : Nat} (hstop : deadline.before ⟨limit, 0⟩ = false)
    (arrivals : List (Nat × Arrival)) (now : Moment) (last : Option (ReplyError × Bytes))
    {last' : Option (ReplyError × Bytes)} {moment : Moment} {left : List (Nat × Arrival)}
    (hwait : awaitReply accept ⟨limit, 0⟩ arrivals now last = ⟨.expired last', moment, left⟩) :
    awaitReply accept deadline left moment last' =
      awaitReply accept deadline arrivals now last := by
  induction arrivals generalizing now last with
  | nil =>
    cases hwait
    rw [awaitReply, awaitReply, Moment.later_later hstop]
  | cons first rest ih =>
    obtain ⟨time, arrival⟩ := first
    cases htime : (now.reaching time).before ⟨limit, 0⟩ with
    | false =>
      rw [awaitReply_unreached htime] at hwait
      cases hwait
      rw [awaitReply.eq_def, awaitReply.eq_def accept deadline ((time, arrival) :: rest) now]
      dsimp only
      rw [Moment.later_reaching htime, Moment.later_later hstop]
    | true =>
      cases hdecisive : arrival.isDecisive accept with
      | false =>
        rw [awaitReply_passed htime hdecisive] at hwait
        rw [awaitReply_passed (Moment.before_of_before htime hstop) hdecisive]
        exact ih _ _ hwait
      | true =>
        obtain ⟨verdict, hverdict, hends⟩ := awaitReply_decided time hdecisive
        rw [hends _ htime] at hwait
        cases hwait
        cases hverdict

/-- **Limits do not matter to a wait that they do not cut off.** It ends as it does without them. -/
theorem awaitAmid_eq_awaitReply (limits : List Moment) (arrivals : List (Nat × Arrival))
    (now : Moment) (last : Option (ReplyError × Bytes))
    (hfinished : let found := awaitAmid accept deadline limits arrivals now last
      found.2.verdict.isExpired = true → now.before deadline = true →
        ∀ limit ∈ (limits.drop found.1).head?, deadline.before limit = true) :
    (awaitAmid accept deadline limits arrivals now last).2 =
      awaitReply accept deadline arrivals now last := by
  induction limits generalizing arrivals now last with
  | nil => rfl
  | cons limit limits ih =>
    rw [awaitAmid] at hfinished ⊢
    split at hfinished
    next hdeadline => rw [if_pos hdeadline]
    next hdeadline =>
      rw [if_neg hdeadline]
      rw [Bool.not_eq_true] at hdeadline
      have hstop : deadline.before ⟨limit.time, 0⟩ = false :=
        Moment.before_eq_false_trans limit.before_time hdeadline
      have hlonger (m : Moment) (hm : m.before ⟨limit.time, 0⟩ = true) :
          m.before deadline = true := Moment.before_of_before hm hstop
      have hshort :
          (awaitReply accept ⟨limit.time, 0⟩ arrivals now last).verdict.isExpired = false →
            awaitReply accept deadline arrivals now last =
              awaitReply accept ⟨limit.time, 0⟩ arrivals now last :=
        awaitReply_of_not_expired accept hlonger
      have honward := awaitReply_onward accept ⟨limit.time, 0⟩ arrivals now last
      rcases hwait : awaitReply accept ⟨limit.time, 0⟩ arrivals now last with
        ⟨verdict, moment, left⟩
      rw [hwait] at hfinished hshort honward
      cases verdict with
      | answered a => exact (hshort rfl).symm
      | broken cause => exact (hshort rfl).symm
      | abandoned last => exact (hshort rfl).symm
      | expired expired =>
        dsimp only at hfinished ⊢
        split at hfinished
        next htaken =>
          rw [if_pos htaken]
          refine (ih left moment expired fun hexpired hbefore => ?_).trans
            (awaitReply_later accept hstop arrivals now last hwait)
          exact hfinished hexpired (Moment.before_of_behind honward hbefore)
        next htaken =>
          -- The limit would have cut the wait off, if there had been time to wait.
          rw [if_neg htaken]
          have hover : now.before deadline = false := by
            rw [Bool.eq_false_iff]
            exact fun hwaits => by cases hdeadline.symm.trans (hfinished rfl hwaits limit rfl)
          have hpassed : now.before ⟨limit.time, 0⟩ = false := by
            rw [Bool.eq_false_iff]
            intro hbefore
            rw [hlonger now hbefore] at hover
            cases hover
          rw [awaitReply_of_not_before hpassed] at hwait
          cases hwait
          rw [awaitReply_of_not_before hover, Moment.later,
            Moment.before_eq_false_trans hdeadline hover, if_neg Bool.false_ne_true]

end Amid

end TimeProbe

import TimeProbe.Catalog.Extensions
import TimeProbe.Proofs.ReliableServers
import TimeProbe.Proofs.ElementarySteps

/-!
# Exact verdicts of plain cases

What a plain case says about a reliable server is settled by what comes to its endpoint. A poll is
judged by the first datagram that echoes its timestamp, if this comes in time and before any error
of the socket; a case that expects silence, by whatever comes first. Behind either the same endpoint
has to answer one more poll, with what was not taken still ahead of the answer.
-/

namespace TimeProbe

namespace Value

/-- There are ticks in a unit. -/
theorem ticksPerUnit_pos : (0 : Int) < Binary64.ticksPerUnit := by
  rw [Binary64.ticksPerUnit, Nat.one_shiftLeft]
  exact Int.natCast_pos.mpr (Nat.two_pow_pos 1074)

/-- Whole numbers are the same values if they are equal. -/
theorem same_int_iff {a b : Int} : (int a).same (.int b) = true ↔ a = b := by
  have hticks : (int a).same (.int b) = (a * Binary64.ticksPerUnit == b * Binary64.ticksPerUnit) :=
    rfl
  rw [hticks, beq_iff_eq, Int.mul_eq_mul_right_iff (Int.ne_of_gt ticksPerUnit_pos)]

/-- A mode is the same value as its number. -/
theorem same_mode_iff {a : Int} {m : Mode} : (int a).same (.mode m) = true ↔ a = m.code :=
  same_int_iff

/-- Whole numbers are ordered as values as they are. -/
theorem precedes_int (a b : Int) : (int a).precedes (.int b) = .ok (decide (a < b)) := by
  have hticks : (int a).precedes (.int b) =
      .ok (decide (a * Binary64.ticksPerUnit < b * Binary64.ticksPerUnit)) := rfl
  rw [hticks, decide_eq_decide.mpr (Int.mul_lt_mul_right ticksPerUnit_pos)]

end Value

namespace Expect

/-- An expectation that is met. -/
theorem that_of_true {condition : Bool} (h : condition = true) (reason : String)
    (response : Value) : that condition reason response = .ok () := by
  rw [that, if_pos h]

/-- An expectation that is not met fails the test and shows the response. -/
theorem that_of_not {condition : Bool} (h : ¬ condition = true) (reason : String)
    (response : Value) :
    that condition reason response = .error (Fault.failure reason response) := by
  rw [that, if_neg h]

end Expect

namespace Packet

/-- The packet of a datagram that echoes a timestamp. -/
def echo? (origin : Int) (data : Bytes) : Option Packet :=
  (Packet.decode data).toOption.filter (·.originTimestamp == origin)

/-- A datagram holds an echo if it can be decoded and its packet echoes the timestamp. -/
theorem echo?_eq_some_iff {origin : Int} {data : Bytes} {p : Packet} :
    echo? origin data = some p ↔ Packet.decode data = .ok p ∧ p.originTimestamp = origin := by
  rw [echo?]
  cases hdecode : Packet.decode data with
  | error e => simp [Except.toOption]
  | ok q =>
    simp only [Except.toOption, Option.filter_eq_some_iff, Option.some.injEq, beq_iff_eq,
      Except.ok.injEq]

/-- An answer to a poll is a server's reply. -/
theorem Answers.isServerReply {p poll : Packet} (h : p.Answers poll) : p.isServerReply = true := by
  rw [Packet.isServerReply, h.mode, h.version]
  rfl

/-- What a reply to a poll of a version has to be: a server's packet of the same version that was
sent later than the poll was received. -/
structure RepliesIn (version : Int) (p : Packet) : Prop where
  version : p.version = version
  order : p.receiveTimestamp < p.transmitTimestamp
  mode : p.mode = Mode.server.code

end Packet

namespace Catalog.Basic

/-- An echo is judged good exactly if it is what a reply has to be; another one fails the test and
is shown. -/
theorem judge_cases (version : Int) {origin : Int} {p : Packet}
    (horigin : p.originTimestamp = origin) :
    (p.RepliesIn version ∧ judge version ⟨origin, none⟩ p = .ok ()) ∨
      (¬ p.RepliesIn version ∧ ∃ reason,
        judge version ⟨origin, none⟩ p = .error (Fault.failure reason (.packet p))) := by
  have hechoes : (Value.int p.originTimestamp).same (.int origin) = true :=
    Value.same_int_iff.mpr horigin
  have hjudge : judge version ⟨origin, none⟩ p = (do
      Expect.version (.packet p) (.int version)
      Expect.greater (.int p.transmitTimestamp) (.int p.receiveTimestamp)
        "Receive should happen before send of response" (.packet p)
      Expect.equal (.int p.mode) (.mode .server) "Incorrect mode in server response"
        (.packet p)) := by
    rw [judge, Expect.equal, Expect.that_of_true hechoes]
    rfl
  rw [hjudge, Expect.version, Expect.greater, Value.precedes_int]
  dsimp only
  by_cases hversion : p.version = version
  · rw [Expect.that_of_true (Value.same_int_iff.mpr hversion)]
    by_cases horder : p.receiveTimestamp < p.transmitTimestamp
    · rw [Expect.that_of_true (decide_eq_true horder), Expect.equal]
      by_cases hmode : p.mode = Mode.server.code
      · rw [Expect.that_of_true (Value.same_mode_iff.mpr hmode)]
        exact .inl ⟨⟨hversion, horder, hmode⟩, rfl⟩
      · rw [Expect.that_of_not (mt Value.same_mode_iff.mp hmode)]
        exact .inr ⟨fun h => hmode h.mode, _, rfl⟩
    · rw [Expect.that_of_not (by simpa using horder)]
      exact .inr ⟨fun h => horder h.order, _, rfl⟩
  · rw [Expect.that_of_not (mt Value.same_int_iff.mp hversion)]
    exact .inr ⟨fun h => hversion h.version, _, rfl⟩

end Catalog.Basic

namespace World

/-- The poll of a version that is drawn next. -/
def pollIn (w : World) (version : Int) : Packet := (Packet.freshPoll w.entropy version).1.1

/-- A poll goes out on an endpoint and the first echo of it that comes is a server's packet of
version 4. -/
def Alive (w : World) (i : Nat) : Prop :=
  ∃ earlier time p later, w.Brings i w.poll.encode (Packet.echo? w.poll.transmitTimestamp)
    earlier time p later ∧ p.Answers w.poll

/-- The verdict on a server that is polled in a version. It passes exactly if the first echo is what
a reply has to be and the server is alive behind it. An echo that is not fails the test and is
shown. -/
structure JudgesPoll (w : World) (i : Nat) (version : Int) (outcome : Outcome) : Prop where
  passed : outcome.kind = .passed ↔ ∃ earlier time p later,
    w.Brings i (w.pollIn version).encode (Packet.echo? (w.pollIn version).transmitTimestamp)
      earlier time p later ∧
    p.RepliesIn version ∧
    (w.polled.taking i (w.pollIn version).encode earlier time later).Alive i
  failed : ∀ earlier time p later,
    w.Brings i (w.pollIn version).encode (Packet.echo? (w.pollIn version).transmitTimestamp)
      earlier time p later →
    ¬ p.RepliesIn version →
    outcome.kind = .failed ∧ outcome.detail = some (Value.packet p).literal

/-- The verdict on a server that should not answer a datagram. It passes exactly if nothing that
reaches the endpoint can be received in time and the server is alive then. A datagram that is
received fails the test, whatever it holds, and is shown; an error of the socket is an error. -/
structure JudgesSilence (w : World) (i : Nat) (octets : Bytes) (outcome : Outcome) : Prop where
  passed : outcome.kind = .passed ↔
    (∀ x ∈ (w.answering i octets).pending,
      w.now.receivable (w.endpoint i).timeout x.1 = false) ∧
    (w.polled.leaving i (w.answering i octets) (w.now.receiveEnd (w.endpoint i).timeout)).Alive i
  failed : ∀ time data later, (w.answering i octets).pending = (time, .datagram data) :: later →
    w.now.receivable (w.endpoint i).timeout time = true →
    outcome.kind = .failed ∧ outcome.detail = some ("raw: " ++ Bytes.hex data)
  errored : ∀ time cause later,
    (w.answering i octets).pending = (time, .socketError cause) :: later →
    w.now.receivable (w.endpoint i).timeout time = true → outcome.kind = .errored

end World

/-- Where what comes first is not receivable, nothing is. -/
theorem Endpoint.EarliestFirst.not_receivable_of_head {e : Endpoint} {m : Moment}
    {timeout : Binary64} (h : e.EarliestFirst)
    (hhead : ∀ x ∈ e.pending.head?, m.receivable timeout x.1 = false) :
    ∀ x ∈ e.pending, m.receivable timeout x.1 = false := by
  rw [Endpoint.EarliestFirst] at h
  cases hpending : e.pending with
  | nil => exact List.forall_mem_nil _
  | cons first later =>
    rw [hpending] at h hhead
    have hfirst := hhead first rfl
    refine List.forall_mem_cons.mpr ⟨hfirst, fun x hx => ?_⟩
    rw [Bool.eq_false_iff]
    intro hreceivable
    rw [Moment.receivable_of_le hreceivable ((List.pairwise_cons.mp h).1 x hx)] at hfirst
    cases hfirst

/-- The fault of a test that expects silence, for what was received: a datagram fails the test and
is shown, and an error of the socket becomes a transport fault. -/
inductive Fault.Disturbs : Fault → Arrival → Prop
  | datagram (reason : String) (data : Bytes) :
      Disturbs (Fault.failure reason (.bytes data)) (.datagram data)
  | socketError {f : Fault} {cause : Option Fault} (kind : f.kind = .transport)
      (ordinary : f.Ordinary) : Disturbs f (.socketError cause)

/-- Such a fault is ordinary. -/
theorem Fault.Disturbs.ordinary {f : Fault} {arrival : Arrival} (h : f.Disturbs arrival) :
    f.Ordinary := by
  cases h with
  | datagram reason data => exact ordinary_failure _ _
  | socketError _ hordinary => exact hordinary

/-- An error of the system is no interrupt. -/
theorem filter_interrupt_of_system {cause : Option Fault}
    (h : Arrival.FromSystem (.socketError cause)) :
    cause.filter (·.kind.isA .interrupt) = none := by
  cases cause with
  | none => rfl
  | some cause => simp [Option.filter, (FaultKind.isA_of_os (h cause rfl)).2.2]

namespace Run

/-- Sends what is made of a poll of a version, and expects silence. -/
def hush (version : Int) (make : Packet → Bytes) (reason : String) (i : Nat) : Run Unit := do
  let drawn ← drawing fun e => Packet.freshPoll e version
  sendDatagram i (make drawn.1)
  Expect.silence (receiveAnything i none) reason

variable {i : Nat} {w : World}

/-- A plain exchange accepts the datagrams that hold an echo. -/
theorem acceptPacket_eq_some_iff {origin : Int} (data : Bytes) (p : Packet) :
    acceptPacket ⟨origin, none⟩ data = .ok (some p) ↔ Packet.echo? origin data = some p := by
  rw [Packet.echo?_eq_some_iff]
  refine ⟨of_acceptPacket, fun ⟨hdecode, horigin⟩ => ?_⟩
  rw [acceptPacket_of_decode hdecode, if_pos (Identifier.accepts_none_iff.mpr horigin)]

/-- A plain exchange with a reliable server that is not cut off ends with the first echo, or it
fails. -/
theorem exchangePacket_of_reliable {request : Packet} {origin : Int} (h : w.Reliable i)
    (hfinished : (exchangePacket i request (some ⟨origin, none⟩) none w).1 ≠ .cutOff) :
    (∃ earlier time p later limits overlooked,
      w.Brings i request.encode (Packet.echo? origin) earlier time p later ∧
      p.originTimestamp = origin ∧
      exchangePacket i request (some ⟨origin, none⟩) none w =
        (.done p, { w.taking i request.encode earlier time later with limits, overlooked })) ∨
    ((∀ earlier time p later,
      ¬ w.Brings i request.encode (Packet.echo? origin) earlier time p later) ∧
      ∃ f w', exchangePacket i request (some ⟨origin, none⟩) none w = (.failed f, w') ∧
        f.Ordinary) := by
  rcases exchangeRaw_of_reliable acceptPacket_eq_some_iff h hfinished with
    ⟨earlier, time, p, later, limits, overlooked, hbrings, hrun⟩ |
    ⟨hnothing, f, left, m, limits, overlooked, hrun, hf, -⟩
  · obtain ⟨octets, -, hholds⟩ := hbrings.arrives
    exact .inl ⟨earlier, time, p, later, limits, overlooked, hbrings,
      (Packet.echo?_eq_some_iff.mp hholds).2, hrun⟩
  · exact .inr ⟨hnothing, f, _, hrun, hf⟩

/-- **A poll behind a test is exact.** On a reliable server a poll that is not cut off ends well if
the server is alive, and with an ordinary fault if not. -/
theorem probe_of_reliable (h : w.Reliable i) (hfinished : (probe i w).1 ≠ .cutOff) :
    EndsWellIff (probe i) w (w.Alive i) := by
  have hpolled : w.polled.Reliable i := ⟨h.there, h.endpoint⟩
  rw [EndsWellIff]
  rw [probe, bind_done (drawing_poll w)] at hfinished ⊢
  dsimp only at hfinished ⊢
  rcases exchangePacket_of_reliable hpolled (ne_cutOff_of_attempt (ne_cutOff_of_bind hfinished))
    with ⟨earlier, time, p, later, limits, overlooked, hbrings, horigin, hrun⟩ |
      ⟨hnothing, f, w', hrun, hf⟩
  · rw [bind_done (attempt_done hrun)]
    dsimp only
    by_cases hserver : p.isServerReply = true
    · rw [if_pos hserver]
      exact .inl ⟨⟨earlier, time, p, later, hbrings,
        Packet.answers_of_isServerReply horigin hserver⟩, _, rfl⟩
    · rw [if_neg hserver]
      refine .inr ⟨?_, _, _, rfl, Fault.ordinary_failure _ _⟩
      rintro ⟨earlier', time', p', later', hbrings', hanswers⟩
      obtain ⟨-, -, rfl, -⟩ := hbrings.unique hbrings'
      exact hserver hanswers.isServerReply
  · rw [bind_done (attempt_failed hrun)]
    refine .inr ⟨?_, _, _, rfl, ordinary_probeFault hf _⟩
    rintro ⟨earlier, time, p, later, hbrings, -⟩
    exact hnothing earlier time p later hbrings

/-- **A poll in a version is exact.** On a reliable server a poll that is not cut off ends well if
the first echo is what a reply has to be, and takes it; it fails the test and shows the echo if this
is something else, and it ends with an ordinary fault if there is none. -/
theorem poll_of_reliable {version : Int} (h : w.Reliable i)
    (hfinished : (Catalog.Basic.poll version i w).1 ≠ .cutOff) :
    (∃ earlier time p later limits overlooked,
      w.Brings i (w.pollIn version).encode (Packet.echo? (w.pollIn version).transmitTimestamp)
        earlier time p later ∧
      p.RepliesIn version ∧
      Catalog.Basic.poll version i w =
        (.done (), { w.polled.taking i (w.pollIn version).encode earlier time later with
          limits, overlooked })) ∨
    (∃ earlier time p later,
      w.Brings i (w.pollIn version).encode (Packet.echo? (w.pollIn version).transmitTimestamp)
        earlier time p later ∧
      ¬ p.RepliesIn version ∧
      ∃ reason w', Catalog.Basic.poll version i w =
        (.failed (Fault.failure reason (.packet p)), w')) ∨
    ((∀ earlier time p later, ¬ w.Brings i (w.pollIn version).encode
        (Packet.echo? (w.pollIn version).transmitTimestamp) earlier time p later) ∧
      ∃ f w', Catalog.Basic.poll version i w = (.failed f, w') ∧ f.Ordinary) := by
  have hpolled : w.polled.Reliable i := ⟨h.there, h.endpoint⟩
  have hdrawn : drawing (fun e => Packet.freshPoll e version) w =
      (.done (w.pollIn version, ⟨(w.pollIn version).transmitTimestamp, none⟩), w.polled) := rfl
  rw [Catalog.Basic.poll, bind_done hdrawn] at hfinished ⊢
  dsimp only at hfinished ⊢
  rcases exchangePacket_of_reliable hpolled (ne_cutOff_of_reply (ne_cutOff_of_bind hfinished))
    with ⟨earlier, time, p, later, limits, overlooked, hbrings, horigin, hrun⟩ |
      ⟨hnothing, f, w', hrun, hf⟩
  · rw [bind_done (reply_done hrun)]
    rcases Catalog.Basic.judge_cases version horigin with
      ⟨hgood, hjudge⟩ | ⟨hbad, reason, hjudge⟩
    · rw [hjudge]
      exact .inl ⟨earlier, time, p, later, limits, overlooked, hbrings, hgood, rfl⟩
    · rw [hjudge]
      exact .inr (.inl ⟨earlier, time, p, later, hbrings, hbad, reason, _, rfl⟩)
  · obtain ⟨f', hreply, hf', -⟩ := exists_reply_failed hrun hf
    rw [bind_failed hreply]
    exact .inr (.inr ⟨hnothing, f', w', rfl, hf'⟩)

section

variable {time : Nat} {rest : List (Nat × Arrival)} {stop : Moment}

/-- Expecting silence leaves the world as waiting for the first arrival does. -/
theorem snd_silence (i : Nat) (reason : String) (w : World) :
    (Expect.silence (receiveAnything i none) reason w).2 = (receiveArrival i none w).2 := by
  have hanything : (receiveAnything i none w).2 = (receiveArrival i none w).2 := by
    rw [receiveAnything, snd_bind_of_still]
    rintro ⟨address, arrival⟩ v
    cases arrival with
    | datagram data => rfl
    | socketError cause =>
      dsimp only
      cases cause.filter (·.kind.isA .interrupt) <;> rfl
  rw [← hanything, Expect.silence, snd_bind_of_still _ (attempt (receiveAnything i none)),
    snd_attempt]
  intro result v
  cases result with
  | ok a => rfl
  | error f =>
    dsimp only
    split <;> rfl

/-- A receive leaves the world as the wait for the first arrival does. -/
theorem snd_receiveArrival (i : Nat) (w : World) :
    (receiveArrival i none w).2 = (within (w.endpoint i).timeout (nextArrival i) w).2 := by
  refine (snd_bind_of_still ?_ (within (w.endpoint i).timeout (nextArrival i)) w :)
  intro taken v
  cases taken <;> rfl

/-- What comes first is received if it can be reached in time. -/
theorem receiveArrival_of_receivable {arrival : Arrival}
    (hpending : (w.endpoint i).pending = (time, arrival) :: rest)
    (htime : w.now.receivable (w.endpoint i).timeout time = true)
    (hfinished : (receiveArrival i none w).1 ≠ .cutOff) :
    ∃ w', receiveArrival i none w = (.done ((w.endpoint i).address, arrival), w') := by
  obtain ⟨limits, overlooked, hwithin⟩ :=
    within_nextArrival_of_receivable hpending htime (ne_cutOff_of_bind hfinished)
  exact ⟨_, bind_done hwithin _⟩

/-- A receive times out if what comes first cannot be reached in time, or if nothing comes. -/
theorem receiveArrival_of_not_receivable (hw : w.Underway stop)
    (hlate : ∀ x ∈ (w.endpoint i).pending.head?,
      w.now.receivable (w.endpoint i).timeout x.1 = false)
    (hends : EndsBefore stop (receiveArrival i none) w) :
    ∃ limits overlooked, receiveArrival i none w =
      (.failed (Endpoint.receiveTimeout (w.endpoint i).address (w.endpoint i).timeout),
        { w with now := w.now.receiveEnd (w.endpoint i).timeout, limits, overlooked }) := by
  rw [EndsBefore, snd_receiveArrival] at hends
  obtain ⟨limits, overlooked, hwithin⟩ := within_nextArrival_of_not_receivable hw hlate hends
  exact ⟨limits, overlooked, bind_done hwithin _⟩

/-- A receive that should time out does exactly if nothing can be received in time. What comes first
disturbs the test otherwise. -/
theorem silence_cases {reason : String} (hw : w.Underway stop)
    (hsystem : ∀ x ∈ (w.endpoint i).pending, x.2.FromSystem)
    (hends : EndsBefore stop (Expect.silence (receiveAnything i none) reason) w) :
    ((∀ x ∈ (w.endpoint i).pending.head?,
        w.now.receivable (w.endpoint i).timeout x.1 = false) ∧
      ∃ limits overlooked, Expect.silence (receiveAnything i none) reason w =
        (.done (), { w with
          now := w.now.receiveEnd (w.endpoint i).timeout, limits, overlooked })) ∨
    (∃ time arrival later, (w.endpoint i).pending = (time, arrival) :: later ∧
      w.now.receivable (w.endpoint i).timeout time = true ∧
      ∃ f w', Expect.silence (receiveAnything i none) reason w = (.failed f, w') ∧
        f.Disturbs arrival) := by
  rw [EndsBefore, snd_silence] at hends
  by_cases hlate : ∀ x ∈ (w.endpoint i).pending.head?,
      w.now.receivable (w.endpoint i).timeout x.1 = false
  · obtain ⟨limits, overlooked, hrun⟩ := receiveArrival_of_not_receivable hw hlate hends
    have hnothing : receiveAnything i none w = _ := bind_failed hrun _
    refine .inl ⟨hlate, limits, overlooked, ?_⟩
    rw [Expect.silence, bind_done (attempt_failed hnothing)]
    rfl
  · obtain ⟨time, arrival, later, hpending, htime⟩ : ∃ time arrival later,
        (w.endpoint i).pending = (time, arrival) :: later ∧
          w.now.receivable (w.endpoint i).timeout time = true := by
      cases hpending : (w.endpoint i).pending with
      | nil => simp [hpending] at hlate
      | cons first later => exact ⟨first.1, first.2, later, rfl, by simpa [hpending] using hlate⟩
    refine .inr ⟨time, arrival, later, hpending, htime, ?_⟩
    have hfinished : (receiveArrival i none w).1 ≠ .cutOff := fun hcut => by
      have hended := ((OnEndpoint.receive none).heeds.underway hw hends).1
      rw [hcut] at hended
      cases hended
    obtain ⟨w', hrun⟩ := receiveArrival_of_receivable hpending htime hfinished
    cases arrival with
    | datagram data =>
      have hanything : receiveAnything i none w = (.done (.bytes data), w') := bind_done hrun _
      rw [Expect.silence, bind_done (attempt_done hanything)]
      exact ⟨_, _, rfl, .datagram _ _⟩
    | socketError cause =>
      have hcause : Arrival.FromSystem (.socketError cause) :=
        hsystem (time, .socketError cause) (hpending ▸ List.mem_cons_self)
      obtain ⟨hkind, hordinary⟩ := Endpoint.receiveFault_of_system hcause (w.endpoint i).address
      have hanything : receiveAnything i none w =
          (.failed (Endpoint.receiveFault (w.endpoint i).address cause), w') := by
        rw [receiveAnything, bind_done hrun]
        dsimp only
        rw [filter_interrupt_of_system hcause]
        rfl
      rw [Expect.silence, bind_done (attempt_failed hanything)]
      dsimp only
      rw [hkind, if_neg (by decide)]
      exact ⟨_, _, rfl, .socketError hkind hordinary⟩

/-- **A body that expects silence is exact.** Something made of a poll goes out to a reliable
server, and a receive follows that ends before the case has to. It ends well, at the end of its
timeout, if nothing that reaches the endpoint can be received; what comes first disturbs the test
otherwise. -/
theorem hush_of_reliable {version : Int} {make : Packet → Bytes} {reason : String}
    (hw : w.Underway stop) (h : w.Reliable i)
    (hends : EndsBefore stop (hush version make reason i) w) :
    ((∀ x ∈ (w.answering i (make (w.pollIn version))).pending,
        w.now.receivable (w.endpoint i).timeout x.1 = false) ∧
      ∃ limits overlooked, hush version make reason i w =
        (.done (), { w.polled.leaving i (w.answering i (make (w.pollIn version)))
          (w.now.receiveEnd (w.endpoint i).timeout) with limits, overlooked })) ∨
    (∃ time arrival later,
      (w.answering i (make (w.pollIn version))).pending = (time, arrival) :: later ∧
      w.now.receivable (w.endpoint i).timeout time = true ∧
      ∃ f w', hush version make reason i w = (.failed f, w') ∧ f.Disturbs arrival) := by
  generalize hoctets : make (w.pollIn version) = octets
  obtain ⟨hsend, hreliable⟩ := h.send octets
  obtain ⟨v, hv⟩ : ∃ v, v = w.polled.setEndpoint i (w.answering i octets) := ⟨_, rfl⟩
  have hsent : sendDatagram i octets w.polled = (.done (), v) := by
    rw [sendDatagram, show (w.polled.endpoint i).send w.polled.now.time octets = _ from hsend, hv]
  have hrow : hush version make reason i w =
      Expect.silence (receiveAnything i none) reason v := by
    rw [← hoctets] at hsent
    exact bind_done hsent _
  have hendpoint : v.endpoint i = w.answering i octets := by
    rw [hv]
    exact World.endpoint_leaving (w := w.polled) h.there _ w.now
  have hnow : v.now = w.now := by
    rw [hv]
    rfl
  have hunderway : v.Underway stop := by
    rw [hv]
    exact ⟨hw.timely.of_eq rfl rfl, hw.only, hw.byTurns⟩
  have htimeout : (v.endpoint i).timeout = (w.endpoint i).timeout := by
    rw [hendpoint]
    exact Endpoint.timeout_send _ _ _
  have hsystem : ∀ x ∈ (v.endpoint i).pending, x.2.FromSystem := by
    rw [hendpoint]
    exact hreliable.pending
  rw [EndsBefore, hrow] at hends
  have hcases := silence_cases hunderway hsystem hends
  rw [htimeout, hnow, hendpoint] at hcases
  rw [hrow]
  rcases hcases with ⟨hlate, limits, overlooked, hrun⟩ | hdisturbed
  · refine .inl ⟨?_, limits, overlooked, ?_⟩
    · exact hreliable.ordered.not_receivable_of_head hlate
    · rw [hrun, hv]
      rfl
  · exact .inr hdisturbed

end

end Run

namespace TestCase

/-- What comes of a case on a fresh connection to the time server: it has an outcome, which is the
verdict on the connection. -/
def Comes (case : TestCase) (c : RunConfig) (limit : Binary64) (w : World)
    (verdict : World → Nat → Outcome → Prop) : Prop :=
  ∃ i w₁ outcome w', Run.connectPlain c (w.under limit) = (.done i, w₁) ∧
    Run.runCase c limit case w = (.done outcome, w') ∧ verdict w₁ i outcome

variable {c : RunConfig} {limit : Binary64} {w : World} {name summary : String}

/-- The verdict of a case that polls a reliable server in a version. -/
theorem comes_of_poll {version : Int} (hw : w.limits = [])
    (hserver : (w.udpScripts.headD {}).Reliable)
    (hends : (plain name summary (Catalog.Basic.poll version)).EndsWithin c limit w) :
    (plain name summary (Catalog.Basic.poll version)).Comes c limit w
      fun w₁ i outcome => w₁.JudgesPoll i version outcome := by
  have hbody (i : Nat) : Run.Built (Run.OrAmbient False (Run.OnEndpoint i))
      (Catalog.Basic.poll version i) :=
    .bind (.ambient (.drawing _)) fun request =>
      .bind (.reply (fun _ _ => trivial) (.own (.exchange _ _ _))) fun reply =>
        .ofExcept fun _ _ => trivial
  obtain ⟨i, w₁, hconnect, hreliable, -, -, hfinished, hjudged⟩ :=
    Run.exists_judges_plain hw hserver hbody hends
  have hverdict := Run.verdict_of_first hjudged hfinished
    (fun a : FirstAnswer Packet => w₁.Brings i (w₁.pollIn version).encode
      (Packet.echo? (w₁.pollIn version).transmitTimestamp) a.earlier a.time a.answer a.later)
    (fun a => a.answer.RepliesIn version)
    (fun a => (w₁.polled.taking i (w₁.pollIn version).encode a.earlier a.time a.later).Alive i)
    (fun a => .packet a.answer)
  specialize hverdict ?_ ?_
  · rintro ⟨earlier, time, p, later⟩ ⟨earlier', time', p', later'⟩ hbrings hbrings'
    obtain ⟨rfl, rfl, rfl, rfl⟩ := Endpoint.Brings.unique hbrings hbrings'
    rfl
  · rcases Run.poll_of_reliable hreliable (Run.ne_cutOff_of_bind hfinished) with
      ⟨earlier, time, p, later, limits, overlooked, hbrings, hgood, hrun⟩ |
      ⟨earlier, time, p, later, hbrings, hbad, reason, w₂, hrun⟩ | ⟨hnothing, f, w₂, hrun, hf⟩
    · have hpolled : w₁.polled.Reliable i := ⟨hreliable.there, hreliable.endpoint⟩
      exact .inl ⟨⟨earlier, time, p, later⟩, _, hbrings, hgood, hrun,
        Run.probe_of_reliable (hpolled.taking hbrings limits overlooked)⟩
    · exact .inr (.inl ⟨⟨earlier, time, p, later⟩, reason, w₂, hbrings, hbad, hrun⟩)
    · exact .inr (.inr ⟨fun a => hnothing a.earlier a.time a.answer a.later, f, w₂, hrun, hf⟩)
  obtain ⟨outcome, w', hcase, hpassed, hfailed⟩ := hverdict
  refine ⟨i, w₁, outcome, w', hconnect, hcase, hpassed.trans ⟨?_, ?_⟩, ?_⟩
  · rintro ⟨a, hbrings, hgood, halive⟩
    exact ⟨_, _, _, _, hbrings, hgood, halive⟩
  · rintro ⟨earlier, time, p, later, hbrings, hgood, halive⟩
    exact ⟨⟨earlier, time, p, later⟩, hbrings, hgood, halive⟩
  · exact fun earlier time p later => hfailed ⟨earlier, time, p, later⟩

/-- The verdict of a case that expects a reliable server not to answer something made of a poll. -/
theorem comes_of_silence (make : Packet → Bytes) {version : Int} {reason : String}
    (hw : w.limits = []) (hserver : (w.udpScripts.headD {}).Reliable)
    (hends : (plain name summary (Run.hush version make reason)).EndsWithin c limit w) :
    (plain name summary (Run.hush version make reason)).Comes c limit w
      fun w₁ i outcome => w₁.JudgesSilence i (make (w₁.pollIn version)) outcome := by
  have hbody (i : Nat) : Run.Built (Run.OrAmbient False (Run.OnEndpoint i))
      (Run.hush version make reason i) :=
    .bind (.ambient (.drawing _)) fun request =>
      .bind (.own (.send _)) fun _ => .silence (fun _ _ => trivial) (.own (.anything none)) _
  obtain ⟨i, w₁, hconnect, hreliable, hunderway, hearly, hfinished, hjudged⟩ :=
    Run.exists_judges_plain hw hserver hbody hends
  have hhushed : Run.EndsBefore (w.now.afterTimeout limit) (Run.hush version make reason i) w₁ :=
    hearly.first ((hbody i).onPlain.heeds fun _ _ h => h.heeds)
      (fun _ => (Run.built_probe (fun _ _ => trivial) i).onPlain.heeds fun _ _ h => h.heeds)
      hunderway.timely
  rcases Run.hush_of_reliable hunderway hreliable hhushed with
    ⟨hquiet, limits, overlooked, hrun⟩ |
    ⟨time, arrival, later, hpending, htime, f, w₂, hrun, hdisturbs⟩
  · have hpolled : w₁.polled.Reliable i := ⟨hreliable.there, hreliable.endpoint⟩
    obtain ⟨outcome, w', hcase, hpasses⟩ := Run.verdict_of_done hjudged hrun
      (Run.probe_of_reliable (hpolled.leaving (hreliable.send _).2 _ limits overlooked)
        (Run.ne_cutOff_of_done hrun hfinished))
    refine ⟨i, w₁, outcome, w', hconnect, hcase, hpasses.trans ?_, ?_, ?_⟩
    · exact (and_iff_right hquiet).symm
    · intro time data later hpending htime
      rw [hquiet (time, .datagram data) (hpending ▸ List.mem_cons_self)] at htime
      cases htime
    · intro time cause later hpending htime
      rw [hquiet (time, .socketError cause) (hpending ▸ List.mem_cons_self)] at htime
      cases htime
  · obtain ⟨outcome, w', hcase, hno, hjudges⟩ :=
      Run.verdict_of_failed hjudged hrun hdisturbs.ordinary
    refine ⟨i, w₁, outcome, w', hconnect, hcase,
      iff_of_false hno fun ⟨hquiet, _⟩ => ?_, ?_, ?_⟩
    · have hnone := hquiet (time, arrival) (hpending ▸ List.mem_cons_self)
      rw [htime] at hnone
      cases hnone
    · rintro time' data later' hpending' -
      cases hpending.symm.trans hpending'
      cases hdisturbs
      exact ⟨hjudges.failed.mpr ⟨_, rfl, rfl⟩, hjudges.detail _ rfl rfl⟩
    · rintro time' cause later' hpending' -
      cases hpending.symm.trans hpending'
      cases hdisturbs with
      | socketError hkind hordinary =>
        refine hjudges.errored.mpr ⟨nofun, ?_⟩
        rintro _ ⟨⟩
        rw [hkind]
        exact ⟨nofun, nofun⟩

end TestCase

namespace Run

open Catalog

/-- **The verdicts of plain cases are exact.** Let the server be one under which every send
succeeds. A case that polls it in version 4 or 3 and ends within its timeout passes exactly if the
first datagram that echoes the timestamp of the poll, in time and before any error of the socket, is
a server's packet of that version that was sent later than the poll was received, and the server is
alive behind it; if it is another packet the case fails and shows it. A case that expects no answer
to a poll of version 5, or to one with an overlong field, passes exactly if nothing that reaches the
endpoint from its opening on can be received until the timeout after the send, and the server is
alive then; if the first thing received is a datagram, the case fails and shows its octets, and if
it is an error of the socket, the case is an error. -/
theorem plain_verdicts_exact (c : RunConfig) (limit : Binary64) {w : World} (hw : w.limits = [])
    (hserver : (w.udpScripts.headD {}).Reliable) :
    (Basic.respondsToVersion4.EndsWithin c limit w →
      Basic.respondsToVersion4.Comes c limit w fun w₁ i outcome => w₁.JudgesPoll i 4 outcome) ∧
    (Basic.respondsToVersion3.EndsWithin c limit w →
      Basic.respondsToVersion3.Comes c limit w fun w₁ i outcome => w₁.JudgesPoll i 3 outcome) ∧
    (Basic.ignoresVersion5.EndsWithin c limit w →
      Basic.ignoresVersion5.Comes c limit w fun w₁ i outcome =>
        w₁.JudgesSilence i (w₁.pollIn 5).encode outcome) ∧
    (Extensions.invalidExtensionLengthIsIgnored.EndsWithin c limit w →
      Extensions.invalidExtensionLengthIsIgnored.Comes c limit w fun w₁ i outcome =>
        w₁.JudgesSilence i (Extensions.overlong w₁.poll).encode outcome) :=
  ⟨TestCase.comes_of_poll hw hserver, TestCase.comes_of_poll hw hserver,
    TestCase.comes_of_silence Packet.encode hw hserver,
    TestCase.comes_of_silence (fun p => (Extensions.overlong p).encode) hw hserver⟩

/-- A server that sends three octets which hold no packet in front of each good answer. A poll
passes all the same, and a case that expects silence fails and shows the octets. -/
theorem plain_verdicts_exact_chatty :
    let c : RunConfig :=
      { (default : RunConfig) with target := "192.0.2.1", timeout := Binary64.ofMillis 100 }
    let limit := Binary64.ofMillis 1000
    let answers (drawn : Nat) : SendScript := .deliver
      [{ arrival := .datagram [1, 2, 3] },
        { arrival := .datagram (Packet.encode
          { mode := Mode.server.code, stratum := 2,
            originTimestamp := ({ draws := drawn } : Entropy).drawWord.1,
            receiveTimestamp := 1000, transmitTimestamp := 1001 }) }]
    let w : World := { udpScripts := [{ sends := [answers 0, answers 1] }] }
    w.limits = [] ∧ (w.udpScripts.headD {}).Reliable ∧
      (Basic.respondsToVersion4.EndsWithin c limit w ∧
        Basic.respondsToVersion4.Comes c limit w fun w₁ i outcome =>
          outcome = .passed ∧ w₁.JudgesPoll i 4 outcome) ∧
      Basic.ignoresVersion5.EndsWithin c limit w ∧
      Basic.ignoresVersion5.Comes c limit w fun w₁ i outcome =>
        outcome.kind = .failed ∧ outcome.detail = some "raw: 010203" ∧
          w₁.JudgesSilence i (w₁.pollIn 5).encode outcome := by
  intro c limit answers w
  obtain ⟨hserver, hends, hpassed, hends', hfailed⟩ : (w.udpScripts.headD {}).Reliable ∧
      Basic.respondsToVersion4.EndsWithin c limit w ∧
      (∀ outcome ∈ (runCase c limit Basic.respondsToVersion4 w).1.result?, outcome = .passed) ∧
      Basic.ignoresVersion5.EndsWithin c limit w ∧
      ∀ outcome ∈ (runCase c limit Basic.ignoresVersion5 w).1.result?,
        outcome.kind = .failed ∧ outcome.detail = some "raw: 010203" := by
    decide +kernel +revert
  have hverdicts := plain_verdicts_exact c limit (w := w) rfl hserver
  refine ⟨rfl, hserver, ⟨hends, ?_⟩, hends', ?_⟩
  · obtain ⟨i, w₁, outcome, w', hconnect, hrun, hjudges⟩ := hverdicts.1 hends
    rw [hrun] at hpassed
    exact ⟨i, w₁, outcome, w', hconnect, hrun, hpassed outcome rfl, hjudges⟩
  · obtain ⟨i, w₁, outcome, w', hconnect, hrun, hjudges⟩ := hverdicts.2.2.1 hends'
    rw [hrun] at hfailed
    obtain ⟨hkind, hdetail⟩ := hfailed outcome rfl
    exact ⟨i, w₁, outcome, w', hconnect, hrun, hkind, hdetail, hjudges⟩

end Run

end TimeProbe

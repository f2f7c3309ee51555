import TimeProbe.Proofs.CookieConservation
import TimeProbe.Proofs.ExchangeOutcome
import TimeProbe.Proofs.HeededSteps
import TimeProbe.Proofs.ReplyCorrelation

/-!
# What a poll that was answered shows

An exchange has a result only if its datagram went out on the endpoint and, of what was pending
then, a datagram was taken that was accepted. So a poll behind a test that was answered well shows a
server that is alive: the datagram taken is a server's packet of version 4 that echoes the timestamp
just drawn, and under protection the identifier just drawn as well, verified with the key of the
session.
-/

namespace TimeProbe

namespace World

/-- Octets go out on an endpoint, and of what is pending there then a datagram is taken, at the
moment at which everything up to it is reached. -/
def Receives (w : World) (i : Nat) (sent received : Bytes) (m : Moment) : Prop :=
  ∃ e earlier time later, (w.endpoint i).send w.now.time sent = (none, e) ∧
    e.pending = earlier ++ (time, .datagram received) :: later ∧
    m = w.now.reachingAll (earlier ++ [(time, .datagram received)])

/-- After a send there is pending what the send made so, also where there is no such endpoint. -/
theorem pending_setEndpoint_send {w : World} {i : Nat} {data : Bytes} {e : Endpoint}
    (hsend : (w.endpoint i).send w.now.time data = (none, e)) :
    ((w.setEndpoint i e).endpoint i).pending = e.pending := by
  by_cases hi : i < w.endpoints.length
  · simp [setEndpoint, endpoint, hi]
  · have hnone : w.endpoint i = default := by
      simp [endpoint, Nat.le_of_not_lt hi]
    have hsame : (w.setEndpoint i e).endpoint i = default := by
      simp [setEndpoint, endpoint, Nat.le_of_not_lt hi]
    rw [hnone] at hsend
    rw [hsame]
    cases hsend
    rfl

end World

section

variable {α : Type} {accept : Bytes → Except ReplyError (Option α)} {stop now : Moment}
  {arrivals : List (Nat × Arrival)} {last : Option (ReplyError × Bytes)} {a : α}

/-- A datagram that is accepted is taken from arrivals, at the moment at which everything up to it
is reached. -/
def Wait.Takes (wait : Wait α) (accept : Bytes → Except ReplyError (Option α)) (now : Moment)
    (arrivals : List (Nat × Arrival)) (a : α) : Prop :=
  ∃ earlier time data later, arrivals = earlier ++ (time, .datagram data) :: later ∧
    accept data = .ok (some a) ∧
    wait.moment = now.reachingAll (earlier ++ [(time, .datagram data)])

/-- A wait is answered only by a datagram that it takes. -/
theorem takes_of_awaitReply_answered
    (h : (awaitReply accept stop arrivals now last).verdict = .answered a) :
    (awaitReply accept stop arrivals now last).Takes accept now arrivals a := by
  induction arrivals generalizing now last with
  | nil => cases h
  | cons first rest ih =>
    obtain ⟨time, arrival⟩ := first
    by_cases htime : (now.reaching time).before stop = true
    · cases hdecisive : arrival.isDecisive accept with
      | false =>
        rw [awaitReply_passed htime hdecisive] at h ⊢
        obtain ⟨earlier, time', data, later, rfl, haccept, hmoment⟩ := ih h
        exact ⟨(time, arrival) :: earlier, time', data, later, rfl, haccept, hmoment⟩
      | true =>
        rw [awaitReply.eq_def] at h ⊢
        dsimp only at h ⊢
        rw [if_pos htime] at h ⊢
        cases arrival with
        | socketError cause =>
          dsimp only at h
          split at h <;> cases h
        | datagram data =>
          rw [Arrival.isDecisive] at hdecisive
          split at hdecisive
          next b hvalue =>
            simp only [hvalue] at h ⊢
            cases h
            exact ⟨[], time, data, rest, rfl, hvalue, rfl⟩
          next => cases hdecisive
          next => cases hdecisive
    · rw [awaitReply.eq_def] at h
      dsimp only at h
      rw [if_neg htime] at h
      cases h

end

namespace Run

variable {α : Type} {i : Nat} {data : Bytes} {accept : Bytes → Except ReplyError (Option α)}
  {timeout : Option Binary64} {w w' : World} {a : α}

/-- An exchange has a result only by a datagram that it receives and accepts. -/
theorem exists_of_exchangeRaw_done (h : exchangeRaw i data accept timeout w = (.done a, w')) :
    ∃ octets, w.Receives i data octets w'.now ∧ accept octets = .ok (some a) := by
  rcases hsend : (w.endpoint i).send w.now.time data with ⟨fault, e⟩
  cases fault with
  | some cause =>
    have hsent : sendDatagram i data w =
        (.failed (Endpoint.sendFault (w.endpoint i).address data cause), w.setEndpoint i e) := by
      rw [sendDatagram, hsend]
    simp only [exchangeRaw, Bind.bind, Run.bind, read, hsent] at h
    cases h
  | none =>
    have hsent : sendDatagram i data w = (.done (), w.setEndpoint i e) := by
      rw [sendDatagram, hsend]
    simp only [exchangeRaw, Bind.bind, Run.bind, read, hsent] at h
    rw [World.pending_setEndpoint_send hsend] at h
    generalize hfound : awaitAmid accept _ (w.setEndpoint i e).limits e.pending
      (w.setEndpoint i e).now none = found at h
    obtain ⟨n, wait⟩ := found
    cases hverdict : wait.verdict with
    | answered b =>
      dsimp only at h
      rw [hverdict] at h
      cases h
      have hsame := awaitAmid_eq_awaitReply accept (w.setEndpoint i e).limits e.pending
        (w.setEndpoint i e).now none fun hexpired => by
          rw [hfound, hverdict] at hexpired
          cases hexpired
      rw [hfound] at hsame
      dsimp only at hsame
      obtain ⟨earlier, time, octets, later, hpending, haccept, hmoment⟩ :=
        takes_of_awaitReply_answered (by rw [← hsame]; exact hverdict)
      rw [← hsame] at hmoment
      exact ⟨octets, ⟨e, earlier, time, later, hsend, hpending, hmoment⟩, haccept⟩
    | broken cause =>
      dsimp only at h
      rw [hverdict] at h
      cases h
    | abandoned last =>
      dsimp only at h
      rw [hverdict] at h
      cases h
    | expired last =>
      dsimp only at h
      rw [hverdict] at h
      dsimp only at h
      split at h <;> cases h

end Run

/-- A server's reply of version 4 that echoes the timestamp of a poll. -/
structure Packet.Answers (p poll : Packet) : Prop where
  origin : p.originTimestamp = poll.transmitTimestamp
  mode : p.mode = Mode.server.code
  version : p.version = 4

/-- A server's reply that echoes a poll answers it. -/
theorem Packet.answers_of_isServerReply {p poll : Packet}
    (horigin : p.originTimestamp = poll.transmitTimestamp) (hserver : p.isServerReply = true) :
    p.Answers poll := by
  rw [isServerReply, Bool.and_eq_true, beq_iff_eq, beq_iff_eq] at hserver
  exact ⟨horigin, hserver.1, hserver.2⟩

/-- A packet is accepted only if the datagram holds it and it echoes the timestamp. -/
theorem Run.of_acceptPacket {origin : Int} {data : Bytes} {p : Packet}
    (h : acceptPacket ⟨origin, none⟩ data = .ok (some p)) :
    Packet.decode data = .ok p ∧ p.originTimestamp = origin := by
  cases hdecode : Packet.decode data with
  | error e =>
    rw [acceptPacket, hdecode] at h
    cases h
  | ok q =>
    rw [acceptPacket_of_decode hdecode] at h
    by_cases hmatch : Identifier.accepts ⟨origin, none⟩ q = true
    · rw [if_pos hmatch] at h
      cases h
      exact ⟨rfl, Identifier.accepts_none_iff.mp hmatch⟩
    · rw [if_neg hmatch] at h
      cases h

/-- A reply that was opened holds the packet of its datagram. -/
theorem OpenedReply.decode_of_ofDatagram {data : Bytes} {cipher : Aead.Cipher} {r : OpenedReply}
    (h : ofDatagram data cipher = .ok r) : Packet.decode data = .ok r.packet := by
  rw [ofDatagram] at h
  cases hdecode : Packet.decode data with
  | error e =>
    rw [hdecode] at h
    cases h
  | ok packet =>
    simp only [hdecode] at h
    split at h
    next =>
      cases h
      rfl
    next offset f hfound =>
      cases hfields : openField data cipher offset f with
      | error e =>
        rw [hfields] at h
        cases h
      | ok fields =>
        rw [hfields] at h
        cases h
        rfl

/-- A protected reply is accepted only if its datagram holds it and it echoes the timestamp and the
identifier. -/
theorem NtsSession.of_accept {s : NtsSession} {origin : Int} {uid data : Bytes} {reply : NtsReply}
    (h : s.accept ⟨origin, some uid⟩ data = .ok (some reply)) :
    Packet.decode data = .ok reply.opened.packet ∧ reply.opened.packet.originTimestamp = origin ∧
      Echoes uid reply.opened.packet.extensionFields := by
  rw [accept] at h
  cases hopened : OpenedReply.ofDatagram data s.keys.serverToClient with
  | error e =>
    rw [hopened] at h
    cases h
  | ok opened =>
    simp only [hopened] at h
    split at h
    next hecho =>
      cases h
      exact ⟨OpenedReply.decode_of_ofDatagram hopened, Identifier.accepts_iff.mp hecho⟩
    next => cases h

/-- What an authenticated reply covers was verified, and it has the timestamp of the request. -/
theorem NtsSession.AcceptsAuthenticated.exists_verifies {s : NtsSession} {origin : Int}
    {uid data : Bytes} (h : s.AcceptsAuthenticated ⟨origin, some uid⟩ data) :
    ∃ parts : SealedParts, parts.WellFormed ∧ data = parts.data ∧
      parts.Verifies s.keys.serverToClient origin := by
  obtain ⟨parts, hparts, rfl⟩ := SealedParts.exists_of_acceptsAuthenticated h
  exact ⟨parts, hparts, rfl, (hparts.acceptsAuthenticated_iff.mp h).1⟩

namespace World

/-- The poll of version 4 that is drawn next. -/
def poll (w : World) : Packet := (Packet.freshPoll w.entropy).1.1

/-- The world after that poll was drawn. -/
def polled (w : World) : World := { w with entropy := (Packet.freshPoll w.entropy).2 }

/-- A poll just drawn is of version 4 and comes from a client, and its timestamp is the number drawn
next. -/
def DrawsPoll (w : World) : Prop :=
  w.poll.version = 4 ∧ w.poll.mode = Mode.client.code ∧
    w.poll.transmitTimestamp = w.entropy.drawWord.1 ∧
    w.polled = { w with entropy := w.entropy.drawWord.2 }

/-- Every world draws such a poll. -/
theorem drawsPoll (w : World) : w.DrawsPoll := ⟨rfl, rfl, rfl, rfl⟩

/-- The poll drawn next goes out on an endpoint, and a datagram that answers it is taken there. -/
structure PlainAnswer (w : World) (i : Nat) (octets : Bytes) (m : Moment) : Prop where
  drawn : w.DrawsPoll
  received : w.Receives i w.poll.encode octets m
  answers : ∃ p, Packet.decode octets = .ok p ∧ p.Answers w.poll

/-- The poll drawn next goes out under protection on the endpoint of a session, with an identifier
that is drawn for it, and a datagram is taken there that answers it with this identifier and is
verified with the key of the session. -/
structure SealedAnswer (w : World) (i endpoint : Nat) (s : NtsSession) (uid octets : Bytes)
    (m : Moment) : Prop where
  drawn : w.DrawsPoll
  session : w.session? i = some (endpoint, s)
  fresh : uid.length = uidLength
  received : ∃ request v, Run.protectPacket i w.poll 0 none w.polled = (.done request, v) ∧
    request.identifier = ⟨w.poll.transmitTimestamp, some uid⟩ ∧
    v.Receives endpoint request.data octets m
  answers : ∃ p, Packet.decode octets = .ok p ∧ p.Answers w.poll ∧ Echoes uid p.extensionFields
  verified : ∃ parts : SealedParts, parts.WellFormed ∧ octets = parts.data ∧
    parts.Verifies s.keys.serverToClient w.poll.transmitTimestamp

end World

namespace Run

variable {i : Nat} {w w' : World}

/-- Drawing a poll. -/
theorem drawing_poll (w : World) :
    drawing (fun e => Packet.freshPoll e) w =
      (.done (w.poll, ⟨w.poll.transmitTimestamp, none⟩), w.polled) := rfl

/-- A poll behind a plain test ends well only if it is answered. -/
theorem exists_of_probe_done (h : probe i w = (.done (), w')) :
    ∃ octets, w.PlainAnswer i octets w'.now := by
  rw [probe, bind_done (drawing_poll w)] at h
  rcases exists_of_attempt_bind_done h with ⟨p, w₁, hrun, h⟩ | ⟨f, w₁, -, h⟩
  · obtain ⟨octets, hreceived, haccept⟩ := exists_of_exchangeRaw_done hrun
    obtain ⟨hdecode, horigin⟩ := of_acceptPacket haccept
    dsimp only at h
    split at h
    next hserver =>
      cases h
      exact ⟨octets, w.drawsPoll, hreceived, p, hdecode,
        Packet.answers_of_isServerReply horigin hserver⟩
    next => cases h
  · cases h

/-- A poll behind a protected test ends well only if it is answered under the session of the
connection. -/
theorem exists_of_probeProtected_done (h : probeProtected i w = (.done (), w')) :
    ∃ endpoint s uid octets, w.SealedAnswer i endpoint s uid octets w'.now := by
  rw [probeProtected, bind_done (drawing_poll w)] at h
  rcases exists_of_attempt_bind_done h with ⟨reply, w₁, hrun, h⟩ | ⟨f, w₁, -, h⟩
  · obtain ⟨request, v, hprotect, hrun⟩ := exists_of_bind_done hrun
    obtain ⟨endpoint, s, pool, e, uid, hsession, rfl, hidentifier, huid⟩ :=
      exists_of_protectPacket_done hprotect
    have hpooled : ({ w.polled.setPool i pool with entropy := e } : World).session? i =
        some (endpoint, { s with pool }) := World.session?_setPool hsession pool
    obtain ⟨found, v', hfound, hrun⟩ := exists_of_bind_done hrun
    rw [session_eq hpooled] at hfound
    cases hfound
    obtain ⟨received, w₂, hexchange, hrun⟩ := exists_of_bind_done hrun
    obtain ⟨octets, hreceived, haccept⟩ := exists_of_exchangeRaw_done hexchange
    rw [hidentifier] at haccept
    obtain ⟨hdecode, horigin, hechoes⟩ := NtsSession.of_accept haccept
    obtain ⟨rfl, hnow⟩ : received = reply ∧ w₁.now = w₂.now := by
      dsimp only at hrun
      split at hrun
      · cases hrun
        refine ⟨rfl, ?_⟩
        obtain ⟨sessions, hset⟩ := w₂.exists_setPool i (pool.add reply.opened.newCookies)
        exact (congrArg World.now hset :)
      · cases hrun
        exact ⟨rfl, rfl⟩
    dsimp only at h
    split at h
    next hserver =>
      cases h
      rw [Bool.and_eq_true] at hserver
      obtain ⟨hauth, hserver⟩ := hserver
      rw [hnow]
      exact ⟨endpoint, s, uid, octets, w.drawsPoll, hsession, huid,
        ⟨request, _, hprotect, hidentifier, hreceived⟩,
        ⟨_, hdecode, Packet.answers_of_isServerReply horigin hserver, hechoes⟩,
        NtsSession.AcceptsAuthenticated.exists_verifies ⟨received, haccept, hauth⟩⟩
    next => cases h
  · cases h

end Run

end TimeProbe

import TimeProbe.Proofs.PlainVerdicts

/-!
# Answers on a protected connection

The answer to a protected request is what the first datagram opens to that opens under the key of
the session and echoes the request. On a reliable server a protected exchange that is not cut off
ends with the answer that comes in time, and the cookies of an authenticated one join the pool; the
poll behind a protected test ends well exactly if it gets an authenticated answer from a server of
version 4.
-/

namespace TimeProbe

/-- Whether an identifier stands among fields can be seen from them. -/
instance (uid : Bytes) (fs : List ExtensionField) : Decidable (Echoes uid fs) :=
  inferInstanceAs (Decidable (∃ f ∈ fs, _))

/-- A packet echoes the timestamp and, where there is one, the unique identifier of a request. -/
def Identifier.EchoedBy (id : Identifier) (p : Packet) : Prop :=
  p.originTimestamp = id.origin ∧ ∀ uid ∈ id.uid, Echoes uid p.extensionFields

/-- Whether a packet echoes an identifier can be seen from it. -/
instance (id : Identifier) (p : Packet) : Decidable (id.EchoedBy p) :=
  inferInstanceAs (Decidable (_ ∧ _))

/-- Packets that echo an identifier are those that are accepted for it. -/
theorem Identifier.accepts_eq_true_iff {id : Identifier} {p : Packet} :
    id.accepts p = true ↔ id.EchoedBy p := by
  obtain ⟨origin, uid⟩ := id
  cases uid with
  | none => simp [EchoedBy, accepts_none_iff]
  | some uid => simp [EchoedBy, accepts_iff]

/-- The answer that a datagram holds to the request of an identifier: what it opens to under the key
of the server, if its packet echoes the request. -/
def KeyPair.answer? (keys : KeyPair) (id : Identifier) (data : Bytes) : Option NtsReply :=
  match OpenedReply.ofDatagram data keys.serverToClient with
  | .ok opened => if id.EchoedBy opened.packet then some ⟨opened, id⟩ else none
  | .error _ => none

/-- A session accepts the datagrams that hold an answer. -/
theorem NtsSession.accept_eq_some_iff (s : NtsSession) (id : Identifier) (data : Bytes)
    (reply : NtsReply) :
    s.accept id data = .ok (some reply) ↔ s.keys.answer? id data = some reply := by
  rw [accept, KeyPair.answer?]
  cases OpenedReply.ofDatagram data s.keys.serverToClient with
  | error e => exact iff_of_false (fun h => by cases h) (fun h => by cases h)
  | ok opened =>
    dsimp only
    by_cases hecho : id.EchoedBy opened.packet
    · rw [if_pos hecho, if_pos (Identifier.accepts_eq_true_iff.mpr hecho), Except.ok.injEq]
    · rw [if_neg hecho, if_neg (mt Identifier.accepts_eq_true_iff.mp hecho), Except.ok.injEq]

/-- An answer opens and echoes its request. -/
theorem KeyPair.of_answer? {keys : KeyPair} {id : Identifier} {data : Bytes} {reply : NtsReply}
    (h : keys.answer? id data = some reply) :
    OpenedReply.ofDatagram data keys.serverToClient = .ok reply.opened ∧
      id.EchoedBy reply.opened.packet := by
  rw [answer?] at h
  split at h
  next opened hopened =>
    split at h
    next hecho =>
      cases h
      exact ⟨hopened, hecho⟩
    next => cases h
  next => cases h

namespace World

variable {w v : World} {i endpoint : Nat} {s : NtsSession}

/-- An endpoint is as reliable as it was where the endpoints stay. -/
theorem Reliable.of_endpoints (h : w.Reliable endpoint) (hv : v.endpoints = w.endpoints) :
    v.Reliable endpoint := by
  refine ⟨hv ▸ h.there, ?_⟩
  rw [World.endpoint, hv]
  exact h.endpoint

/-- The world with cookies put behind those of a session's pool. -/
def addCookies (w : World) (i : Nat) (cookies : List Bytes) : World :=
  match w.session? i with
  | some (_, s) => w.setPool i (s.pool.add cookies)
  | none => w

/-- Cookies join the pool of a session that is there. -/
theorem addCookies_eq (hsession : w.session? i = some (endpoint, s)) (cookies : List Bytes) :
    w.addCookies i cookies = w.setPool i (s.pool.add cookies) := by
  rw [addCookies, hsession]

/-- Limits are no matter of a pool. -/
theorem setPool_withLimits (w : World) (i : Nat) (pool : CookiePool)
    (limits overlooked : List Moment) :
    ({ w with limits, overlooked } : World).setPool i pool =
      { w.setPool i pool with limits, overlooked } := by
  rw [setPool, setPool]
  dsimp only
  split <;> rfl

end World

/-- No cookies leave a pool as it is. -/
theorem CookiePool.add_nil (pool : CookiePool) : pool.add [] = pool := by
  rw [add, List.append_nil]

/-- A request that was made under protection on a connection, with the endpoint and the session of
the connection and the world after. -/
structure SealedRequest (w : World) (i : Nat) (packet : Packet) (placeholders : Nat)
    (cookie : Option Bytes) extends Protected where
  endpoint : Nat
  session : NtsSession
  after : World
  found : w.session? i = some (endpoint, session)
  made : Run.protectPacket i packet placeholders cookie w = (.done toProtected, after)

namespace SealedRequest

variable {w : World} {i : Nat} {packet : Packet} {placeholders : Nat} {cookie : Option Bytes}

/-- There is one way to make a request. -/
instance : Subsingleton (SealedRequest w i packet placeholders cookie) where
  allEq r r' := by
    obtain ⟨request, endpoint, session, after, hfound, hmade⟩ := r
    obtain ⟨request', endpoint', session', after', hfound', hmade'⟩ := r'
    cases hfound.symm.trans hfound'
    cases hmade.symm.trans hmade'
    rfl

/-- Where a session has a cookie for a request, the request is made with that cookie. -/
theorem exists_of_chooseCookie {endpoint : Nat} {s : NtsSession} {c : Bytes} {pool : CookiePool}
    (packet : Packet) (placeholders : Nat) (hsession : w.session? i = some (endpoint, s))
    (hchoose : s.chooseCookie cookie = .ok (c, pool)) :
    ∃ r : SealedRequest w i packet placeholders cookie, r.endpoint = endpoint ∧ r.session = s ∧
      (Protection.apply { cookie := c, placeholders } packet s.keys.clientToServer w.entropy).1 =
        .ok (r.data, r.identifier) ∧
      ∃ e, r.after = { w.setPool i pool with entropy := e } := by
  obtain ⟨request, uid, e, hmade, happly, -, -⟩ :=
    Run.protectPacket_eq_done packet placeholders hsession hchoose
  exact ⟨⟨request, endpoint, s, _, hsession, hmade⟩, rfl, rfl, happly, e, rfl⟩

variable (r : SealedRequest w i packet placeholders cookie)

/-- The endpoint with what the request brings about. -/
def answering : Endpoint := r.after.answering r.endpoint r.data

/-- The world at a later moment, with these arrivals left at the endpoint. -/
def leaving (left : List (Nat × Arrival)) (m : Moment) : World :=
  r.after.leaving r.endpoint { r.answering with pending := left } m

/-- The first answer to the request that comes, in time and before any error of the socket. -/
def Brings (earlier : List (Nat × Arrival)) (time : Nat) (reply : NtsReply)
    (later : List (Nat × Arrival)) : Prop :=
  r.after.Brings r.endpoint r.data (r.session.keys.answer? r.identifier) earlier time reply later

/-- What comes in time is nothing but packets that echo something else. -/
def Ignored : Prop :=
  ∀ x ∈ r.answering.pending, x.1 < r.after.closingAt r.endpoint →
    x.2.Unrelated (r.session.accept r.identifier)

/-- The world after the first answer was taken: the cookies of an authenticated one join the
pool. -/
def answered (earlier : List (Nat × Arrival)) (time : Nat) (reply : NtsReply)
    (later : List (Nat × Arrival)) : World :=
  let taken := r.leaving later ((r.after.now.reachingAll earlier).reaching time)
  if reply.opened.authenticated then taken.addCookies i reply.opened.newCookies else taken

/-- The world after the timeout passed: what comes too late stays. -/
def timedOut : World :=
  r.leaving (r.answering.pending.dropWhile (·.1 < r.after.closingAt r.endpoint))
    (r.after.now.deadline (r.after.endpoint r.endpoint).timeout)

variable {r}

/-- A connection brings only one first answer. -/
theorem Brings.unique {earlier earlier' later later' : List (Nat × Arrival)} {time time' : Nat}
    {reply reply' : NtsReply} (h : r.Brings earlier time reply later)
    (h' : r.Brings earlier' time' reply' later') :
    earlier = earlier' ∧ time = time' ∧ reply = reply' ∧ later = later' :=
  Endpoint.Brings.unique h h'

/-- An answer echoes the timestamp of the packet. -/
theorem Brings.origin {earlier later : List (Nat × Arrival)} {time : Nat} {reply : NtsReply}
    (h : r.Brings earlier time reply later) :
    reply.opened.packet.originTimestamp = packet.transmitTimestamp := by
  obtain ⟨octets, -, hholds⟩ := h.arrives
  obtain ⟨uid, hidentifier, -⟩ := Run.exists_identifier_of_protectPacket r.made
  rw [(KeyPair.of_answer? hholds).2.1, hidentifier]

/-- Where an answer comes, not everything is ignored. -/
theorem Brings.not_ignored {earlier later : List (Nat × Arrival)} {time : Nat} {reply : NtsReply}
    (h : r.Brings earlier time reply later) : ¬ r.Ignored := by
  intro hignored
  obtain ⟨octets, hpending, hholds⟩ := h.arrives
  have hmem : (time, Arrival.datagram octets) ∈ r.answering.pending := by
    rw [answering, hpending]
    exact List.mem_append_right _ List.mem_cons_self
  rw [← r.session.accept_eq_some_iff] at hholds
  cases hignored _ hmem h.inTime with
  | intro hnone => cases hholds.symm.trans hnone

variable (r)

/-- Making a request takes no time and leaves the endpoints, and the session has the pool that was
left. -/
theorem exists_after : ∃ pool, r.after.session? i = some (r.endpoint, { r.session with pool }) ∧
    r.after.endpoints = w.endpoints ∧ r.after.now = w.now := by
  obtain ⟨endpoint, s, pool, e, uid, hsession, hafter, -, -⟩ :=
    Run.exists_of_protectPacket_done r.made
  cases r.found.symm.trans hsession
  rw [hafter]
  exact ⟨pool, World.session?_setPool hsession pool,
    congrArg (·.endpoints) (World.setPool_eq hsession pool),
    congrArg (·.now) (World.setPool_eq hsession pool)⟩

/-- Making a request leaves a reliable endpoint reliable. -/
theorem reliable_after (h : w.Reliable r.endpoint) : r.after.Reliable r.endpoint := by
  obtain ⟨pool, -, hendpoints, -⟩ := r.exists_after
  exact h.of_endpoints hendpoints

/-- A reliable endpoint stays reliable when arrivals are taken. -/
theorem reliable_leaving (h : w.Reliable r.endpoint) {left : List (Nat × Arrival)}
    (hleft : left.Sublist r.answering.pending) (m : Moment) (limits overlooked : List Moment) :
    ({ r.leaving left m with limits, overlooked } : World).Reliable r.endpoint :=
  (r.reliable_after h).leaving (((r.reliable_after h).send r.data).2.left hleft) m limits overlooked

/-- At a reliable endpoint the request is all that is sent. -/
theorem sent_leaving (h : w.Reliable r.endpoint) (left : List (Nat × Arrival)) (m : Moment) :
    ((r.leaving left m).endpoint r.endpoint).sent = (w.endpoint r.endpoint).sent ++ [r.data] := by
  obtain ⟨pool, -, hendpoints, -⟩ := r.exists_after
  have hafter := r.reliable_after h
  rw [leaving, World.endpoint_leaving hafter.there]
  have hsame : r.after.endpoint r.endpoint = w.endpoint r.endpoint := by
    rw [World.endpoint, hendpoints, World.endpoint]
  exact (hafter.endpoint.sent_send _ _).trans (congrArg (·.sent ++ [r.data]) hsame)

/-- Taking an answer changes no endpoint any further, and the cookies that it brings stand behind
those of the pool. -/
theorem exists_answered (earlier : List (Nat × Arrival)) (time : Nat) (reply : NtsReply)
    (later : List (Nat × Arrival)) {pool : CookiePool}
    (hpool : r.after.session? i = some (r.endpoint, { r.session with pool })) :
    (r.answered earlier time reply later).endpoints =
        (r.leaving later ((r.after.now.reachingAll earlier).reaching time)).endpoints ∧
      ∃ more, (r.answered earlier time reply later).session? i =
        some (r.endpoint, { r.session with pool := pool.add more }) := by
  have htaken : (r.leaving later ((r.after.now.reachingAll earlier).reaching time)).session? i =
      some (r.endpoint, { r.session with pool }) := hpool
  rw [answered]
  dsimp only
  rw [World.addCookies_eq htaken]
  cases reply.opened.authenticated with
  | true =>
    exact ⟨congrArg (·.endpoints) (World.setPool_eq htaken _), _,
      World.session?_setPool htaken (pool.add reply.opened.newCookies)⟩
  | false =>
    refine ⟨rfl, [], ?_⟩
    rw [pool.add_nil]
    exact htaken

/-- A reliable endpoint stays reliable when the first answer is taken, and its session stays. -/
theorem reliable_answered (h : w.Reliable r.endpoint) {earlier later : List (Nat × Arrival)}
    {time : Nat} {reply : NtsReply} (hbrings : r.Brings earlier time reply later)
    (limits overlooked : List Moment) :
    let answered : World := { r.answered earlier time reply later with limits, overlooked }
    answered.Reliable r.endpoint ∧ ∃ s, answered.session? i = some (r.endpoint, s) := by
  obtain ⟨pool, hpool, -⟩ := r.exists_after
  obtain ⟨hendpoints, more, hsession⟩ := r.exists_answered earlier time reply later hpool
  obtain ⟨octets, hpending, -⟩ := hbrings.arrives
  have hleft : later.Sublist r.answering.pending := by
    rw [answering, hpending]
    exact (List.sublist_cons_self _ _).trans (List.sublist_append_right _ _)
  exact ⟨(r.reliable_leaving h hleft _ limits overlooked).of_endpoints hendpoints, _, hsession⟩

/-- A reliable endpoint stays reliable when the timeout passes, and its session stays. -/
theorem reliable_timedOut (h : w.Reliable r.endpoint) (limits overlooked : List Moment) :
    let timedOut : World := { r.timedOut with limits, overlooked }
    timedOut.Reliable r.endpoint ∧ ∃ s, timedOut.session? i = some (r.endpoint, s) := by
  obtain ⟨pool, hsession, -⟩ := r.exists_after
  exact ⟨r.reliable_leaving h (List.dropWhile_sublist _) _ limits overlooked, _, hsession⟩

/-- An exchange with a cookie of its own spares the session: the request is protected with that
cookie, it is all that is sent, and no cookie leaves the pool. -/
structure Spares {c : Bytes} (r : SealedRequest w i packet placeholders (some c)) (w' : World) :
    Prop where
  request : (Protection.apply { cookie := c, placeholders } packet r.session.keys.clientToServer
    w.entropy).1 = .ok (r.data, r.identifier)
  sent : (w'.endpoint r.endpoint).sent = (w.endpoint r.endpoint).sent ++ [r.data]
  pool : ∃ more, w'.session? i =
    some (r.endpoint, { r.session with pool := r.session.pool.add more })

/-- A request with a cookie of its own is protected with that cookie, and leaves the pool. -/
theorem request_of_some {c : Bytes} (r : SealedRequest w i packet placeholders (some c)) :
    (Protection.apply { cookie := c, placeholders } packet r.session.keys.clientToServer
        w.entropy).1 = .ok (r.data, r.identifier) ∧
      r.after.session? i = some (r.endpoint, r.session) := by
  have hchoose : r.session.chooseCookie (some c) = .ok (c, r.session.pool) := rfl
  obtain ⟨r', -, -, happly, e, hafter⟩ :=
    exists_of_chooseCookie packet placeholders r.found hchoose
  cases Subsingleton.elim r r'
  refine ⟨happly, ?_⟩
  rw [hafter]
  exact World.session?_setPool r.found r.session.pool

/-- With a cookie of its own an exchange spares the session if it is answered. -/
theorem spares_answered {c : Bytes} (r : SealedRequest w i packet placeholders (some c))
    (h : w.Reliable r.endpoint) (earlier : List (Nat × Arrival)) (time : Nat) (reply : NtsReply)
    (later : List (Nat × Arrival)) (limits overlooked : List Moment) :
    r.Spares { r.answered earlier time reply later with limits, overlooked } := by
  obtain ⟨happly, hpool⟩ := r.request_of_some
  obtain ⟨hendpoints, hmore⟩ := r.exists_answered earlier time reply later hpool
  refine ⟨happly, ?_, hmore⟩
  rw [← r.sent_leaving h, World.endpoint, World.endpoint, ← hendpoints]

/-- With a cookie of its own an exchange spares the session if it is not answered. -/
theorem spares_leaving {c : Bytes} (r : SealedRequest w i packet placeholders (some c))
    (h : w.Reliable r.endpoint) (left : List (Nat × Arrival)) (m : Moment)
    (limits overlooked : List Moment) : r.Spares { r.leaving left m with limits, overlooked } := by
  obtain ⟨happly, hpool⟩ := r.request_of_some
  refine ⟨happly, r.sent_leaving h left m, [], ?_⟩
  rw [r.session.pool.add_nil]
  exact hpool

/-- What answers a request is no matter of limits. -/
theorem exists_brings_iff {limits overlooked : List Moment}
    (r : SealedRequest { w with limits, overlooked } i packet placeholders cookie) :
    ∃ r' : SealedRequest w i packet placeholders cookie, ∀ earlier time reply later,
      r.Brings earlier time reply later ↔ r'.Brings earlier time reply later := by
  have hsession : w.session? i = some (r.endpoint, r.session) := r.found
  cases hchoose : r.session.chooseCookie cookie with
  | error f => cases (Run.protectPacket_eq_failed r.found hchoose).symm.trans r.made
  | ok chosen =>
    obtain ⟨made, -, -, happly, -⟩ := exists_of_chooseCookie packet placeholders r.found hchoose
    obtain ⟨r', hendpoint, hkeys, happly', -⟩ :=
      exists_of_chooseCookie packet placeholders hsession hchoose
    cases Subsingleton.elim r made
    obtain ⟨hdata, hidentifier⟩ := Prod.mk.inj (Except.ok.inj (happly.symm.trans happly'))
    obtain ⟨-, -, hendpoints, hnow⟩ := r.exists_after
    obtain ⟨-, -, hendpoints', hnow'⟩ := r'.exists_after
    refine ⟨r', fun earlier time reply later => ?_⟩
    simp only [Brings, World.Brings, World.answering, World.closingAt, World.endpoint, hendpoints,
      hnow, hendpoints', hnow', hendpoint, hkeys, hdata, hidentifier]

end SealedRequest

namespace World

/-- A protected poll goes out with a cookie of the session, and the first answer to it that comes is
authenticated and a server's packet of version 4. -/
def AliveUnderKeys (w : World) (i : Nat) : Prop :=
  ∃ r : SealedRequest w.polled i w.poll 0 none, ∃ earlier time reply later,
    r.Brings earlier time reply later ∧ reply.opened.authenticated = true ∧
      reply.opened.packet.Answers w.poll

/-- Whether a server is alive is no matter of limits. -/
theorem aliveUnderKeys_withLimits (w : World) (i : Nat) (limits overlooked : List Moment) :
    ({ w with limits, overlooked } : World).AliveUnderKeys i ↔ w.AliveUnderKeys i := by
  have hfree (v : World) (limits overlooked : List Moment)
      (halive : ({ v with limits, overlooked } : World).AliveUnderKeys i) : v.AliveUnderKeys i := by
    obtain ⟨r, earlier, time, reply, later, hbrings, hgood⟩ := halive
    obtain ⟨r', hsame⟩ := SealedRequest.exists_brings_iff (w := v.polled) r
    exact ⟨r', earlier, time, reply, later, (hsame _ _ _ _).mp hbrings, hgood⟩
  exact ⟨hfree w limits overlooked, hfree { w with limits, overlooked } w.limits w.overlooked⟩

end World

namespace Run

variable {w : World} {i endpoint : Nat} {s : NtsSession} {packet : Packet} {placeholders : Nat}
  {cookie : Option Bytes}

/-- **What a protected exchange with a reliable server comes to** that is not cut off: it ends with
the first answer that comes in time, or it fails. It fails with a receive timeout just if what came
in time was ignored, and then what comes too late stays. -/
theorem exchangeProtected_of_reliable (r : SealedRequest w i packet placeholders cookie)
    (h : w.Reliable r.endpoint)
    (hfinished : (exchangeProtected i packet placeholders cookie none w).1 ≠ .cutOff) :
    (∃ earlier time reply later limits overlooked, r.Brings earlier time reply later ∧
      exchangeProtected i packet placeholders cookie none w =
        (.done reply, { r.answered earlier time reply later with limits, overlooked })) ∨
    ((∀ earlier time reply later, ¬ r.Brings earlier time reply later) ∧
      ∃ f left m limits overlooked, exchangeProtected i packet placeholders cookie none w =
          (.failed f, { r.leaving left m with limits, overlooked }) ∧
        f.Ordinary ∧ (f.kind.isA .receiveTimeout = true ↔ r.Ignored) ∧
        (f.kind.isA .receiveTimeout = true → r.leaving left m = r.timedOut)) := by
  obtain ⟨pool, hpooled, -⟩ := r.exists_after
  rw [exchangeProtected, bind_done r.made, bind_done (session_eq hpooled)] at hfinished ⊢
  dsimp only at hfinished ⊢
  rcases exchangeRaw_of_reliable (r.session.accept_eq_some_iff r.identifier) (r.reliable_after h)
    (ne_cutOff_of_bind hfinished) with
    ⟨earlier, time, reply, later, limits, overlooked, hbrings, hrun⟩ |
    ⟨hnothing, f, left, m, limits, overlooked, hrun, hf, htimeout, hstays⟩
  · refine .inl ⟨earlier, time, reply, later, limits, overlooked, hbrings,
      (bind_done hrun _).trans ?_⟩
    have htaken : (r.leaving later ((r.after.now.reachingAll earlier).reaching time)).session? i =
        some (r.endpoint, { r.session with pool }) := hpooled
    rw [SealedRequest.answered]
    dsimp only
    rw [World.addCookies_eq htaken]
    cases reply.opened.authenticated with
    | true =>
      rw [if_pos rfl, if_pos rfl, ← World.setPool_withLimits]
      rfl
    | false => rfl
  · refine .inr ⟨hnothing, f, left, m, limits, overlooked, bind_failed hrun _, hf, htimeout,
      fun hkind => ?_⟩
    obtain ⟨rfl, rfl⟩ := hstays hkind
    rfl

/-- What comes of a request is ignored just if its exchange ends with a receive timeout. -/
theorem ignored_iff_of_reliable (r : SealedRequest w i packet placeholders cookie)
    (h : w.Reliable r.endpoint)
    (hfinished : (exchangeProtected i packet placeholders cookie none w).1 ≠ .cutOff) :
    r.Ignored ↔ ∃ f w', exchangeProtected i packet placeholders cookie none w = (.failed f, w') ∧
      f.kind.isA .receiveTimeout = true := by
  rcases exchangeProtected_of_reliable r h hfinished with
    ⟨earlier, time, reply, later, limits, overlooked, hbrings, hrun⟩ |
    ⟨-, f, left, m, limits, overlooked, hrun, -, hignored, -⟩
  · refine iff_of_false hbrings.not_ignored ?_
    rintro ⟨f, w', hfailed, -⟩
    cases hrun.symm.trans hfailed
  · rw [← hignored]
    refine ⟨fun hkind => ⟨f, _, hrun, hkind⟩, ?_⟩
    rintro ⟨f', w', hfailed, hkind⟩
    cases hrun.symm.trans hfailed
    exact hkind

/-- An exchange with a cookie of its own spares the session. -/
theorem spares_of_reliable {c : Bytes} (r : SealedRequest w i packet placeholders (some c))
    (h : w.Reliable r.endpoint)
    (hfinished : (exchangeProtected i packet placeholders (some c) none w).1 ≠ .cutOff) :
    r.Spares (exchangeProtected i packet placeholders (some c) none w).2 := by
  rcases exchangeProtected_of_reliable r h hfinished with
    ⟨earlier, time, reply, later, limits, overlooked, -, hrun⟩ |
    ⟨-, f, left, m, limits, overlooked, hrun, -⟩
  · rw [hrun]
    exact r.spares_answered h earlier time reply later limits overlooked
  · rw [hrun]
    exact r.spares_leaving h left m limits overlooked

/-- A session without a cookie for a request says so with an ordinary fault. -/
theorem ordinary_chooseCookie {f : Fault} (h : s.chooseCookie cookie = .error f) : f.Ordinary := by
  cases cookie with
  | some c => cases h
  | none =>
    cases hpool : s.pool.cookies with
    | nil =>
      rw [NtsSession.chooseCookie_nil hpool] at h
      cases h
      exact ⟨rfl, rfl⟩
    | cons front rest =>
      rw [NtsSession.chooseCookie_cons hpool] at h
      cases h

/-- On a connection a request is made, or there is no cookie for it and its exchange fails. -/
theorem exists_sealedRequest_or_failed (packet : Packet) (placeholders : Nat)
    (cookie : Option Bytes) (hsession : w.session? i = some (endpoint, s)) :
    (∃ r : SealedRequest w i packet placeholders cookie, r.endpoint = endpoint) ∨
      (IsEmpty (SealedRequest w i packet placeholders cookie) ∧
        ∃ f, exchangeProtected i packet placeholders cookie none w = (.failed f, w) ∧
          f.Ordinary) := by
  cases hchoose : s.chooseCookie cookie with
  | error f =>
    have hprotect : protectPacket i packet placeholders cookie w = (.failed f, w) :=
      protectPacket_eq_failed hsession hchoose
    refine .inr ⟨⟨fun r => ?_⟩, f, bind_failed hprotect _, ordinary_chooseCookie hchoose⟩
    cases hprotect.symm.trans r.made
  | ok chosen =>
    obtain ⟨r, hendpoint, -⟩ :=
      SealedRequest.exists_of_chooseCookie packet placeholders hsession hchoose
    exact .inl ⟨r, hendpoint⟩

/-- **A protected poll behind a test is exact.** On a reliable server a poll that is not cut off
ends well if the server is alive under the keys of the session, and with an ordinary fault if
not. -/
theorem probeProtected_of_reliable (hsession : w.session? i = some (endpoint, s))
    (h : w.Reliable endpoint) (hfinished : (probeProtected i w).1 ≠ .cutOff) :
    EndsWellIff (probeProtected i) w (w.AliveUnderKeys i) := by
  rw [EndsWellIff]
  have hpolled : w.polled.session? i = some (endpoint, s) := hsession
  rw [probeProtected, bind_done (drawing_poll w)] at hfinished ⊢
  dsimp only at hfinished ⊢
  rcases exists_sealedRequest_or_failed w.poll 0 none hpolled with
    ⟨r, rfl⟩ | ⟨hnone, f, hexchange, hf⟩
  · have hreliable : w.polled.Reliable r.endpoint := h.of_endpoints rfl
    rcases exchangeProtected_of_reliable r hreliable
      (ne_cutOff_of_attempt (ne_cutOff_of_bind hfinished)) with
      ⟨earlier, time, reply, later, limits, overlooked, hbrings, hrun⟩ |
      ⟨hnothing, f, left, m, limits, overlooked, hrun, hf, -⟩
    · rw [bind_done (attempt_done hrun)]
      dsimp only
      by_cases hgood : (reply.opened.authenticated && reply.opened.packet.isServerReply) = true
      · rw [if_pos hgood]
        rw [Bool.and_eq_true] at hgood
        exact .inl ⟨⟨r, earlier, time, reply, later, hbrings, hgood.1,
          Packet.answers_of_isServerReply hbrings.origin hgood.2⟩, _, rfl⟩
      · rw [if_neg hgood]
        refine .inr ⟨?_, _, _, rfl, Fault.ordinary_failure _ _⟩
        rintro ⟨r', earlier', time', reply', later', hbrings', hauth, hanswers⟩
        cases Subsingleton.elim r r'
        obtain ⟨-, -, rfl, -⟩ := hbrings.unique hbrings'
        exact hgood (Bool.and_eq_true_iff.mpr ⟨hauth, hanswers.isServerReply⟩)
    · rw [bind_done (attempt_failed hrun)]
      refine .inr ⟨?_, _, _, rfl, ordinary_probeFault hf _⟩
      rintro ⟨r', earlier, time, reply, later, hbrings, -⟩
      cases Subsingleton.elim r r'
      exact hnothing earlier time reply later hbrings
  · rw [bind_done (attempt_failed hexchange)]
    refine .inr ⟨?_, _, _, rfl, ordinary_probeFault hf _⟩
    rintro ⟨r, -⟩
    exact hnone.false r

/-- A protected poll behind the first answer to a request is exact. -/
theorem probe_answered_of_reliable (r : SealedRequest w i packet placeholders cookie)
    (h : w.Reliable r.endpoint) {earlier later : List (Nat × Arrival)} {time : Nat}
    {reply : NtsReply} (hbrings : r.Brings earlier time reply later)
    (limits overlooked : List Moment)
    (hfinished : (probeProtected i
      { r.answered earlier time reply later with limits, overlooked }).1 ≠ .cutOff) :
    EndsWellIff (probeProtected i) { r.answered earlier time reply later with limits, overlooked }
      ((r.answered earlier time reply later).AliveUnderKeys i) := by
  obtain ⟨hanswered, s, hsession⟩ := r.reliable_answered h hbrings limits overlooked
  rw [← World.aliveUnderKeys_withLimits _ i limits overlooked]
  exact probeProtected_of_reliable hsession hanswered hfinished

/-- A protected poll behind the timeout of a request is exact. -/
theorem probe_timedOut_of_reliable (r : SealedRequest w i packet placeholders cookie)
    (h : w.Reliable r.endpoint) (limits overlooked : List Moment)
    (hfinished : (probeProtected i { r.timedOut with limits, overlooked }).1 ≠ .cutOff) :
    EndsWellIff (probeProtected i) { r.timedOut with limits, overlooked }
      (r.timedOut.AliveUnderKeys i) := by
  obtain ⟨htimedOut, s, hsession⟩ := r.reliable_timedOut h limits overlooked
  rw [← World.aliveUnderKeys_withLimits _ i limits overlooked]
  exact probeProtected_of_reliable hsession htimedOut hfinished

section

variable {α : Type} {x : Run α}

/-- Closing an endpoint raises the same whatever pools there are. -/
theorem closeFaults_setPool (w : World) (i : Nat) (pool : CookiePool) :
    (w.setPool i pool).closeFaults = w.closeFaults := by
  rw [World.setPool]
  split <;> rfl

/-- What a body does on a protected connection leaves what closing raises. -/
theorem closeFaults_onSession {endless : Prop} (hx : Built (OrAmbient endless (OnSession i)) x) :
    Leaves World.closeFaults x := by
  have htime : Untimed World.closeFaults := untimed_of_eq fun _ _ _ _ _ _ _ => rfl
  exact (hx.belowSession (fun _ _ => trivial) trivial).leaves htime fun _ _ h =>
    h.leaves htime (fun _ _ _ hused => World.closeFaults_setEndpoint hused.closeFault)
      closeFaults_setPool

/-- Taking a session uses no endpoint. -/
theorem udpScripts_takeSession : Leaves (·.udpScripts) takeSession := by
  refine leaves_iff_keeps.mpr fun scripts => ?_
  have law : StreamingLaw (fun _ => True) fun w : World => w.udpScripts = scripts :=
    { timeless := fun _ _ _ _ _ _ _ hw => hw
      used := fun _ _ _ hw _ => hw
      unsent := fun _ _ _ _ _ => trivial
      broken := fun _ _ _ _ _ => trivial
      refused := fun _ _ _ _ _ _ _ => trivial
      own := fun _ _ => trivial
      marked := fun _ _ _ _ hw => hw
      entered := fun _ _ _ _ hw => hw
      unopened := fun _ _ _ _ _ _ => trivial }
  exact (built_takeSession fun _ _ => trivial).keeps law.timeless fun _ _ h =>
    h.keeps law fun _ _ hw => hw

end

variable {c : RunConfig} {limit : Binary64} {w w₁ : World} {i : Nat}

/-- A protected connection to a reliable server has a session with a reliable endpoint. -/
theorem reliable_of_connectProtected (hserver : (w.udpScripts.headD {}).Reliable)
    (hconnect : connectProtected c w = (.done i, w₁)) :
    ∃ endpoint s, w₁.session? i = some (endpoint, s) ∧ w₁.Reliable endpoint := by
  cases hon : c.ntsEnabled with
  | false =>
    rw [connectProtected_of_off hon] at hconnect
    cases hconnect
  | true =>
    rw [connectProtected_of_on hon] at hconnect
    obtain ⟨out, v, htake, hconnect⟩ := exists_of_bind_done hconnect
    have hscripts := udpScripts_takeSession w
    rw [htake] at hscripts
    have hserver : (v.udpScripts.headD {}).Reliable := by
      rw [show v.udpScripts = w.udpScripts from hscripts]
      exact hserver
    rw [connectSession, bind_done (openEndpoint_of_reliable hserver out.address)] at hconnect
    cases hconnect
    exact ⟨_, _, List.getElem?_concat_length,
      (World.reliable_connected hserver c out.address).of_endpoints rfl⟩

/-- **A protected case on a reliable server** that ends within its timeout: its body and the poll
behind it are not cut off on its connection, and the outcome of the case is the one that their end
decides, if this is no other than an ordinary fault. -/
theorem exists_judges_guarded {name summary : String} {body : Nat → Run Unit}
    (hw : w.limits = []) (hserver : (w.udpScripts.headD {}).Reliable)
    (hbody : ∀ i, Built (OrAmbient False (OnSession i)) (body i))
    (hconnect : connectProtected c (w.under limit) = (.done i, w₁))
    (hends : (TestCase.guarded name summary body).EndsWithin c limit w) :
    ((body i >>= fun _ => probeProtected i) w₁).1 ≠ .cutOff ∧
      ((∀ f, ((body i >>= fun _ => probeProtected i) w₁).1 = .failed f → f.Ordinary) →
        ∃ outcome w', runCase c limit (.guarded name summary body) w = (.done outcome, w') ∧
          outcome.Judges ((body i >>= fun _ => probeProtected i) w₁).1.inTime) := by
  have hserver : ((w.under limit).udpScripts.headD {}).Reliable := hserver
  obtain ⟨endpoint, s, hsession, hreliable⟩ := reliable_of_connectProtected hserver hconnect
  have hbuilt (i : Nat) :
      Built (OrAmbient False (OnSession i)) (body i >>= fun _ => probeProtected i) :=
    .bind (hbody i) fun _ => built_probeProtected (fun _ _ => trivial) i
  obtain ⟨w₂, hw₂⟩ : ∃ w₂, ((body i >>= fun _ => probeProtected i) w₁).2 = w₂ := ⟨_, rfl⟩
  have hquiet := World.closeFault_eq_of_closeFaults (closeFaults_onSession (hbuilt i) w₁) endpoint
  have hbindings := bindings_onSession (hbuilt i) w₁
  rw [hw₂] at hquiet hbindings
  obtain ⟨s₂, hsession₂, -⟩ := World.exists_session_of_bindings hsession hbindings.symm
  obtain ⟨v, hclose⟩ := exists_closeEndpoint (hquiet ▸ hreliable.endpoint.closing)
  have hclosed :
      closeProtected i ((body i >>= fun _ => probeProtected i) w₁).2 = (.done (), v) := by
    rw [hw₂, closeProtected, bind_done (session_eq hsession₂)]
    exact hclose
  obtain ⟨-, -, hjudged⟩ := exists_judges_onConnection rfl
    ((built_connectProtected (fun _ _ => trivial) c).heeds fun _ _ h => h.heeds)
    (fun i => ((hbuilt i).belowSession (fun _ _ => trivial) trivial).heeds fun _ _ h => h.heeds)
    (fun i => (built_closeProtected (fun _ _ => trivial) i).heeds fun _ _ h => h.heeds)
    now_closeProtected hw hends hconnect ⟨v, hclosed⟩
  exact hjudged

end Run

end TimeProbe

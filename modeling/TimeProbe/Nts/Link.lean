import TimeProbe.Network.Exchange
import TimeProbe.Nts.Cookies

/-!
# Protected connections

A protected connection is an endpoint with a session. Every request uses up a
cookie of the session's pool, unless the caller brings one; the cookies of an
authenticated reply go to the end of the pool.
-/

namespace TimeProbe

/-- A reply to a protected request. -/
structure NtsReply where
  opened : OpenedReply
  identifier : Identifier
deriving DecidableEq

namespace World

/-- A session of the world with the place of its endpoint. -/
def session? (w : World) (i : Nat) : Option (Nat × NtsSession) := w.sessions[i]?

/-- The world with the pool of a session replaced. -/
def setPool (w : World) (i : Nat) (pool : CookiePool) : World :=
  match w.sessions[i]? with
  | some (endpoint, s) => { w with sessions := w.sessions.set i (endpoint, { s with pool }) }
  | none => w

end World

/-- A request made ready: its octets, what a reply has to echo, and the pool after it. -/
structure Protected where
  data : Bytes
  identifier : Identifier

namespace NtsSession

/-- The cookie for a request and the pool that is left. -/
def chooseCookie (s : NtsSession) (cookie : Option Bytes) : Except Fault (Bytes × CookiePool) :=
  match cookie with
  | some c => .ok (c, s.pool)
  | none => s.pool.take

/-- Accepts a datagram that opens under the session's keys and echoes the request. -/
def accept (s : NtsSession) (id : Identifier) (data : Bytes) :
    Except ReplyError (Option NtsReply) :=
  match OpenedReply.ofDatagram data s.keys.serverToClient with
  | .error e => .error e
  | .ok opened => .ok (if id.accepts opened.packet then some ⟨opened, id⟩ else none)

end NtsSession

namespace Run

/-- A session and the place of its endpoint. -/
def session (i : Nat) : Run (Nat × NtsSession) := do
  match ← read (·.session? i) with
  | some s => return s
  | none => fail { kind := .runtime }

/-- Protects a packet under a session. -/
def protectPacket (i : Nat) (packet : Packet) (placeholders : Nat) (cookie : Option Bytes) :
    Run Protected := do
  let (_, s) ← session i
  let (cookie, pool) ← ofExcept (s.chooseCookie cookie)
  update (·.setPool i pool)
  let protection : Protection := { cookie, placeholders }
  match ← drawing (protection.apply packet s.keys.clientToServer) with
  | .ok (data, identifier) => return ⟨data, identifier⟩
  | .error e => fail (Fault.ofWordError e)

/-- Sends a packet under protection and returns the reply that belongs to it. -/
def exchangeProtected (i : Nat) (packet : Packet) (placeholders : Nat) (cookie : Option Bytes)
    (timeout : Option Binary64) : Run NtsReply := do
  let request ← protectPacket i packet placeholders cookie
  let (endpoint, s) ← session i
  let reply ← exchangeRaw endpoint request.data (s.accept request.identifier) timeout
  if reply.opened.authenticated then
    update (·.setPool i (s.pool.add reply.opened.newCookies))
  return reply

end Run

end TimeProbe

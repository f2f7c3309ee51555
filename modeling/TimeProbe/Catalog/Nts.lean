import TimeProbe.Case.Basic
import TimeProbe.Packet.Poll

/-!
# Protected polls

A server answers a protected poll with as many cookies as were asked for, and it
never authenticates the answer to a cookie that it did not issue.
-/

namespace TimeProbe.Catalog.Nts

/-- The placeholders of a poll: with the cookie itself they ask for four cookies. -/
def placeholders : Nat := 3

/-- A reply has to be authenticated and to bring one cookie for each one asked for. -/
def judgeHappy (reply : NtsReply) : Except Fault Unit := do
  let p := reply.opened.packet
  Expect.that reply.opened.authenticated "Response was not authenticated" (.packet p)
  Expect.equal (.int reply.opened.newCookies.length) (.int (placeholders + 1))
    "Server did not respond with the expected number of cookies" (.packet p)

/-- The case of an ordinary protected poll. -/
def happy : TestCase :=
  .guarded "nts.happy" "Ensure the server correctly responds to a normal NTS request" fun i => do
    let (request, _) ← Run.drawing fun e => Packet.freshPoll e
    let reply ← Expect.reply (Run.exchangeProtected i request placeholders none none)
    Expect.check (judgeHappy reply)

/-- The length of a forged cookie where the session has none to compare with. -/
def defaultCookieLength : Nat := 100

/-- The length of a forged cookie: that of the cookies which the server issues. -/
def forgedLength (pool : CookiePool) : Nat :=
  match pool.cookies with
  | cookie :: _ => cookie.length
  | [] => defaultCookieLength

/-- A reply to a forged cookie may only be an unauthenticated refusal. -/
def judgeRefusal (reply : NtsReply) : Except Fault Unit := do
  let p := reply.opened.packet
  Expect.that (!reply.opened.authenticated) "Server authenticated a reply to an unknown cookie"
    (.packet p)
  Expect.equal (match p.kissCode? with
      | some code => .text code
      | none => .absent) (.text "NTSN") "Server did not answer with an NTS NAK" (.packet p)

/-- The case of a cookie that the server never issued. -/
def invalidCookieIsRejected : TestCase :=
  .guarded "nts.test_invalid_cookie_is_rejected"
    "A request carrying a cookie the server never issued must not be answered" fun i => do
    let (_, s) ← Run.session i
    let (request, _) ← Run.drawing fun e => Packet.freshPoll e
    let cookie ← Run.draw (forgedLength s.pool)
    match ← Run.attempt (Expect.reply (Run.exchangeProtected i request 0 (some cookie) none)) with
    | .ok reply => Expect.check (judgeRefusal reply)
    | .error f => if f.kind.isA .receiveTimeout then return () else Run.fail f

/-- The cases of this module. -/
def all : List TestCase := [happy, invalidCookieIsRejected]

end TimeProbe.Catalog.Nts

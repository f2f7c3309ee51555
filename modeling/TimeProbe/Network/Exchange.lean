import TimeProbe.Network.Endpoint

/-!
# Exchanges

An exchange sends one datagram and waits for the first one that answers it. What
does not belong to the request, and what is no valid reply at all, is taken from
the arrivals and ignored, and never extends the wait. If the wait ends without an
answer the last invalid datagram is reported, or a timeout if there was none.
-/

namespace TimeProbe

/-- How the wait for a reply ends. -/
inductive Verdict (α : Type)
  | answered (a : α)
  /-- The socket reported an error. -/
  | broken (cause : Option Fault)
  /-- The socket itself reported that nothing will come. -/
  | abandoned (last : Option (ReplyError × Bytes))
  /-- The time is up; the last invalid datagram is kept with its error. -/
  | expired (last : Option (ReplyError × Bytes))

/-- The end of the wait, the moment at which it ends, and the arrivals not taken. -/
structure Wait (α : Type) where
  verdict : Verdict α
  moment : Moment
  left : List (Nat × Arrival)

/-- Whether a socket error is itself a receive timeout. -/
def isTimeout (cause : Option Fault) : Bool := cause.any (·.kind.isA .receiveTimeout)

/-- Waits among arrivals for a datagram that `accept` gives a value for. -/
def awaitReply {α : Type} (accept : Bytes → Except ReplyError (Option α)) (stop : Moment) :
    List (Nat × Arrival) → Moment → Option (ReplyError × Bytes) → Wait α
  | [], now, last => ⟨.expired last, now.later stop, []⟩
  | (time, a) :: rest, now, last =>
    let m := now.reaching time
    if m.before stop then
      match a with
      | .socketError cause =>
        if isTimeout cause then ⟨.abandoned last, m, rest⟩ else ⟨.broken cause, m, rest⟩
      | .datagram data =>
        match accept data with
        | .ok (some a) => ⟨.answered a, m, rest⟩
        | .ok none => awaitReply accept stop rest m last
        | .error e => awaitReply accept stop rest m (some (e, data))
    else ⟨.expired last, now.later stop, (time, a) :: rest⟩

/-- Waits until a deadline, among limits of which some may pass before it. What comes just as one
of them passes is taken, and the limit is overlooked; the number of those that were comes with the
wait. -/
def awaitAmid {α : Type} (accept : Bytes → Except ReplyError (Option α)) (deadline : Moment) :
    List Moment → List (Nat × Arrival) → Moment → Option (ReplyError × Bytes) → Nat × Wait α
  | [], arrivals, now, last => (0, awaitReply accept deadline arrivals now last)
  | limit :: limits, arrivals, now, last =>
    if deadline.before limit then (0, awaitReply accept deadline arrivals now last)
    else
      match awaitReply accept ⟨limit.time, 0⟩ arrivals now last with
      | ⟨.answered a, now, left⟩ => (0, ⟨.answered a, now, left⟩)
      | ⟨.broken cause, now, left⟩ => (0, ⟨.broken cause, now, left⟩)
      | ⟨.abandoned last, now, left⟩ => (0, ⟨.abandoned last, now, left⟩)
      | ⟨.expired last, now, left⟩ =>
        if left.head?.any fun a => (now.reaching a.1).before limit.felt then
          let (n, wait) := awaitAmid accept deadline limits left now last
          (n + 1, wait)
        else (0, ⟨.expired last, now.later limit, left⟩)

namespace Run

/-- The fault of an exchange that nothing answered. -/
def noReply (address : Address) (timeout : Binary64) : Option (ReplyError × Bytes) → Fault
  | some (e, data) => { Fault.ofReplyError e with datagram := some data }
  | none =>
    { kind := .receiveTimeout
      message := "No matching reply from " ++ address.describe
      details := [("timeout_sec", .float timeout)] }

/-- Sends a datagram and waits for the first one that `accept` gives a value for. -/
def exchangeRaw {α : Type} (i : Nat) (data : Bytes)
    (accept : Bytes → Except ReplyError (Option α)) (timeout : Option Binary64) : Run α := do
  let e ← read (·.endpoint i)
  let timeout := timeout.getD e.timeout
  let deadline ← read (·.now.deadline timeout)
  sendDatagram i data
  fun w =>
    let e := w.endpoint i
    let waits := w.now.before deadline
    let (n, wait) := awaitAmid accept deadline w.limits e.pending w.now none
    let w := { w.setEndpoint i { e with pending := wait.left } with now := wait.moment }
    let w := w.overlooking n
    match wait.verdict with
    | .answered a => (.done a, w)
    | .broken cause => (.failed (Endpoint.receiveFault e.address cause), w)
    | .abandoned last => (.failed (noReply e.address timeout last), w)
    | .expired last =>
      if waits && w.limitPassesBy deadline then (.cutOff, w)
      else (.failed (noReply e.address timeout last), w)

/-- Accepts a datagram that holds a packet with the echo asked for. -/
def acceptPacket (id : Identifier) (data : Bytes) : Except ReplyError (Option Packet) :=
  match Packet.decode data with
  | .error e => .error (.packet e)
  | .ok p => .ok (if id.accepts p then some p else none)

/-- Sends a packet and returns the reply that echoes it. Without an identifier the
reply has to echo the transmit timestamp. -/
def exchangePacket (i : Nat) (packet : Packet) (id : Option Identifier)
    (timeout : Option Binary64) : Run Packet :=
  exchangeRaw i packet.encode (acceptPacket (id.getD ⟨packet.transmitTimestamp, none⟩)) timeout

end Run

end TimeProbe

import TimeProbe.Nts.Link
import TimeProbe.Packet.Poll

/-!
# Liveness

After a test the server has to answer one more poll. A probe that times out, or
that is answered by anything but a valid version 4 server packet, fails the test.
-/

namespace TimeProbe

/-- Whether a packet is what a server answers to a poll. -/
def Packet.isServerReply (p : Packet) : Bool := p.mode == Mode.server.code && p.version == 4

/-- The fault of a probe whose exchange ended with a fault; `isInvalid` says which kinds
mark the answer as invalid. -/
def probeFault (isInvalid : FaultKind → Bool) (f : Fault) : Fault :=
  if f.kind.isA .receiveTimeout then Fault.failure "Server did no longer reply to normal poll"
  else if isInvalid f.kind then
    Fault.failure ("Poll was answered by invalid response: " ++ f.message)
      (match f.datagram with
        | some data => .bytes data
        | none => .absent)
  else f

namespace Run

/-- The fault of a probe that was answered badly. -/
def badProbe (p : Packet) : Fault :=
  Fault.failure "Poll was answered by invalid response" (.packet p)

/-- Polls the server once more. -/
def probe (i : Nat) : Run Unit := do
  let (request, identifier) ← drawing fun e => Packet.freshPoll e
  match ← attempt (exchangePacket i request (some identifier) none) with
  | .error f => fail (probeFault (·.isA .decode) f)
  | .ok reply => if reply.isServerReply then pure () else fail (badProbe reply)

/-- Polls the server once more, under protection. -/
def probeProtected (i : Nat) : Run Unit := do
  let (request, _) ← drawing fun e => Packet.freshPoll e
  match ← attempt (exchangeProtected i request 0 none none) with
  | .error f => fail (probeFault (·.isInvalidReply) f)
  | .ok reply =>
    if reply.opened.authenticated && reply.opened.packet.isServerReply then pure ()
    else fail (badProbe reply.opened.packet)

end Run

end TimeProbe

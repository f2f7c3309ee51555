import TimeProbe.Case.Basic
import TimeProbe.Packet.Poll

/-!
# Plain polls

A server answers polls of versions 3 and 4 with packets of the same version, and it
ignores versions that it does not know.
-/

namespace TimeProbe.Catalog.Basic

/-- Judges the reply to a poll: its version, the echo, the order of its timestamps,
and its mode. -/
def judge (version : Int) (identifier : Identifier) (p : Packet) : Except Fault Unit := do
  Expect.version (.packet p) (.int version)
  Expect.equal (.int p.originTimestamp) (.int identifier.origin) "Incorrect origin timestamp"
    (.packet p)
  Expect.greater (.int p.transmitTimestamp) (.int p.receiveTimestamp)
    "Receive should happen before send of response" (.packet p)
  Expect.equal (.int p.mode) (.mode .server) "Incorrect mode in server response" (.packet p)

/-- Polls in a version and judges the reply. -/
def poll (version : Int) (i : Nat) : Run Unit := do
  let (request, identifier) ← Run.drawing fun e => Packet.freshPoll e version
  let reply ← Expect.reply (Run.exchangePacket i request (some identifier) none)
  Expect.check (judge version identifier reply)

/-- The case of a poll of version 4. -/
def respondsToVersion4 : TestCase :=
  .plain "basic.test_responds_to_version_4" "Sending a normal poll request should return an answer."
    (poll 4)

/-- The case of a poll of version 3. -/
def respondsToVersion3 : TestCase :=
  .plain "basic.test_responds_to_version_3"
    "NTPv3 clients are still common, a v3 poll gets a v3 answer." (poll 3)

/-- The case of a poll of version 5. -/
def ignoresVersion5 : TestCase :=
  .plain "basic.test_ignores_version_5" "Check that unknown versions are ignored." fun i => do
    let (request, _) ← Run.drawing fun e => Packet.freshPoll e 5
    Run.sendDatagram i request.encode
    Expect.silence (Run.receiveAnything i none) "Should not respond to ntp version 5 requests"

/-- The cases of this module. -/
def all : List TestCase := [respondsToVersion4, respondsToVersion3, ignoresVersion5]

end TimeProbe.Catalog.Basic

import TimeProbe.Entropy
import TimeProbe.Packet.Basic

/-!
# Polls

A poll is a client packet with a random transmit timestamp. The timestamp serves
as the identifier of the request: a server has to echo it.
-/

namespace TimeProbe.Packet

/-- A poll with the given transmit timestamp. -/
def pollAt (transmit : Nat) (version poll : Int) : Packet :=
  { version, mode := Mode.client.code, poll, transmitTimestamp := transmit }

/-- A poll and what its reply has to echo. -/
def freshPoll (e : Entropy) (version : Int := 4) (poll : Int := defaultPoll) :
    (Packet × Identifier) × Entropy :=
  let (transmit, e) := e.drawWord
  ((pollAt transmit version poll, ⟨transmit, none⟩), e)

end TimeProbe.Packet

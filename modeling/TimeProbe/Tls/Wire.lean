import TimeProbe.Network.Chunk

/-!
# The wire below a TLS stream

A TLS stream stands on a TCP connection and on an engine that turns plaintext into
ciphertext and back. Both follow scripts here, and everything done with them is
recorded in order.
-/

namespace TimeProbe.Tls

/-- The protocol that a server has to agree to. -/
def alpn : Bytes := "ntske/1".toUTF8.toList

/-- What a call of the engine brings. -/
inductive Answer (α : Type)
  | value (a : α)
  /-- The engine needs more ciphertext first. -/
  | wantRead
  | fault (cause : Fault)

/-- One thing done with the wire. -/
inductive Act
  | connect (host : String) (port : Int)
  | announce (name : Bytes)
  | becomeClient
  | shakeHands
  | write (data : Bytes)
  | deliver (data : Bytes)
  | verifyName (host : String)
  | verifyAddress (host : String)
  | encrypt (data : Bytes)
  | receive (limit : Int)
  | exportKey (label : Bytes) (length : Int) (context : Bytes)
  | shutDown
  | close
  | awaitClosed
deriving DecidableEq

/-- The scripts of a connection and of its engine, and what was done with them. -/
structure Wire where
  /-- How long connecting takes, and the fault it ends with if it does. -/
  connectTicks : Nat := 0
  connectFault : Option Fault := none
  /-- What the reads of the TCP connection meet. -/
  arriving : List Chunk := []
  /-- What the successive waits for the output to drain end with. -/
  drains : List (Option Fault) := []
  closeFault : Option Fault := none
  handshake : List (Answer Unit) := []
  outgoing : List (Answer Bytes) := []
  plaintext : List (Answer Bytes) := []
  negotiated : Bytes := alpn
  shutdownFault : Option Fault := none
  verifyFault : Option Fault := none
  /-- Whether the connection came to its end. -/
  ended : Bool := false
  acts : List Act := []
deriving Inhabited

end TimeProbe.Tls

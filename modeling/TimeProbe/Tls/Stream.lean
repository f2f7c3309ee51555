import TimeProbe.Network.Run
import TimeProbe.Tls.Host

/-!
# TLS streams

Opening a stream connects, shakes hands, checks the protocol agreed to and then the
identity of the server, all of it within the timeout. If anything goes wrong after the
connection was made, the connection is closed. Closing never fails because of what the
network does.
-/

namespace TimeProbe.Tls

/-- A stream by the address it leads to, with the timeout of its waits. -/
structure Stream where
  address : Address
  timeout : Binary64
deriving DecidableEq, Inhabited

namespace Stream

/-- A connection fault. -/
def refused (message : String) (details : List (String × Value)) : Fault :=
  { kind := .keConnect, message, details }

/-- The detail that tells the message of a cause. -/
def because (cause : Fault) : List (String × Value) := [("error", .text cause.message)]

/-- The detail that tells the timeout. -/
def timeoutDetail (s : Stream) : List (String × Value) := [("timeout_sec", .float s.timeout)]

/-- Whether the words of an engine's fault say that a certificate was refused. -/
def blamesCertificate (cause : Fault) : Bool :=
  Text.occursIn "certificate verify failed".toList (cause.message.toList.map Char.toLower)

/-- The fault of a TCP connection that was not made. -/
def connectFault (s : Stream) (cause : Fault) : Fault :=
  if cause.kind.isA .timeout then
    refused ("Connection timeout to " ++ s.address.describe) s.timeoutDetail
  else if cause.kind.isA .os then
    refused ("Could not open TCP connection to " ++ s.address.describe ++ ": " ++ cause.message)
      (because cause)
  else cause

/-- The fault of a handshake that the engine gave up. -/
def handshakeFault (s : Stream) (cause : Fault) : Fault :=
  if !cause.kind.isA .tls then cause
  else if blamesCertificate cause then
    { kind := .keCertificate
      message := "Certificate of " ++ s.address.host ++ " could not be verified: " ++ cause.message
      details := because cause }
  else refused ("TLS handshake failed: " ++ cause.message) (because cause)

/-- The fault of a server whose certificate is for someone else. -/
def identityFault (s : Stream) (cause : Fault) : Fault :=
  if cause.kind.isA .certificateMismatch then
    { kind := .keCertificate
      message := "Certificate does not match " ++ s.address.host ++ ": " ++ cause.message
      details := because cause }
  else cause

/-- The fault of a write. -/
def writeFault (s : Stream) (size : Nat) (cause : Fault) : Fault :=
  if cause.kind.isA .os then
    { kind := .transport
      message := "Failed to write to " ++ s.address.describe
      details := [("error", .text cause.message), ("data_size", Fault.count size)] }
  else cause

/-- The fault of a read during which nothing arrived. -/
def silence (s : Stream) : Fault :=
  { kind := .receiveTimeout
    message := "Receive timeout from " ++ s.address.describe
    details := s.timeoutDetail }

/-- The fault of a read. -/
def readFault (s : Stream) (cause : Fault) : Fault :=
  if cause.kind.isA .timeout then s.silence
  else if cause.kind.isA .os then
    { kind := .transport
      message := "Failed to read from " ++ s.address.describe ++ ": " ++ cause.message
      details := because cause }
  else cause

/-- The fault of a receive for which the engine has no plaintext. -/
def plaintextFault (s : Stream) (cause : Fault) : Fault :=
  { kind := .transport
    message := "TLS error from " ++ s.address.describe ++ ": " ++ cause.message
    details := because cause }

/-- The fault of a connection that ended during the handshake. -/
def endedInHandshake (s : Stream) : Fault :=
  { kind := .unexpectedClose
    message := s.address.describe ++ " closed the connection during the TLS handshake" }

/-- The fault of a server that agreed to another protocol. -/
def otherProtocol (negotiated : Bytes) : Fault :=
  refused "Server did not negotiate the ntske/1 ALPN protocol" [("alpn", .bytes negotiated)]

/-- The fault of an opening whose handshake or identity check ended with a fault. -/
def openingFault (s : Stream) (cause : Fault) : Fault :=
  if cause.kind.isA .timeout || cause.kind.isA .receiveTimeout then
    refused ("TLS handshake with " ++ s.address.describe ++ " timed out") s.timeoutDetail
  else if cause.kind.isA .transport || cause.kind.isA .unexpectedClose then
    refused ("TLS handshake with " ++ s.address.describe ++ " failed: " ++ cause.message)
      cause.details
  else cause

end Stream

end TimeProbe.Tls

namespace TimeProbe.Run

open TimeProbe.Tls

variable {α : Type}

/-- Changes the wire. -/
def rewire (f : Wire → Wire) : Run Unit := update fun w => { w with wire := f w.wire }

/-- Records something done with the wire. -/
def act (a : Act) : Run Unit := rewire fun wire => { wire with acts := wire.acts ++ [a] }

/-- A step whose fault is told in other words. -/
def explaining (f : Fault → Fault) (x : Run α) : Run α := do
  match ← attempt x with
  | .ok a => return a
  | .error cause => fail (f cause)

/-- A step within a timeout; that the timeout passed is a fault. -/
def withinOr (timeout : Binary64) (late : Fault) (x : Run α) : Run α := do
  match ← within timeout x with
  | some a => return a
  | none => fail late

/-- The fault of a passed timeout. -/
def lateness : Fault := { kind := .timeout }

/-- The ciphertext that the engine has ready: what it gives until it wants to read, gives
nothing, or fails. What is left of its answers goes back to the wire. -/
def gather : List (Answer Bytes) → Bytes → Run Bytes
  | [], gathered => do
    rewire fun wire => { wire with outgoing := [] }
    return gathered
  | .value (b :: bs) :: rest, gathered => gather rest (gathered ++ b :: bs)
  | .value [] :: rest, gathered => do
    rewire fun wire => { wire with outgoing := rest }
    return gathered
  | .wantRead :: rest, gathered => do
    rewire fun wire => { wire with outgoing := rest }
    return gathered
  | .fault cause :: rest, _ => do
    rewire fun wire => { wire with outgoing := rest }
    fail cause

/-- Waits until the output has drained. -/
def drain : Run Unit := do
  let cause ← read (·.wire.drains.head?)
  rewire fun wire => { wire with drains := wire.drains.tail }
  awaitDrained
  suffer cause.join

/-- Moves the engine's ciphertext to the connection. -/
def flush (s : Stream) : Run Unit := do
  let outgoing ← gather (← read (·.wire.outgoing)) []
  if outgoing.isEmpty then return ()
  act (.write outgoing)
  explaining (s.writeFault outgoing.length) drain

/-- Reads from the connection; the octets are none at its end. -/
def readOctets : List Chunk → Run Bytes
  | [] => do
    rewire fun wire => { wire with arriving := [] }
    waitForever
  | .octets data :: rest => do
    rewire fun wire => { wire with arriving := rest }
    return data
  | .pause ticks :: rest => do
    rewire fun wire => { wire with arriving := rest }
    pause ticks
    readOctets rest
  | .fault cause :: rest => do
    rewire fun wire => { wire with arriving := rest }
    fail cause

/-- Moves ciphertext from the connection to the engine; false at the end of the
connection, from which nothing is read again. -/
def refillEngine (s : Stream) : Run Bool := do
  if ← read (·.wire.ended) then return false
  let arriving ← read (·.wire.arriving)
  match ← explaining s.readFault (withinOr s.timeout lateness (readOctets arriving)) with
  | [] => do
    rewire fun wire => { wire with ended := true }
    return false
  | b :: bs => do
    act (.deliver (b :: bs))
    return true

/-- Shakes hands until the engine is done. -/
def shakeHands (s : Stream) : List (Answer Unit) → Run Unit
  | [] => act .shakeHands
  | .value () :: rest => do
    act .shakeHands
    rewire fun wire => { wire with handshake := rest }
  | .fault cause :: rest => do
    act .shakeHands
    rewire fun wire => { wire with handshake := rest }
    fail (s.handshakeFault cause)
  | .wantRead :: rest => do
    act .shakeHands
    rewire fun wire => { wire with handshake := rest }
    flush s
    if ← refillEngine s then shakeHands s rest else fail s.endedInHandshake

/-- The handshake, with the check of the protocol agreed to. -/
def agree (s : Stream) : Run Unit := do
  shakeHands s (← read (·.wire.handshake))
  flush s
  let negotiated ← read (·.wire.negotiated)
  if negotiated ≠ alpn then fail (Stream.otherProtocol negotiated)

/-- Checks the identity of the server. -/
def verifyIdentity (s : Stream) : Run Unit := do
  let host := s.address.host
  act (if Host.isAddress host then .verifyAddress host else .verifyName host)
  explaining s.identityFault (do suffer (← read (·.wire.verifyFault)))

/-- Tells the server that nothing follows. -/
def shutDown (s : Stream) : Run Unit := do
  act .shutDown
  suffer (← read (·.wire.shutdownFault))
  flush s

/-- Whether a fault while shutting down is of no consequence. -/
def harmless (cause : Fault) : Bool := cause.kind.isA .tls || cause.kind.isA .transport

/-- Closes the connection. -/
def closeConnection : Run Unit := do
  act .close
  act .awaitClosed
  match ← read (·.wire.closeFault) with
  | some cause => if cause.kind.isA .other then pure () else fail cause
  | none => pure ()

/-- Closes the connection of a stream. -/
def closeTls (s : Stream) : Run Unit := do
  match ← attempt (shutDown s) with
  | .ok () => pure ()
  | .error cause => if harmless cause then pure () else fail cause
  closeConnection

/-- Waits until the TCP connection is made or refused. -/
def awaitConnected (s : Stream) : Run Unit := do
  act (.connect s.address.host s.address.port)
  pause (← read (·.wire.connectTicks))
  suffer (← read (·.wire.connectFault))

/-- Makes the TCP connection. -/
def connectTcp (s : Stream) : Run Unit :=
  explaining s.connectFault (withinOr s.timeout lateness (awaitConnected s))

/-- Names the server to the engine, unless it is named by an address. -/
def announceHost (host : String) : Run Unit := do
  if Host.isAddress host then return ()
  match Host.announced (← read (·.preparation)) host with
  | .ok name => act (.announce name)
  | .error e => fail { kind := .unicode, message := e.message }

/-- The handshake within its timeout, and the identity check. -/
def secure (s : Stream) : Run Unit := do
  withinOr s.timeout lateness (agree s)
  verifyIdentity s

/-- Gives up an opening. An interrupt leaves the connection as it is. -/
def giveUp (s : Stream) (cause : Fault) : Run Unit := do
  if cause.kind.isA .other then closeTls s
  fail (s.openingFault cause)

/-- Opens a stream. -/
def openTls (s : Stream) : Run Unit := do
  connectTcp s
  announceHost s.address.host
  act .becomeClient
  match ← attempt (secure s) with
  | .ok () => return ()
  | .error cause => giveUp s cause

/-- Sends plaintext. -/
def sendTls (s : Stream) (data : Bytes) : Run Unit := do
  act (.encrypt data)
  flush s

/-- The limit of a receive: zero stands for the size of a full record. -/
def receiveLimit (limit : Option Int) : Run Int := do
  let full ← read (·.settings.keReadSize)
  return match limit with
    | some n => if n = 0 then full else n
    | none => full

/-- Receives once the engine's answers are used up: it wants to read each time. -/
def receiveMore (s : Stream) (limit : Int) : Nat → Run Bytes
  | 0 => return []
  | rounds + 1 => do
    act (.receive limit)
    flush s
    if ← refillEngine s then receiveMore s limit rounds else return []

/-- Receives along the answers of the engine. -/
def receiveAlong (s : Stream) (limit : Int) : List (Answer Bytes) → Run Bytes
  | [] => do receiveMore s limit ((← read (·.wire.arriving.length)) + 1)
  | .value data :: rest => do
    act (.receive limit)
    rewire fun wire => { wire with plaintext := rest }
    return data
  | .fault cause :: rest => do
    act (.receive limit)
    rewire fun wire => { wire with plaintext := rest }
    if cause.kind.isA .tlsZeroReturn then return []
    else if cause.kind.isA .tls then fail (s.plaintextFault cause)
    else fail cause
  | .wantRead :: rest => do
    act (.receive limit)
    rewire fun wire => { wire with plaintext := rest }
    flush s
    if ← refillEngine s then receiveAlong s limit rest else return []

/-- The next plaintext, or none once the server has closed the stream. -/
def receiveTls (s : Stream) (limit : Option Int) : Run Bytes := do
  let limit ← receiveLimit limit
  receiveAlong s limit (← read (·.wire.plaintext))

/-- Key material from the engine. -/
def exportTls (label : Bytes) (length : Int) (context : Bytes) : Run Bytes := do
  act (.exportKey label length context)
  return (List.range length.toNat).map fun i => UInt8.ofNat ((length.toNat + i) % 256)

end TimeProbe.Run

import TimeProbe.Network.Run

/-!
# Key establishment streams

A stream carries octets in both directions and exports keys. Opening one uses up
one script; when there is none left no server answers. Octets sent are recorded
call by call, and every use of the exporter is recorded too. Connecting, shaking hands
and draining take their time and can be cut off. A stream whose handshake was cut off is
left as it is, with its connection.
-/

namespace TimeProbe

namespace KeStream

/-- The fault of a stream for which no script is left. -/
def noServer : Fault := { kind := .keConnect, message := "no server" }

/-- Whether a limit is given by a nonzero number, or by the settings instead. -/
def recordLimit (given : Option Int) (settings : Settings) : Int :=
  match given with
  | some n => if n = 0 then settings.maxKeRecords else n
  | none => settings.maxKeRecords

end KeStream

namespace World

/-- A stream of the world. -/
def stream (w : World) (i : Nat) : KeStream := w.streams[i]?.getD default

/-- The world with a stream replaced. -/
def setStream (w : World) (i : Nat) (s : KeStream) : World :=
  { w with streams := w.streams.set i s }

end World

namespace Run

/-- Takes the next script, if there is one, and enters the stream that it makes; its place
among the streams comes with it. -/
def enterStream (address : Address) (caFile : Option String) (maxRecords : Option Int) :
    Run (Nat × Option KeScript) := fun w =>
  let script := w.keScripts.head?
  let entry : KeStream :=
    { address, caFile, maxRecords := KeStream.recordLimit maxRecords w.settings
      chunks := script.elim [] (·.chunks), sendFault := script.bind (·.sendFault) }
  (.done (w.streams.length, script),
    { w with keScripts := w.keScripts.tail, streams := w.streams ++ [entry] })

/-- How long the next opening takes. -/
def nextOpening : Run Opening := fun w =>
  (.done (w.openings.headD {}), { w with openings := w.openings.tail })

/-- Changes a stream. -/
def updateStream (i : Nat) (f : KeStream → KeStream) : Run Unit :=
  update fun w => w.setStream i (f (w.stream i))

/-- Makes the connection of a stream. -/
def connectStream (i ticks : Nat) (fault : Option Fault) : Run Unit := do
  awaiting ticks
  suffer fault
  updateStream i fun s => { s with connected := true }

/-- Gives a stream up once its output has drained. An interrupt leaves it as it is. -/
def abandonStream (i : Nat) (cause : Fault) : Run Unit := do
  if cause.kind.isA .other then
    awaitDrained
    updateStream i fun s => { s with connected := false }
  fail cause

/-- Shakes hands on a stream. -/
def secureStream (i ticks : Nat) (fault : Option Fault) : Run Unit := do
  awaiting ticks
  match fault with
  | some cause => abandonStream i cause
  | none => return ()

/-- Opens a stream; the result is its place among the streams. -/
def openStream (address : Address) (caFile : Option String) (maxRecords : Option Int) :
    Run Nat := do
  let (i, script) ← enterStream address caFile maxRecords
  match script with
  | none => fail KeStream.noServer
  | some script =>
    let opening ← nextOpening
    connectStream i opening.connectTicks
      (if opening.failsInHandshake then none else script.openFault)
    secureStream i opening.handshakeTicks
      (if opening.failsInHandshake then script.openFault else none)
    return i

/-- Sends octets on a stream. They are recorded even if the send fails. -/
def sendOctets (i : Nat) (data : Bytes) : Run Unit := do
  let fault ← read (·.stream i |>.sendFault)
  updateStream i fun s => { s with sent := s.sent ++ [data] }
  awaitDrained
  suffer fault

/-- Exports key material from a stream. -/
def exportKey (i : Nat) (x : Export) : Run Bytes := fun w =>
  let s := w.stream i
  (.done (w.exporter i x), w.setStream i { s with exports := s.exports ++ [x] })

/-- Closes a stream once its output has drained. -/
def closeStream (i : Nat) : Run Unit := do
  awaitDrained
  updateStream i fun s => { s with connected := false, closed := s.closed + 1 }

end Run

end TimeProbe

import TimeProbe.Network.Run

/-!
# Endpoints

Opening an endpoint uses up one script. Sending a datagram records it and puts
what it brings about into the endpoint's arrivals, which stay there until a
receive takes them. Faults of the system become transport faults on the way.
-/

namespace TimeProbe

/-- The first `n` members of a list; a negative `n` leaves members out at the end. -/
def takeInt {α : Type} (n : Int) (xs : List α) : List α :=
  match n with
  | .ofNat n => xs.take n
  | .negSucc n => xs.take (xs.length - (n + 1))

/-- The members of a list that `takeInt` leaves. -/
def dropInt {α : Type} (n : Int) (xs : List α) : List α :=
  match n with
  | .ofNat n => xs.drop n
  | .negSucc n => xs.drop (xs.length - (n + 1))

theorem takeInt_append_dropInt {α : Type} (n : Int) (xs : List α) :
    takeInt n xs ++ dropInt n xs = xs := by
  cases n <;> simp [takeInt, dropInt]

namespace Endpoint

/-- An arrival put behind all that come no later. -/
def insertArrival (time : Nat) (a : Arrival) : List (Nat × Arrival) → List (Nat × Arrival)
  | [] => [(time, a)]
  | (t, b) :: rest =>
    if t ≤ time then (t, b) :: insertArrival time a rest else (time, a) :: (t, b) :: rest

/-- An arrival as the endpoint keeps it: datagrams are cut at the limit. -/
def cut (limit : Int) : Arrival → Arrival
  | .datagram data => .datagram (takeInt limit data)
  | .socketError cause => .socketError cause

/-- The endpoint with events scheduled from a time on. -/
def schedule (now : Nat) (events : List Event) (e : Endpoint) : Endpoint :=
  { e with
    pending := events.foldl
      (fun pending ev =>
        insertArrival (Moment.timeAfter now ev.delay) (cut e.datagramLimit ev.arrival) pending)
      e.pending }

/-- The endpoint that a script makes at an address. -/
def ofScript (address : Address) (timeout : Binary64) (limit : Int) (script : UdpScript) :
    Endpoint :=
  { address, timeout, datagramLimit := limit, sends := script.sends
    closeFault := script.closeFault }

/-- The endpoint after a send, and the fault of the send if there is one. A datagram
that could not be sent is not recorded. -/
def send (now : Nat) (data : Bytes) (e : Endpoint) : Option Fault × Endpoint :=
  match e.sends with
  | .fail cause :: rest => (some cause, { e with sends := rest })
  | .deliver events :: rest =>
    (none, ({ e with sends := rest, sent := e.sent ++ [data] }).schedule now events)
  | [] => (none, { e with sent := e.sent ++ [data] })

/-- A fault of sending: faults of the system become send faults. -/
def sendFault (address : Address) (data : Bytes) (cause : Fault) : Fault :=
  if cause.kind.isA .os then
    { kind := .send
      message := "Failed to send data to " ++ address.describe
      details := [("error", .text cause.message), ("data_size", Fault.count data.length)] }
  else cause

/-- The fault of looking for octets in an interrupt. -/
def notOctets (cause : Fault) : Fault :=
  { kind := .type, message := "object of type '" ++ cause.kind.name ++ "' has no len()" }

/-- The fault that a socket error becomes where octets are needed: transport faults stay
as they are, and an interrupt is no octets. -/
def receiveFault (address : Address) : Option Fault → Fault
  | none => { kind := .transport, message := "udp_error" }
  | some cause =>
    if cause.kind.isA .transport then cause
    else if cause.kind.isA .interrupt then notOctets cause
    else
      { kind := .transport
        message := "Failed to receive from " ++ address.describe ++ ": " ++ cause.message
        details := [("error", .text cause.message), ("error_type", .text cause.kind.name)] }

/-- The fault of an endpoint that cannot be opened. -/
def openFault (address : Address) (cause : Fault) : Fault :=
  if cause.kind.isA .os then
    { kind := .transport
      message := "Could not open UDP endpoint to " ++ address.describe ++ ": " ++ cause.message
      details := [("error", .text cause.message)] }
  else cause

/-- The fault of a receive during which nothing arrived. -/
def receiveTimeout (address : Address) (timeout : Binary64) : Fault :=
  { kind := .receiveTimeout
    message := "Receive timeout from " ++ address.describe
    details := [("timeout_sec", .float timeout)] }

end Endpoint

namespace World

/-- An endpoint of the world. -/
def endpoint (w : World) (i : Nat) : Endpoint := w.endpoints[i]?.getD default

/-- The world with an endpoint replaced. -/
def setEndpoint (w : World) (i : Nat) (e : Endpoint) : World :=
  { w with endpoints := w.endpoints.set i e }

end World

namespace Run

/-- Opens an endpoint; the result is its place among the endpoints. -/
def openEndpoint (address : Address) (timeout : Binary64) : Run Nat := fun w =>
  let script := w.udpScripts.headD {}
  let e := Endpoint.ofScript address timeout w.settings.maxDatagramBytes script
  let w := { w with udpScripts := w.udpScripts.tail }
  match script.openFault with
  | some cause =>
    (.failed (Endpoint.openFault address cause), { w with endpoints := w.endpoints ++ [e] })
  | none =>
    (.done w.endpoints.length,
      { w with endpoints := w.endpoints ++ [e.schedule w.now.time script.onOpen] })

/-- Sends a datagram. -/
def sendDatagram (i : Nat) (data : Bytes) : Run Unit := fun w =>
  let e := w.endpoint i
  let (fault, e') := e.send w.now.time data
  let w := w.setEndpoint i e'
  match fault with
  | some cause => (.failed (Endpoint.sendFault e.address data cause), w)
  | none => (.done (), w)

/-- Takes the next arrival before the limit. -/
def nextArrival (i : Nat) : Run Arrival := fun w =>
  let e := w.endpoint i
  match e.pending with
  | [] => waitForever w
  | (time, a) :: rest =>
    let m := w.now.reaching time
    if w.limitPassesBy m then waitForever w
    else (.done a, { w.setEndpoint i { e with pending := rest } with now := m })

/-- The next arrival, within a timeout, with the address it comes from. -/
def receiveArrival (i : Nat) (timeout : Option Binary64) : Run (Address × Arrival) := do
  let e ← read (·.endpoint i)
  let timeout := timeout.getD e.timeout
  match ← within timeout (nextArrival i) with
  | none => fail (Endpoint.receiveTimeout e.address timeout)
  | some a => return (e.address, a)

/-- The next datagram, within a timeout. -/
def receiveDatagram (i : Nat) (timeout : Option Binary64) : Run Bytes := do
  match ← receiveArrival i timeout with
  | (_, .datagram data) => return data
  | (address, .socketError cause) => fail (Endpoint.receiveFault address cause)

/-- Whatever comes next in the place of a datagram, within a timeout: an interrupt of the
socket counts as something received. -/
def receiveAnything (i : Nat) (timeout : Option Binary64) : Run Value := do
  match ← receiveArrival i timeout with
  | (_, .datagram data) => return .bytes data
  | (address, .socketError cause) =>
    match cause.filter (·.kind.isA .interrupt) with
    | some f => return .interrupt f.arguments
    | none => fail (Endpoint.receiveFault address cause)

/-- The next datagram, decoded. -/
def receivePacket (i : Nat) (timeout : Option Binary64) : Run Packet := do
  match Packet.decode (← receiveDatagram i timeout) with
  | .ok p => return p
  | .error e => fail (Fault.ofPacketError e)

/-- Closes an endpoint. A fault of closing is of no consequence to the run. -/
def closeEndpoint (i : Nat) : Run Unit := fun w =>
  let e := w.endpoint i
  let w := w.setEndpoint i { e with closed := e.closed + 1 }
  match e.closeFault with
  | some cause => if cause.kind.isA .other then (.done (), w) else (.failed cause, w)
  | none => (.done (), w)

end Run

end TimeProbe

import TimeProbe.Config.RunConfig
import TimeProbe.Entropy
import TimeProbe.Fault
import TimeProbe.Network.Moment
import TimeProbe.Tls.Host
import TimeProbe.Tls.Wire

/-!
# The network of a run

A run happens in a network whose behaviour is laid down by scripts: what each
datagram sent brings back and when, what each key establishment stream answers,
and what name resolution gives. The world holds the scripts not used up yet, the
clock, everything that is open, and a record of what the prober did. Time is
counted in ticks, of which every double is a whole number.
-/

namespace TimeProbe

/-- What reaches an endpoint. -/
inductive Arrival
  | datagram (data : Bytes)
  /-- An error of the socket, which may come without a cause. -/
  | socketError (cause : Option Fault)

/-- Something that happens a number of ticks after its trigger. -/
structure Event where
  delay : Nat := 0
  arrival : Arrival

/-- What sending a datagram does. -/
inductive SendScript
  | deliver (events : List Event)
  | fail (cause : Fault)

/-- The behaviour of one endpoint. -/
structure UdpScript where
  openFault : Option Fault := none
  onOpen : List Event := []
  /-- What the successive datagrams bring about; later ones bring nothing. -/
  sends : List SendScript := []
  closeFault : Option Fault := none
deriving Inhabited

/-- A network address: a host and a port. -/
structure Address where
  host : String
  port : Int
deriving DecidableEq, Inhabited

namespace Address

/-- The text of an address in messages. -/
def describe (a : Address) : String := a.host ++ s!":{a.port}"

/-- The value of an address in details. -/
def value (a : Address) : Value := .tuple [.text a.host, .int a.port]

end Address

/-- An endpoint that was opened, or that the prober tried to open. -/
structure Endpoint where
  address : Address
  /-- How long a receive waits unless it is told otherwise. -/
  timeout : Binary64
  /-- Longer datagrams are cut here. -/
  datagramLimit : Int
  /-- What arrived or will arrive, with the time of arrival, earliest first. -/
  pending : List (Nat × Arrival) := []
  sends : List SendScript := []
  closeFault : Option Fault := none
  sent : List Bytes := []
  closed : Nat := 0
deriving Inhabited

/-- The behaviour of one key establishment stream. -/
structure KeScript where
  openFault : Option Fault := none
  chunks : List Chunk := []
  sendFault : Option Fault := none
deriving Inhabited

/-- One use of a stream's key exporter. -/
structure Export where
  label : Bytes
  length : Nat
  context : Bytes
deriving DecidableEq

namespace Export

/-- The octet at place `i` of what an ordinary stream exports. -/
def octet (x : Export) (i : Nat) : UInt8 :=
  let sum (bs : Bytes) : Nat := (bs.map (·.toNat)).foldl (· + ·) 0
  UInt8.ofNat ((sum x.label + 16 * sum x.context + 3 * i) % 256)

/-- The key material that an ordinary stream exports. -/
def octets (x : Export) : Bytes := (List.range x.length).map x.octet

end Export

/-- How long the opening of a stream takes. -/
structure Opening where
  connectTicks : Nat := 0
  handshakeTicks : Nat := 0
  /-- Whether a fault of the opening comes with the handshake and not with connecting. -/
  failsInHandshake : Bool := false
deriving Inhabited

/-- A stream that was opened, or that the prober tried to open, with the session
on top of it. -/
structure KeStream where
  address : Address
  caFile : Option String := none
  chunks : List Chunk := []
  sendFault : Option Fault := none
  /-- The number of records accepted in one answer. -/
  maxRecords : Int := 0
  buffer : RecordBuffer := {}
  sent : List Bytes := []
  exports : List Export := []
  /-- Whether there is a connection below the stream. -/
  connected : Bool := false
  closed : Nat := 0
deriving Inhabited

/-- Cookies that were not used yet. -/
structure CookiePool where
  cookies : List Bytes := []
deriving DecidableEq, Inhabited

/-- Keys and the cookies that go with them. -/
structure NtsSession where
  keys : KeyPair
  pool : CookiePool
deriving DecidableEq

/-- The jar from which sessions are handed out. -/
structure SessionSource where
  config : RunConfig
  keys : Option KeyPair := none
  jar : List Bytes := []
  address : Option Address := none
  /-- The failure of the first key establishment. -/
  error : Option Fault := none

/-- Everything that a run can see or change. -/
structure World where
  settings : Settings := {}
  now : Moment := {}
  /-- The moments by which the steps going on have to end, that of the innermost one first. -/
  limits : List Moment := []
  /-- The limits that passed just as a wait got what it waited for, and were overlooked. -/
  overlooked : List Moment := []
  entropy : Entropy := {}
  /-- What name resolution gives, and the lookups made. -/
  resolver : Except Fault (List String) := .ok ["192.0.2.1"]
  lookups : List Address := []
  udpScripts : List UdpScript := []
  endpoints : List Endpoint := []
  keScripts : List KeScript := []
  /-- How long the successive openings of streams take; later ones take no time. -/
  openings : List Opening := []
  streams : List KeStream := []
  /-- What the key exporters of the streams give, by the place of the stream. -/
  exporter : Nat → Export → Bytes := fun _ => Export.octets
  /-- The sessions of protected connections, each with its endpoint. -/
  sessions : List (Nat × NtsSession) := []
  source : Option SessionSource := none
  /-- The wire below a TLS stream. -/
  wire : Tls.Wire := {}
  /-- How the labels of names that are not ASCII are prepared. -/
  preparation : Host.Preparation := Host.ordinaryPreparation
  /-- How long the successive waits for output to drain take; later ones take no time. -/
  drainTicks : List Nat := []
  /-- The lines printed. -/
  printed : List String := []

end TimeProbe

import TimeProbe.KeyExchange.Request
import TimeProbe.Network.Stream

/-!
# Key establishment sessions

A session sends requests on a stream and reads answers record by record, however
the stream cuts them. An answer ends with End of Message; `collect` reads one and
bounds its length. `establish` judges the answer and derives the keys of both
directions from the stream's exporter.
-/

namespace TimeProbe

/-- A wait for a record: how it ends, when, and what is left of the stream and of the limits. -/
structure RecordWait where
  ending : Ending (Option Record)
  moment : Moment
  chunks : List Chunk
  buffer : RecordBuffer
  limits : List Moment

/-- The end of a stream: clean between two records, and a fault inside one. -/
def endOfStream (buffer : RecordBuffer) : Ending (Option Record) :=
  if buffer.pending = 0 then .done none
  else
    .failed
      { kind := .unexpectedClose
        message := "NTS-KE stream closed inside a record"
        details := [("pending", Fault.count buffer.pending)] }

/-- The limits that are left once something was taken: one that has been reached is overlooked. -/
def Moment.outlasting (m : Moment) (limits : List Moment) : List Moment :=
  if limits.head?.any (!m.before ·) then limits.tail else limits

/-- Waits for the next record. Chunks are used only as long as no record is
complete; an empty chunk is the end of the stream. -/
def awaitRecord : List Moment → List Chunk → Moment → RecordBuffer → RecordWait
  | limits, chunks, now, buffer =>
    match buffer.next? with
    | some (r, buffer) => ⟨.done (some r), now, chunks, buffer, limits⟩
    | none =>
      match chunks with
      | [] => ⟨endOfStream buffer, now, [], buffer, now.outlasting limits⟩
      | .octets [] :: rest => ⟨endOfStream buffer, now, rest, buffer, now.outlasting limits⟩
      | .octets (b :: bs) :: rest =>
        awaitRecord (now.outlasting limits) rest now (buffer.feed (b :: bs))
      | .pause ticks :: rest =>
        let m := now.afterPause ticks
        match limits.head?.filter (!m.before ·.felt) with
        | some limit => ⟨.cutOff, now.later limit, rest, buffer, limits⟩
        | none => awaitRecord limits rest m buffer
      | .fault cause :: rest => ⟨.failed cause, now, rest, buffer, now.outlasting limits⟩

/-- The keys, cookies and time server of one key establishment. -/
structure KeyMaterial where
  aead : Aead.Algorithm
  cookies : List Bytes
  keys : KeyPair
  address : Address
deriving DecidableEq

namespace KeyMaterial

/-- The text of key material in messages; the keys stay hidden. -/
def describe (m : KeyMaterial) : String :=
  "NtsKeyMaterial(aead=" ++ m.aead.name ++ s!", cookies={m.cookies.length}, ntp=" ++
    m.address.describe ++ ")"

end KeyMaterial

/-- The label under which the keys are exported. -/
def exporterLabel : String := "EXPORTER-network-time-security"

/-- The protocol that keys are derived for: version 4 of the time protocol. -/
def ntpv4 : Nat := 0

/-- The exporter use for one direction: 0 is client to server, 1 is server to client. -/
def directionExport (aead : Aead.Algorithm) (direction : Nat) : Export :=
  { label := exporterLabel.toUTF8.toList
    length := aead.keyLength
    context := Bytes.ofNat 2 ntpv4 ++ Bytes.ofNat 2 aead.number ++ Bytes.ofNat 1 direction }

/-- Error records in a response end a key establishment. -/
def KeResponse.failure? (r : KeResponse) : Option Fault :=
  if r.errors.isEmpty then none else some (Fault.keServer (Fault.numbers r.errors))

/-- The algorithm that an answer to a request settles on, or the first reason why
no keys can be derived. -/
def negotiate (proposed : List Int) (r : KeResponse) : Except Fault Aead.Algorithm := do
  let negotiation (message : String) : Fault := { kind := .keNegotiation, message }
  if let some f := r.failure? then throw f
  match r.nextProtocol with
  | none => throw (negotiation "Server did not reply with a Next Protocol Negotiation record")
  | some ids =>
    if ids ≠ [ntpv4] then
      throw
        { kind := .unknownNextProtocol
          message := "Server selected next protocol " ++ KeResponse.numbers ids ++ ", expected [0]"
          details := [("next_protocol", Fault.numbers ids)] }
  match r.aead with
  | none => throw (negotiation "Server did not reply with an AEAD Algorithm Negotiation record")
  | some ids =>
    let unknown (message : String) : Fault :=
      { kind := .unknownAead, message, details := [("aead", Fault.numbers ids)] }
    match ids with
    | [id] =>
      if (id : Int) ∉ proposed then
        throw (unknown ("Server selected AEAD " ++ KeResponse.numbers ids ++ ", proposed " ++
          Text.listed (proposed.map toString)))
      match Aead.Algorithm.ofNumber? id with
      | none => throw (unknown s!"AEAD {id} is not supported")
      | some aead =>
        if r.cookies.isEmpty then throw (negotiation "Server did not supply any cookies")
        return aead
    | _ =>
      throw (unknown ("Server selected AEAD " ++ KeResponse.numbers ids ++ ", proposed " ++
        Text.listed (proposed.map toString)))

/-- The time server that a response points to: the one it names, or else the host
of the key establishment and the default port. -/
def KeResponse.addressOr (r : KeResponse) (host : String) (defaultPort : Int) : Address :=
  { host := match r.server with
      | some name => if name.isEmpty then host else name
      | none => host
    port := match r.port with
      | some port => if port = 0 then defaultPort else port
      | none => defaultPort }

namespace Run

/-- The next record of a stream, or none at its end. -/
def receiveRecord (i : Nat) : Run (Option Record) := fun w =>
  let s := w.stream i
  let wait := awaitRecord w.limits s.chunks w.now s.buffer
  let w := { w.setStream i { s with chunks := wait.chunks, buffer := wait.buffer } with
    now := wait.moment }
  (wait.ending, w.overlooking (w.limits.length - wait.limits.length))

/-- Sends records. -/
def sendRecords (i : Nat) (rs : List Record) : Run Unit := sendOctets i (Record.encodeAll rs)

/-- The fault of a stream that ended before End of Message. -/
def endedEarly (rs : List Record) : Fault :=
  if rs.isEmpty then
    { kind := .emptyMessage
      message := "NTS-KE server closed the connection without sending any record" }
  else
    { kind := .unexpectedClose
      message := "NTS-KE closed connection without sending End of Message"
      details := [("records", Fault.count rs.length)] }

/-- The fault of an answer that has only End of Message. -/
def onlyEnd : Fault :=
  { kind := .emptyMessage, message := "NTS-KE response contained only End of Message" }

/-- The fault of an answer with too many records. -/
def tooManyRecords (limit : Int) : Fault :=
  { kind := .keProtocol
    message := s!"NTS-KE response exceeded {limit} records"
    details := [("max_records", .int limit)] }

/-- Reads records up to End of Message, with room for so many more; `rs` are the ones
read so far. -/
def collectFrom (i : Nat) (limit : Int) : Nat → List Record → Run (List Record)
  | room, rs => do
    match ← receiveRecord i with
    | none => fail (endedEarly rs)
    | some r =>
      if r.isEndOfMessage then if rs.isEmpty then fail onlyEnd else return rs
      else if !r.isKnown && r.critical then fail (Fault.unknownCritical r.recordType)
      else
        match room with
        | 0 => fail (tooManyRecords limit)
        | room + 1 => collectFrom i limit room (rs ++ [r])

/-- Reads one answer, End of Message left out. -/
def collect (i : Nat) : Run (List Record) := do
  let s ← read (·.stream i)
  collectFrom i s.maxRecords s.maxRecords.toNat []

/-- Sends records and reads the answer to them. -/
def exchangeRecords (i : Nat) (rs : List Record) : Run KeResponse := do
  sendRecords i rs
  let answer ← collect i
  ofExcept ((KeResponse.ofRecords answer).mapError Fault.ofKeResponseError)

/-- Sends a request and reads the answer, without judging it. -/
def exchangeRequest (i : Nat) (q : KeRequest) : Run KeResponse := do
  let rs ← ofExcept (q.records.mapError Fault.ofRecordBuildError)
  exchangeRecords i rs

/-- The key of one direction. -/
def deriveKey (i : Nat) (aead : Aead.Algorithm) (direction : Nat) : Run Aead.Cipher := do
  let key ← exportKey i (directionExport aead direction)
  ofExcept ((Aead.Cipher.make aead key).mapError Fault.ofKeyError)

/-- The keys of both directions. -/
def deriveKeys (i : Nat) (aead : Aead.Algorithm) : Run KeyPair := do
  let clientToServer ← deriveKey i aead 0
  let serverToClient ← deriveKey i aead 1
  return ⟨clientToServer, serverToClient⟩

/-- A whole key establishment on an open stream. -/
def establish (i : Nat) (q : KeRequest) : Run KeyMaterial := do
  let response ← exchangeRequest i q
  let aead ← ofExcept (negotiate q.aead response)
  let keys ← deriveKeys i aead
  let host ← read (·.stream i |>.address.host)
  let defaultPort ← read (·.settings.defaultPort)
  return ⟨aead, response.cookies, keys, response.addressOr host defaultPort⟩

/-- Opens a stream, establishes keys with the default proposals, and closes it. -/
def establishWith (address : Address) (caFile : Option String) : Run KeyMaterial := do
  let i ← openStream address caFile none
  ensuring (establish i {}) (closeStream i)

end Run

end TimeProbe

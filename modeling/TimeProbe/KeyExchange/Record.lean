import TimeProbe.Packet.Extension

/-!
# Key establishment records

A record is a type of fifteen bits, a critical bit, and a body of up to 65535
octets with its length in front. The body stays as octets, so that unknown and
malformed records can be sent and looked at; the accessors read it on demand.
-/

namespace TimeProbe

/-- The record types with a meaning. -/
inductive RecordType
  | endOfMessage
  | nextProtocol
  | error
  | warning
  | aeadAlgorithm
  | newCookie
  | server
  | port
deriving DecidableEq, Inhabited

namespace RecordType

/-- All types that the protocol defines. -/
def all : List RecordType :=
  [endOfMessage, nextProtocol, error, warning, aeadAlgorithm, newCookie, server, port]

/-- The number of a type. -/
def code : RecordType → Int
  | endOfMessage => 0
  | nextProtocol => 1
  | error => 2
  | warning => 3
  | aeadAlgorithm => 4
  | newCookie => 5
  | server => 6
  | port => 7

/-- The type with a number. -/
def ofCode? (i : Int) : Option RecordType := all.find? (·.code = i)

/-- The name of a type in descriptions. -/
def name : RecordType → String
  | endOfMessage => "END_OF_MESSAGE"
  | nextProtocol => "NEXT_PROTOCOL"
  | error => "ERROR"
  | warning => "WARNING"
  | aeadAlgorithm => "AEAD_ALGORITHM"
  | newCookie => "NEW_COOKIE"
  | server => "SERVER"
  | port => "PORT"

end RecordType

/-- The first run of characters that ASCII cannot write. -/
structure AsciiError where
  first : Nat
  length : Nat
  char : Char
deriving DecidableEq

namespace AsciiError

/-- What the error says. -/
def message (e : AsciiError) : String :=
  let what := if e.length = 1 then
      "character '" ++ Text.escapeCode e.char.toNat ++ s!"' in position {e.first}"
    else
      let last := e.first + e.length - 1
      s!"characters in position {e.first}-{last}"
  "'ascii' codec can't encode " ++ what ++ ": ordinal not in range(128)"

end AsciiError

/-- Whether a character belongs to ASCII. -/
def isAscii (c : Char) : Bool := decide (c.toNat < 128)

/-- A text in ASCII octets. -/
def Bytes.ofAscii? (s : String) : Except AsciiError Bytes :=
  let cs := s.toList
  let plain := cs.takeWhile isAscii
  match cs.dropWhile isAscii with
  | [] => .ok (cs.map fun c => UInt8.ofNat c.toNat)
  | c :: rest => .error ⟨plain.length, 1 + (rest.takeWhile (!isAscii ·)).length, c⟩

/-- One record. -/
structure Record where
  recordType : Int
  critical : Bool := false
  body : Bytes := []
deriving DecidableEq, Inhabited

/-- Why a record cannot be built from its content. -/
inductive RecordBuildError
  | word (error : WordError)
  | text (error : AsciiError)
deriving DecidableEq

/-- Why a body does not fit the layout of its type, or a byte string is no
sequence of records. -/
inductive RecordError
  | oddLength (recordType : Int) (length : Nat)
  | notOneWord (recordType : Int) (length : Nat)
  | notAscii (body : Bytes)
  | trailing (pending : Nat)
deriving DecidableEq

namespace RecordError

/-- What the error says. -/
def message : RecordError → String
  | oddLength recordType length => s!"Record type {recordType} has odd body length {length}"
  | notOneWord recordType length => s!"Record type {recordType} needs a 2 byte body, got {length}"
  | notAscii _ => "Server record is not ASCII"
  | trailing pending => s!"{pending} trailing bytes do not form a complete record"

end RecordError

namespace Record

/-- The octets in front of a body. -/
def headerLength : Nat := 4

/-- Identifiers as sixteen bit words, each reduced to its width. -/
def words (ids : List Int) : Bytes := ids.flatMap (Bytes.ofInt 2)

/-- The record that ends a message. -/
def endOfMessage : Record := ⟨RecordType.endOfMessage.code, true, []⟩

/-- A record with protocols. -/
def nextProtocol (ids : List Int) : Record := ⟨RecordType.nextProtocol.code, true, words ids⟩

/-- A record with algorithms. -/
def aeadAlgorithm (ids : List Int) (critical : Bool) : Record :=
  ⟨RecordType.aeadAlgorithm.code, critical, words ids⟩

/-- A record whose body is one number, which has to fit into a word. -/
def ofWord (recordType : RecordType) (critical : Bool) (value : Int) :
    Except RecordBuildError Record :=
  match Bytes.word? value with
  | .ok body => .ok ⟨recordType.code, critical, body⟩
  | .error e => .error (.word e)

/-- A record with an error code. -/
def error (code : Int) : Except RecordBuildError Record := ofWord .error true code

/-- A record with a warning code. -/
def warning (code : Int) : Except RecordBuildError Record := ofWord .warning true code

/-- A record with a cookie. -/
def newCookie (cookie : Bytes) : Record := ⟨RecordType.newCookie.code, false, cookie⟩

/-- The name of a time server, which has to be ASCII. -/
def server (name : String) (critical : Bool) : Except RecordBuildError Record :=
  match Bytes.ofAscii? name with
  | .ok body => .ok ⟨RecordType.server.code, critical, body⟩
  | .error e => .error (.text e)

/-- A record with a port. -/
def port (value : Int) (critical : Bool) : Except RecordBuildError Record :=
  ofWord .port critical value

/-- Whether the type has a meaning. -/
def isKnown (r : Record) : Bool := (RecordType.ofCode? r.recordType).isSome

/-- Whether a record ends a message. -/
def isEndOfMessage (r : Record) : Bool := r.recordType == RecordType.endOfMessage.code

/-- The words of an even number of octets. -/
def splitWords : Bytes → List Nat
  | a :: b :: rest => Bytes.toNat [a, b] :: splitWords rest
  | _ => []

/-- The body as a list of identifiers. -/
def idList (r : Record) : Except RecordError (List Nat) :=
  if r.body.length % 2 = 0 then .ok (splitWords r.body)
  else .error (.oddLength r.recordType r.body.length)

/-- The body as one number. -/
def word (r : Record) : Except RecordError Nat :=
  if r.body.length = 2 then .ok (Bytes.toNat r.body)
  else .error (.notOneWord r.recordType r.body.length)

/-- The body as ASCII text. -/
def text (r : Record) : Except RecordError String :=
  if r.body.all (·.toNat < 128) then
    .ok (String.ofList (r.body.map fun b => Char.ofNat b.toNat))
  else .error (.notAscii r.body)

/-- The octets of a record, under the length it has or another one. -/
def encodeAs (length : Int) (r : Record) : Bytes :=
  let critical : Int := if r.critical then 0x8000 else 0
  Bytes.ofInt 2 (r.recordType % 0x8000 + critical) ++ Bytes.ofInt 2 length ++ r.body

/-- The octets of a record. -/
def encode (r : Record) : Bytes := r.encodeAs r.body.length

/-- The octets of several records. -/
def encodeAll (rs : List Record) : Bytes := rs.flatMap encode

/-- The first record of a byte string and the octets behind it, if it is complete. -/
def next? : Bytes → Option (Record × Bytes)
  | t1 :: t0 :: n1 :: n0 :: rest =>
    let kind := Bytes.toNat [t1, t0]
    let length := Bytes.toNat [n1, n0]
    let body := rest.take length
    if body.length < length then none
    else some (⟨kind % 0x8000, decide (0x8000 ≤ kind), body⟩, rest.drop length)
  | _ => none

/-- A record takes at least its header from the octets. -/
theorem length_rest_lt {data rest : Bytes} {r : Record} (h : next? data = some (r, rest)) :
    rest.length < data.length := by
  unfold next? at h
  split at h
  · simp only [Option.ite_none_left_eq_some, Option.some.injEq, Prod.mk.injEq] at h
    obtain ⟨_, _, rfl⟩ := h
    simp only [List.length_drop, List.length_cons]
    omega
  · exact absurd h (by simp)

/-- The complete records at the front of a byte string, and the octets left over. -/
def takeAll (data : Bytes) : List Record × Bytes :=
  match _h : next? data with
  | none => ([], data)
  | some (r, rest) =>
    let (rs, left) := takeAll rest
    (r :: rs, left)
termination_by data.length
decreasing_by exact length_rest_lt _h

/-- The records of a byte string that holds nothing else. -/
def decodeAll (data : Bytes) : Except RecordError (List Record) :=
  let (rs, left) := takeAll data
  if left.isEmpty then .ok rs else .error (.trailing left.length)

/-- The text of a record in messages; an exclamation mark stands for the critical bit. -/
def describe (r : Record) : String :=
  let name := match RecordType.ofCode? r.recordType with
    | some t => t.name
    | none => toString r.recordType
  let flag := if r.critical then "!" else ""
  "NtsKeRecord(" ++ flag ++ name ++ ", " ++ Bytes.hex r.body ++ ")"

end Record

/-- Octets received but not yet read as records. -/
structure RecordBuffer where
  octets : Bytes := []
deriving DecidableEq, Inhabited

namespace RecordBuffer

/-- The buffer with more octets behind its own. -/
def feed (b : RecordBuffer) (data : Bytes) : RecordBuffer := ⟨b.octets ++ data⟩

/-- The number of octets that no record was made of yet. -/
def pending (b : RecordBuffer) : Nat := b.octets.length

/-- The next complete record, which leaves the buffer. -/
def next? (b : RecordBuffer) : Option (Record × RecordBuffer) :=
  (Record.next? b.octets).map fun (r, rest) => (r, ⟨rest⟩)

end RecordBuffer

end TimeProbe

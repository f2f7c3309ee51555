import TimeProbe.KeyExchange.Record

/-!
# Key establishment responses

The records of an answer are folded into one response. Errors, warnings, cookies
and unknown records are collected; the other types may occur once. The first
record that offends ends the fold, and a malformed body wins over a duplicate.
-/

namespace TimeProbe

/-- The content of an answer. -/
structure KeResponse where
  nextProtocol : Option (List Nat) := none
  aead : Option (List Nat) := none
  errors : List Nat := []
  warnings : List Nat := []
  cookies : List Bytes := []
  server : Option String := none
  port : Option Nat := none
  ignored : List Record := []
deriving DecidableEq, Inhabited

/-- Why records make no response. -/
inductive KeResponseError
  | malformed (error : RecordError)
  | duplicate (label : String)
  | endInside
  | unknownCritical (recordType : Int)
deriving DecidableEq

namespace KeResponseError

/-- What the error says. -/
def message : KeResponseError → String
  | malformed e => e.message
  | duplicate label => "Response included more than one " ++ label ++ " record"
  | endInside => "End of Message record inside a message"
  | unknownCritical recordType => s!"Server sent unknown critical record type {recordType}"

end KeResponseError

namespace KeResponse

/-- The content of a body, under the error type of the fold. -/
def readBody {α : Type} : Except RecordError α → Except KeResponseError α
  | .ok a => .ok a
  | .error e => .error (.malformed e)

/-- A single value, refused where there is one already. -/
def once {α : Type} (label : String) (old : Option α) (value : α) :
    Except KeResponseError (Option α) :=
  match old with
  | some _ => .error (.duplicate label)
  | none => .ok (some value)

/-- The response with one more record. -/
def add (response : KeResponse) (r : Record) : Except KeResponseError KeResponse :=
  match RecordType.ofCode? r.recordType with
  | some .nextProtocol => do
    let ids ← readBody r.idList
    let ids ← once "Next Protocol Negotiation" response.nextProtocol ids
    return { response with nextProtocol := ids }
  | some .aeadAlgorithm => do
    let ids ← readBody r.idList
    let ids ← once "AEAD Algorithm Negotiation" response.aead ids
    return { response with aead := ids }
  | some .error => do
    let code ← readBody r.word
    return { response with errors := response.errors ++ [code] }
  | some .warning => do
    let code ← readBody r.word
    return { response with warnings := response.warnings ++ [code] }
  | some .newCookie => return { response with cookies := response.cookies ++ [r.body] }
  | some .server => do
    let name ← readBody r.text
    let name ← once "NTPv4 Server Negotiation" response.server name
    return { response with server := name }
  | some .port => do
    let value ← readBody r.word
    let value ← once "NTPv4 Port Negotiation" response.port value
    return { response with port := value }
  | some .endOfMessage => throw .endInside
  | none =>
    if r.critical then throw (.unknownCritical r.recordType)
    else return { response with ignored := response.ignored ++ [r] }

/-- The response that a list of records makes, End of Message left out. -/
def ofRecords (rs : List Record) : Except KeResponseError KeResponse := rs.foldlM add {}

/-- The text of an optional value. -/
def optional {α : Type} (text : α → String) : Option α → String
  | some a => text a
  | none => "None"

/-- The text of a list of numbers. -/
def numbers (ns : List Nat) : String := Text.listed (ns.map toString)

/-- The text of a response in messages. -/
def describe (r : KeResponse) : String :=
  "NtsKeResponse(" ++ String.intercalate ", " [
    "next_protocol=" ++ optional numbers r.nextProtocol,
    "aead=" ++ optional numbers r.aead,
    "errors=" ++ numbers r.errors,
    "warnings=" ++ numbers r.warnings,
    "cookies=" ++ Text.listed (r.cookies.map Text.quotedBytes),
    "server=" ++ optional Text.quoted r.server,
    "port=" ++ optional toString r.port,
    "ignored=" ++ Text.listed (r.ignored.map (·.describe))] ++ ")"

end KeResponse

end TimeProbe

import TimeProbe.Nts.Protection
import TimeProbe.Packet.Timestamp
import TimeProbe.Value

/-!
# Faults

A fault is what ends a step of a run before its result. Its kind stands in a
hierarchy, so that a runner can tell a server that misbehaves from a broken
environment; `isA` is that hierarchy. The errors of the pure layers become
faults here, with the details that a report may show.
-/

namespace TimeProbe

/-- The kinds of faults. -/
inductive FaultKind
  -- the prober's own faults
  | own
  | configuration
  | targetResolution
  | decode
  | truncated
  | extensionLength
  | unsupportedVersion
  | invalidRecord
  | keyExchange
  | keConnect
  | keCertificate
  | unknownCriticalRecord
  | keNegotiation
  | keServer
  | unknownNextProtocol
  | unknownAead
  | emptyMessage
  | unexpectedClose
  | keProtocol
  | nts
  | ntsAuthentication
  | cookiePoolExhausted
  | transport
  | send
  | receiveTimeout
  | testFailure
  | testSkipped
  | reportFinalized
  -- faults of the system and of the network
  | os
  | connection
  | connectionAborted
  | connectionRefused
  | connectionReset
  | brokenPipe
  | permission
  | timeout
  | wouldBlock
  | interrupted
  | noChild
  | noProcess
  | fileExists
  | fileMissing
  | directory
  | noDirectory
  | addressLookup
  -- faults of TLS
  | tls
  | tlsWantRead
  | tlsZeroReturn
  | certificateMismatch
  -- other faults of a computation
  | other
  | value
  | unicode
  | unicodeEncode
  | validation
  | runtime
  | lookup
  | index
  | key
  | type
  | noAttribute
  | arithmetic
  | overflow
  | zeroDivision
  | packing
  -- the user's interrupt, which no handler of a run stops
  | interrupt
deriving DecidableEq, Inhabited

namespace FaultKind

/-- All kinds of faults. -/
def all : List FaultKind :=
  [own, configuration, targetResolution, decode, truncated, extensionLength,
    unsupportedVersion, invalidRecord, keyExchange, keConnect, keCertificate,
    unknownCriticalRecord, keNegotiation, keServer, unknownNextProtocol, unknownAead,
    emptyMessage, unexpectedClose, keProtocol, nts, ntsAuthentication, cookiePoolExhausted,
    transport, send, receiveTimeout, testFailure, testSkipped, reportFinalized, os, connection,
    connectionAborted, connectionRefused, connectionReset, brokenPipe, permission, timeout,
    wouldBlock, interrupted, noChild, noProcess, fileExists, fileMissing, directory, noDirectory,
    addressLookup, tls, tlsWantRead, tlsZeroReturn, certificateMismatch, other, value, unicode,
    unicodeEncode, validation, runtime, lookup, index, key, type, noAttribute, arithmetic,
    overflow, zeroDivision, packing, interrupt]

/-- The next more general kind. -/
def parent? : FaultKind → Option FaultKind
  | own => some other
  | configuration => some own
  | targetResolution => some configuration
  | decode => some own
  | truncated => some decode
  | extensionLength => some decode
  | unsupportedVersion => some decode
  | invalidRecord => some decode
  | keyExchange => some own
  | keConnect => some keyExchange
  | keCertificate => some keyExchange
  | unknownCriticalRecord => some keyExchange
  | keNegotiation => some keyExchange
  | keServer => some keNegotiation
  | unknownNextProtocol => some keNegotiation
  | unknownAead => some keNegotiation
  | emptyMessage => some keyExchange
  | unexpectedClose => some keyExchange
  | keProtocol => some keyExchange
  | nts => some own
  | ntsAuthentication => some nts
  | cookiePoolExhausted => some nts
  | transport => some own
  | send => some transport
  | receiveTimeout => some transport
  | testFailure => some own
  | testSkipped => some own
  | reportFinalized => some own
  | os => some other
  | connection => some os
  | connectionAborted => some connection
  | connectionRefused => some connection
  | connectionReset => some connection
  | brokenPipe => some connection
  | permission => some os
  | timeout => some os
  | wouldBlock => some os
  | interrupted => some os
  | noChild => some os
  | noProcess => some os
  | fileExists => some os
  | fileMissing => some os
  | directory => some os
  | noDirectory => some os
  | addressLookup => some os
  | tls => some other
  | tlsWantRead => some tls
  | tlsZeroReturn => some tls
  | certificateMismatch => some other
  | other => none
  | value => some other
  | unicode => some value
  | unicodeEncode => some unicode
  | validation => some value
  | runtime => some other
  | lookup => some other
  | index => some lookup
  | key => some lookup
  | type => some other
  | noAttribute => some other
  | arithmetic => some other
  | overflow => some arithmetic
  | zeroDivision => some arithmetic
  | packing => some other
  | interrupt => none

/-- Whether a kind is another one or a special case of it, within so many steps. -/
def reaches (general : FaultKind) : Nat → FaultKind → Bool
  | 0, _ => false
  | steps + 1, kind =>
    kind == general || match kind.parent? with
      | some next => reaches general steps next
      | none => false

/-- Whether a kind is another one or a special case of it. -/
def isA (kind general : FaultKind) : Bool := reaches general 5 kind

/-- The name of a kind in messages. -/
def name : FaultKind → String
  | own => "PesterError"
  | configuration => "ConfigurationError"
  | targetResolution => "TargetResolutionError"
  | decode => "DecodeError"
  | truncated => "TruncatedError"
  | extensionLength => "InvalidExtensionLength"
  | unsupportedVersion => "UnsupportedVersion"
  | invalidRecord => "InvalidRecord"
  | keyExchange => "NtsKeError"
  | keConnect => "NtsKeConnectError"
  | keCertificate => "NtsKeCertificateError"
  | unknownCriticalRecord => "UnknownCriticalRecord"
  | keNegotiation => "NtsKeNegotiationError"
  | keServer => "NtsKeServerError"
  | unknownNextProtocol => "UnknownNextProtocol"
  | unknownAead => "UnknownAead"
  | emptyMessage => "EmptyMessage"
  | unexpectedClose => "UnexpectedClose"
  | keProtocol => "NtsKeProtocolError"
  | nts => "NtsError"
  | ntsAuthentication => "NtsAuthenticationError"
  | cookiePoolExhausted => "CookiePoolExhausted"
  | transport => "TransportError"
  | send => "SendError"
  | receiveTimeout => "ReceiveTimeoutError"
  | testFailure => "TestFailure"
  | testSkipped => "TestSkipped"
  | reportFinalized => "ReportFinalizedError"
  | os => "OSError"
  | connection => "ConnectionError"
  | connectionAborted => "ConnectionAbortedError"
  | connectionRefused => "ConnectionRefusedError"
  | connectionReset => "ConnectionResetError"
  | brokenPipe => "BrokenPipeError"
  | permission => "PermissionError"
  | timeout => "TimeoutError"
  | wouldBlock => "BlockingIOError"
  | interrupted => "InterruptedError"
  | noChild => "ChildProcessError"
  | noProcess => "ProcessLookupError"
  | fileExists => "FileExistsError"
  | fileMissing => "FileNotFoundError"
  | directory => "IsADirectoryError"
  | noDirectory => "NotADirectoryError"
  | addressLookup => "gaierror"
  | tls => "Error"
  | tlsWantRead => "WantReadError"
  | tlsZeroReturn => "ZeroReturnError"
  | certificateMismatch => "CertificateError"
  | other => "Exception"
  | value => "ValueError"
  | unicode => "UnicodeError"
  | unicodeEncode => "UnicodeEncodeError"
  | validation => "ValidationError"
  | runtime => "RuntimeError"
  | lookup => "LookupError"
  | index => "IndexError"
  | key => "KeyError"
  | type => "TypeError"
  | noAttribute => "AttributeError"
  | arithmetic => "ArithmeticError"
  | overflow => "OverflowError"
  | zeroDivision => "ZeroDivisionError"
  | packing => "error"
  | interrupt => "KeyboardInterrupt"

/-- The kind of system fault that an error number stands for. -/
def ofErrorNumber : Int → FaultKind
  | 1 | 13 => permission
  | 2 => fileMissing
  | 3 => noProcess
  | 4 => interrupted
  | 10 => noChild
  | 11 | 114 | 115 => wouldBlock
  | 17 => fileExists
  | 20 => noDirectory
  | 21 => directory
  | 32 | 108 => brokenPipe
  | 103 => connectionAborted
  | 104 => connectionReset
  | 110 => timeout
  | 111 => connectionRefused
  | _ => os

/-- Whether a fault of the kind marks a datagram as invalid rather than missing. -/
def isInvalidReply (kind : FaultKind) : Bool :=
  kind.isA .decode || kind.isA .ntsAuthentication

end FaultKind

/-- A fault: its kind, its message, and what it knows about its cause. -/
structure Fault where
  kind : FaultKind
  message : String := ""
  details : List (String × Value) := []
  /-- The offending datagram, where an exchange met one. -/
  datagram : Option Bytes := none
  /-- What a failed test wants shown. -/
  response : Value := .absent
  /-- The arguments as they were given, for the kinds where they are looked at again: the
  user's interrupt, and the verdict of a test. -/
  arguments : List Value := []
deriving Inhabited

namespace Fault

/-- A value for a natural number. -/
def count (n : Nat) : Value := .int n

/-- A value for a list of numbers. -/
def numbers (ns : List Nat) : Value := .list (ns.map count)

/-- A place behind the last member of a list. -/
def beyondEnd : Fault := { kind := .index, message := "list index out of range" }

/-- A value with which a computation cannot go on, by the complaint about it. -/
def badValue (complaint : String) : Fault := { kind := .value, message := complaint }

/-- A value, as it is shown, that is no member of an enumeration. -/
def noMember (enumeration shown : String) : Fault :=
  badValue (shown ++ " is not a valid " ++ enumeration)

/-- A test that the server failed. -/
def failure (reason : String) (response : Value := .absent) : Fault :=
  { kind := .testFailure, message := reason, response }

/-- A test that cannot run. -/
def skipped (reason : String) : Fault := { kind := .testSkipped, message := reason }

/-- The fault of a number that fits no word. -/
def ofWordError (e : WordError) : Fault := { kind := .packing, message := e.message }

/-- The fault of a time that has no timestamp. -/
def ofTimeError (e : Timestamp.Undefined) : Fault :=
  { kind := if e = .infinite then .overflow else .value, message := e.message }

/-- The fault of octets that are no extension field. -/
def ofExtensionError (e : ExtensionError) : Fault :=
  { kind := .extensionLength
    message := e.message
    details := match e with
      | .noHeader offset _ => [("offset", .int offset)]
      | .badLength offset length => [("offset", .int offset), ("length", count length)]
      | .overrun offset length remaining =>
        [("offset", .int offset), ("length", count length), ("remaining", count remaining)] }

/-- The fault of an offset at which no field header can be read. -/
def ofOffsetError (e : OffsetError) : Fault := { kind := .packing, message := e.message }

/-- The fault of octets that are no packet. -/
def ofPacketError (e : PacketError) : Fault :=
  match e with
  | .truncated length =>
    { kind := .truncated, message := e.message, details := [("length", count length)] }
  | .unsupportedVersion version =>
    { kind := .unsupportedVersion, message := e.message, details := [("version", count version)] }
  | .extension e => ofExtensionError e

/-- The fault of octets that are no content of an authenticator field. -/
def ofAuthenticatorError (e : AuthenticatorError) : Fault :=
  { kind := .extensionLength
    message := e.message
    details := match e with
      | .tooShort => []
      | .emptyNonce => [("nonce_len", count 0)]
      | .overrun nonceLength ciphertextLength fieldLength =>
        [("nonce_len", count nonceLength), ("ciphertext_len", count ciphertextLength),
          ("field_len", count fieldLength)] }

/-- The fault of a key of the wrong length. -/
def ofKeyError (e : Aead.Cipher.KeyError) : Fault :=
  badValue (e.algorithm.name ++ s!" needs a {e.algorithm.keyLength} byte key, got {e.length}")

/-- The fault of a ciphertext that does not open. -/
def ofDecryptError : Aead.Cipher.DecryptError → Fault
  | .shorterThanTag length =>
    { kind := .ntsAuthentication
      message := s!"Ciphertext of {length} bytes is shorter than the SIV tag"
      details := [("length", count length)] }
  | .emptyNonce =>
    { kind := .ntsAuthentication
      message := "AEAD authentication failed"
      details := [("error", .text "When provided, the nonce must be non-empty")] }
  | .rejected =>
    { kind := .ntsAuthentication
      message := "AEAD authentication failed"
      details := [("error", .text "MAC check failed")] }

/-- The fault of a datagram that is no valid reply. -/
def ofReplyError : ReplyError → Fault
  | .packet e => ofPacketError e
  | .authenticator e => ofAuthenticatorError e
  | .cipher e => ofDecryptError e
  | .encrypted e => ofExtensionError e

/-- The fault of octets that are no record, or no record of the kind asked for. -/
def ofRecordError (e : RecordError) : Fault :=
  { kind := .invalidRecord
    message := e.message
    details := match e with
      | .oddLength recordType _ => [("record_type", .int recordType)]
      | .notOneWord recordType _ => [("record_type", .int recordType)]
      | .notAscii body => [("body", .text (Bytes.hex body))]
      | .trailing pending => [("pending", count pending)] }

/-- The fault of values from which no record can be built. -/
def ofRecordBuildError : RecordBuildError → Fault
  | .word e => ofWordError e
  | .text e => { kind := .unicodeEncode, message := e.message }

/-- An unknown record type with the critical bit. -/
def unknownCritical (recordType : Int) : Fault :=
  { kind := .unknownCriticalRecord
    message := (KeResponseError.unknownCritical recordType).message
    details := [("record_type", .int recordType)] }

/-- The fault of records that make no response. -/
def ofKeResponseError (e : KeResponseError) : Fault :=
  match e with
  | .malformed e => ofRecordError e
  | .duplicate label =>
    { kind := .keNegotiation, message := e.message, details := [("record", .text label)] }
  | .endInside => { kind := .keProtocol, message := e.message }
  | .unknownCritical recordType => unknownCritical recordType

/-- Error records of a server. -/
def keServer (codes : Value) : Fault :=
  { kind := .keServer
    message := "Server replied with error codes " ++ codes.literal
    details := [("codes", codes)] }

/-- The fault of a comparison between values that have no order. -/
def ofUnordered (operator : String) (e : Value.Unordered) : Fault :=
  { kind := .type
    message := "'" ++ operator ++ "' not supported between instances of '" ++ e.left ++
      "' and '" ++ e.right ++ "'" }

/-- The file that an argument of a system fault names, in quotes. The number of octets
written so far may stand there too, where a call would block. -/
def fileName (kind : FaultKind) (file : Value) : Option String :=
  match file, file.number? with
  | .absent, _ => none
  | _, some _ => if kind = .wouldBlock then none else some file.literal
  | _, none => some file.literal

/-- How a system fault names the files it is about: the third argument and the fifth. -/
def filesOf (kind : FaultKind) : List Value → String
  | [] => ""
  | file :: rest =>
    match fileName kind file, rest with
    | none, _ => ""
    | some name, [_, .absent] => ": " ++ name
    | some name, [_, second] => ": " ++ name ++ " -> " ++ second.literal
    | some name, _ => ": " ++ name

/-- How a fault built from arguments words its message. A system fault with two to five
arguments starts with an error number and its meaning; of any other fault a missing key
is quoted, one argument stands as it is, and several are shown together. -/
def messageOf (kind : FaultKind) (arguments : List Value) : String :=
  match arguments with
  | [] => ""
  | [a] => if kind = .key then a.literal else a.display
  | number :: meaning :: files =>
    if kind.isA .os && files.length ≤ 3 then
      "[Errno " ++ number.display ++ "] " ++ meaning.display ++ filesOf kind files
    else (Value.tuple arguments).literal

/-- The kind that the arguments of a plain system fault stand for: with two to five of
them the first is the error number. -/
def kindOf (kind : FaultKind) (arguments : List Value) : FaultKind :=
  if kind = .os && 2 ≤ arguments.length && arguments.length ≤ 5 then
    match arguments.head? with
    | some (.int n) => .ofErrorNumber n
    | some (.bool true) => .ofErrorNumber 1
    | _ => kind
  else kind

/-- The details that the second argument of one of the prober's own faults holds. -/
def detailsOf : List Value → List (String × Value)
  | _ :: .object details :: _ => details
  | _ => []

/-- The argument of a kind of fault that takes exactly one. -/
def soleArgument? : FaultKind → Option String
  | .unsupportedVersion => some "version"
  | .unknownCriticalRecord => some "record_type"
  | .keServer => some "codes"
  | .testSkipped => some "reason"
  | _ => none

/-- What is wrong with the number of arguments of one of the prober's own faults: most take
a message, with or without details. -/
def miscount? (kind : FaultKind) (given : Nat) : Option String :=
  match soleArgument? kind, given with
  | some argument, 0 =>
    some (kind.name ++ ".__init__() missing 1 required positional argument: '" ++ argument ++ "'")
  | some _, 1 => none
  | some _, n =>
    some (kind.name ++ s!".__init__() takes 2 positional arguments but {n + 1} were given")
  | none, 0 => some "PesterError.__init__() missing 1 required positional argument: 'message'"
  | none, n =>
    if n ≤ 2 then none
    else some ("PesterError.__init__() takes from 2 to 3 positional arguments but " ++
      s!"{n + 1} were given")

/-- The list of what a value holds one after the other; a value that holds nothing in a row
is a fault. -/
def listed : Value → Except Fault Value
  | .list vs => .ok (.list vs)
  | .tuple vs => .ok (.list vs)
  | .text s => .ok (.list (s.toList.map fun c => .text (String.ofList [c])))
  | .object members => .ok (.list (members.map fun (k, _) => .text k))
  | v => .error { kind := .type, message := "'" ++ v.typeName ++ "' object is not iterable" }

/-- One of the prober's own faults, from as many arguments as it takes. -/
def ofOwnArguments (kind : FaultKind) (arguments : List Value) : Fault :=
  match kind, arguments with
  | .unsupportedVersion, version :: _ =>
    { kind, message := "Unsupported NTP version " ++ version.display
      details := [("version", version)] }
  | .unknownCriticalRecord, recordType :: _ =>
    { kind, message := "Server sent unknown critical record type " ++ recordType.display
      details := [("record_type", recordType)] }
  | .keServer, codes :: _ =>
    match listed codes with
    | .ok codes => keServer codes
    | .error f => f
  | .testSkipped, _ => { kind, message := messageOf kind arguments, arguments }
  | _, _ =>
    { kind, message := messageOf kind (arguments.take 1), details := detailsOf arguments }

/-- The fault of a kind that arguments describe. -/
def ofArguments (kind : FaultKind) (arguments : List Value) : Fault :=
  if kind = .testFailure then
    { kind, message := messageOf kind (arguments.take 1), arguments := arguments.take 1 }
  else if kind.isA .own then
    match miscount? kind arguments.length with
    | some message => { kind := .type, message }
    | none => ofOwnArguments kind arguments
  else
    let kind := kindOf kind arguments
    { kind, message := messageOf kind arguments
      arguments := if kind = .interrupt then arguments else [] }

end Fault

end TimeProbe

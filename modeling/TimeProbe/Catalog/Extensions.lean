import TimeProbe.Case.Basic
import TimeProbe.Packet.Poll
import TimeProbe.Packet.Raw

/-!
# Extension fields without time security

A server ignores fields that it does not know, returns a unique identifier as it
came, and drops a request whose field claims more octets than there are.
-/

namespace TimeProbe.Catalog.Extensions

/-- The unique identifier of the requests: the octets from 0 to 31. -/
def identifierOctets : Bytes := (List.range 32).map UInt8.ofNat

/-- A reply to an unknown field has to come without fields. -/
def judgeUnknown (p : Packet) : Except Fault Unit :=
  match p.extensionFields with
  | [] => .ok ()
  | f :: _ =>
    .error (Fault.failure
      ("Received an extension field in response to an invalid extension field. (EF: " ++
        f.describe ++ ")") (.packet p))

/-- A reply has to hold exactly the unique identifier of its request. -/
def judgeUid (uid : ExtensionField) (p : Packet) : Except Fault Unit := do
  let fields := p.extensionFields
  Expect.that (0 < fields.length) "Server did not reply with unique id EF" (.packet p)
  Expect.less (.int fields.length) (.int 2)
    ("Too many extension fields provided by server (Fields: " ++
      Text.listed (fields.map (·.describe)) ++ ")") (.packet p)
  match fields with
  | f :: _ =>
    Expect.equal (.field f) (.field uid) "Response UID does not match request" (.packet p)
  | [] => .ok ()

/-- Polls with one extra field and judges the reply. -/
def pollWith (field : ExtensionField) (judge : Packet → Except Fault Unit) (i : Nat) :
    Run Unit := do
  let (request, identifier) ← Run.drawing fun e => Packet.freshPoll e
  let reply ← Expect.reply
    (Run.exchangePacket i (request.withFields [field]) (some identifier) none)
  Expect.check (judge reply)

/-- The case of a field of an unknown type. -/
def unknownExtensionsAreIgnored : TestCase :=
  .plain "extensions.test_unknown_extensions_are_ignored"
    "Test if a server ignores unknown extensions." (pollWith ⟨0, [], none⟩ judgeUnknown)

/-- The case of an identifier without time security. -/
def uniqueIdIsReturned : TestCase :=
  let uid := ExtensionField.uniqueIdentifier identifierOctets
  .plain "extensions.test_unique_id_is_returned"
    "Test if a server returns a unique id field as is even without NTS."
    (pollWith uid (judgeUid uid))

/-- A poll whose field claims 1024 octets. -/
def overlong (request : Packet) : RawPacket :=
  [.header request,
    .field ExtensionType.uniqueIdentifier.code identifierOctets (some 1024) true]

/-- The case of a field longer than its datagram. -/
def invalidExtensionLengthIsIgnored : TestCase :=
  .plain "extensions.test_invalid_extension_length_is_ignored"
    "A request whose extension field claims more bytes than the datagram holds" fun i => do
    let (request, _) ← Run.drawing fun e => Packet.freshPoll e
    Run.sendDatagram i (overlong request).encode
    Expect.silence (Run.receiveAnything i none)
      "Server answered a request with an overlong extension field"

/-- The cases of this module. -/
def all : List TestCase :=
  [unknownExtensionsAreIgnored, uniqueIdIsReturned, invalidExtensionLengthIsIgnored]

end TimeProbe.Catalog.Extensions

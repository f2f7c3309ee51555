import TimeProbe.Case.Basic

/-!
# Key establishment

A server answers a valid request in full, ignores proposals that it does not know,
and answers with empty lists or with an error where nothing else is left.
-/

namespace TimeProbe.Catalog.KeyExchange

/-- An identifier that no server supports. -/
def reservedId : Int := 0xffff

/-- The code for a request that the server cannot understand. -/
def badRequest : Int := 1

/-- The number of cookies that a server supplies. -/
def suppliedCookies : Nat := 8

/-- A list of numbers that may be absent. -/
def numbers? : Option (List Nat) → Value
  | some ns => Fault.numbers ns
  | none => .absent

/-- The answer to a valid request: what was asked for, no complaints, and cookies. -/
def judgeHappy (r : KeResponse) : Except Fault Unit := do
  Expect.equal (numbers? r.nextProtocol) (Fault.numbers [0])
    "Server did reply with different protocols then we asked for" (.response r)
  Expect.equal (numbers? r.aead) (Fault.numbers [15])
    "Server did reply with different AEAD then we asked for" (.response r)
  Expect.that r.errors.isEmpty "Server did reply with error code to normal request" (.response r)
  Expect.that r.warnings.isEmpty "Server did reply with warning code to normal request"
    (.response r)
  Expect.equal (.int r.cookies.length) (.int suppliedCookies) "Server did not reply with 8 cookies"
    (.response r)

/-- Sends a request and judges the answer. -/
def ask (q : KeRequest) (judge : KeResponse → Except Fault Unit) (i : Nat) : Run Unit := do
  let response ← Run.exchangeRequest i q
  Expect.check (judge response)

/-- The case of an ordinary request. -/
def happy : TestCase :=
  .onStream "nts_ke.happy" "Check that the server responds with a valid response to a valid request"
    (ask {} judgeHappy)

/-- The case of unknown protocols only. -/
def errorOnUnknownNextProtocol : TestCase :=
  .onStream "nts_ke.error_on_unknown_next_protocol"
    "Only unknown next protocols proposed: the server answers an empty list"
    (ask { nextProtocol := [reservedId] } fun r =>
      Expect.equal (numbers? r.nextProtocol) (Fault.numbers [])
        "Server did not respond with empty next protocol" (.response r))

/-- The case of unknown protocols beside a known one. -/
def ignoreUnknownExtraProtocols : TestCase :=
  .onStream "nts_ke.ignore_unknown_extra_protocols"
    "Check that the server ignores unknown protocols."
    (ask { nextProtocol := [reservedId, 0] } fun r =>
      Expect.equal (numbers? r.nextProtocol) (Fault.numbers [0])
        "Server did not respond with expected next protocol" (.response r))

/-- The case of unknown algorithms only. -/
def errorOnUnknownAead : TestCase :=
  .onStream "nts_ke.error_on_unknown_aead"
    "Only unknown AEAD algorithms proposed: the server answers an empty list"
    (ask { aead := [reservedId] } fun r =>
      Expect.equal (numbers? r.aead) (Fault.numbers [])
        "Server did not respond with empty aead" (.response r))

/-- The case of unknown algorithms beside a known one. -/
def ignoreUnknownExtraAead : TestCase :=
  .onStream "nts_ke.ignore_unknown_extra_aead"
    "Check that the server ignores unknown AEAD algorithms."
    (ask { aead := [reservedId, 15] } fun r =>
      Expect.equal (numbers? r.aead) (Fault.numbers [15])
        "Server did not respond with expected aead" (.response r))

/-- The case of a message without content. -/
def emptyMessageResolvesInError : TestCase :=
  .onStream "nts_ke.empty_message_resolves_in_error"
    "Check that the server replies with an error message even to an invalid request." fun i => do
    let response ← Run.exchangeRecords i [Record.endOfMessage]
    Expect.check (Expect.equal (Fault.numbers response.errors) (.list [.int badRequest])
      "Server did not respond with error to empty message" (.response response))

/-- The cases of this module. -/
def all : List TestCase :=
  [happy, errorOnUnknownNextProtocol, ignoreUnknownExtraProtocols, errorOnUnknownAead,
    ignoreUnknownExtraAead, emptyMessageResolvesInError]

end TimeProbe.Catalog.KeyExchange

import TimeProbe.Network.Run

/-!
# Expectations

A test states what it expects and why. An expectation that does not hold fails the
test with a reason that shows the values, and with the response to blame.
-/

namespace TimeProbe.Expect

/-- Fails unless a condition holds. -/
def that (condition : Bool) (reason : String) (response : Value := .absent) :
    Except Fault Unit :=
  if condition then .ok () else .error (Fault.failure reason response)

/-- Fails unless a value counts as true. -/
def truth (condition : Value) (reason : String) (response : Value := .absent) :
    Except Fault Unit :=
  that condition.truth reason response

/-- Fails unless two values are equal. -/
def equal (actual expected : Value) (reason : String) (response : Value := .absent) :
    Except Fault Unit :=
  that (actual.same expected)
    ("expected " ++ expected.literal ++ ", actual " ++ actual.literal ++ ": " ++ reason) response

/-- Fails unless a value is greater than a bound. -/
def greater (actual bound : Value) (reason : String) (response : Value := .absent) :
    Except Fault Unit :=
  match bound.precedes actual with
  | .error e => .error (Fault.ofUnordered ">" ⟨e.right, e.left⟩)
  | .ok holds =>
    that holds
      ("value " ++ actual.literal ++ " not greater than " ++ bound.literal ++ ": " ++ reason)
      response

/-- Fails unless a value is less than a bound. -/
def less (actual bound : Value) (reason : String) (response : Value := .absent) :
    Except Fault Unit :=
  match actual.precedes bound with
  | .error e => .error (Fault.ofUnordered "<" e)
  | .ok holds =>
    that holds
      ("value " ++ actual.literal ++ " not smaller than " ++ bound.literal ++ ": " ++ reason)
      response

/-- Fails unless a packet has a version. Only packets have one. -/
def version (packet version : Value) : Except Fault Unit :=
  match packet with
  | .packet p =>
    that ((Value.int p.version).same version)
      (s!"Server replied with version {p.version} instead of " ++ version.display) packet
  | other =>
    .error
      { kind := .noAttribute
        message := "'" ++ other.typeName ++ "' object has no attribute 'version'" }

/-- The response to blame for an invalid datagram. -/
def blamed (f : Fault) : Value :=
  match f.datagram with
  | some data => .bytes data
  | none => .absent

/-- The reply of an exchange whose reply is under test: an invalid datagram fails
the test instead of ending it in an error. -/
def reply {α : Type} (x : Run α) : Run α := do
  match ← Run.attempt x with
  | .ok a => return a
  | .error f =>
    if f.kind.isInvalidReply then
      Run.fail (Fault.failure ("Server replied with invalid packet: " ++ f.message) (blamed f))
    else Run.fail f

/-- Expects a receive to time out; anything received fails the test. -/
def silence (x : Run Value) (reason : String) : Run Unit := do
  match ← Run.attempt x with
  | .ok v => Run.fail (Fault.failure ("Unexpected response from server: " ++ reason) v)
  | .error f => if f.kind.isA .receiveTimeout then return () else Run.fail f

/-- An expectation as a step of a run. -/
def check (e : Except Fault Unit) : Run Unit := Run.ofExcept e

end TimeProbe.Expect

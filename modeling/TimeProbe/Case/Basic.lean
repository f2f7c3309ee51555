import TimeProbe.Expect
import TimeProbe.Target

/-!
# Cases

A case has a name, what it needs, and a step that runs it against a target. Plain
and protected cases get a fresh connection for their body and poll the server once
more behind it; key establishment cases get a fresh stream. Whatever happens, the
connection is closed.
-/

namespace TimeProbe

/-- What a case needs from the configuration. -/
inductive Requirement
  | udp
  | nts
  | ntsKe
deriving DecidableEq, Inhabited

namespace Requirement

/-- The word for a requirement. -/
def word : Requirement → String
  | udp => "udp"
  | nts => "nts"
  | ntsKe => "nts_ke"

end Requirement

/-- A case of the catalog. -/
structure TestCase where
  name : String
  requirement : Requirement := .udp
  summary : String := ""
  run : RunConfig → Run Unit

namespace TestCase

/-- Runs a body on an open connection and then closes the connection. -/
def onConnection (connect : Run Nat) (body : Nat → Run Unit) (close : Nat → Run Unit) :
    Run Unit := do
  let i ← connect
  Run.ensuring (body i) (close i)

/-- A case on a plain connection. -/
def plain (name summary : String) (body : Nat → Run Unit) : TestCase :=
  { name, requirement := .udp, summary
    run := fun c => onConnection (Run.connectPlain c)
      (fun i => do body i; Run.probe i) Run.closeEndpoint }

/-- A case on a protected connection. -/
def guarded (name summary : String) (body : Nat → Run Unit) : TestCase :=
  { name, requirement := .nts, summary
    run := fun c => onConnection (Run.connectProtected c)
      (fun i => do body i; Run.probeProtected i) Run.closeProtected }

/-- A case on a key establishment stream. -/
def onStream (name summary : String) (body : Nat → Run Unit) : TestCase :=
  { name, requirement := .ntsKe, summary
    run := fun c => onConnection (Run.connectKe c) body Run.closeStream }

end TestCase

end TimeProbe

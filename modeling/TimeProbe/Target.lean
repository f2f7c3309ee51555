import TimeProbe.Nts.Liveness
import TimeProbe.Nts.SessionSource

/-!
# The target of a run

Preparing a target resolves its name and, where time security is on, runs the first
key establishment. After that every case gets fresh connections: an endpoint to
the time server, a protected connection, or a key establishment stream.
-/

namespace TimeProbe

/-- Why a protected case does not run. -/
def ntsDisabled : String := "NTS not enabled"

/-- The fault of a name that does not resolve. -/
def lookupFault (host : String) (cause : Fault) : Fault :=
  if cause.kind.isA .addressLookup || cause.kind.isA .unicode then
    { kind := .targetResolution
      message := "Failed to lookup host: " ++ Text.quoted host
      details := [("error", .text cause.message)] }
  else cause

/-- The fault of a name without addresses. -/
def noAddress (host : String) : Fault :=
  { kind := .targetResolution
    message := "Host " ++ Text.quoted host ++ " did not resolve into any address" }

namespace Run

/-- Resolves a name. -/
def resolve (address : Address) : Run (List String) := do
  update fun w => { w with lookups := w.lookups ++ [address] }
  match ← read (·.resolver) with
  | .error cause => fail (lookupFault address.host cause)
  | .ok [] => fail (noAddress address.host)
  | .ok found => return found

/-- Resolves the target and, with time security, fills the jar of sessions. -/
def prepareTarget (c : RunConfig) : Run Unit := do
  let _ ← resolve ⟨c.target, c.port⟩
  if c.ntsEnabled then
    setSource { config := c }
    bootstrap

/-- The time server: the one that key establishment named, or else the target. -/
def timeServer (c : RunConfig) : Run Address := do
  let named ← read fun w => w.source.bind (·.address)
  return named.getD ⟨c.target, c.port⟩

/-- A fresh endpoint to the time server. -/
def connectPlain (c : RunConfig) : Run Nat := do
  let address ← timeServer c
  openEndpoint address c.timeout

/-- A fresh session over a fresh endpoint. -/
def connectProtected (c : RunConfig) : Run Nat := do
  if !c.ntsEnabled then fail (Fault.skipped ntsDisabled)
  let out ← takeSession
  let endpoint ← openEndpoint out.address c.timeout
  let place ← read (·.sessions.length)
  update fun w => { w with sessions := w.sessions ++ [(endpoint, out.session)] }
  return place

/-- A fresh key establishment stream to the target. -/
def connectKe (c : RunConfig) : Run Nat := do
  if !c.ntsEnabled then fail (Fault.skipped ntsDisabled)
  openStream ⟨c.target, c.kePort⟩ c.caFile none

/-- Closes the endpoint of a protected connection. -/
def closeProtected (i : Nat) : Run Unit := do
  let (endpoint, _) ← session i
  closeEndpoint endpoint

end Run

end TimeProbe

import TimeProbe.KeyExchange.Session
import TimeProbe.Nts.Link

/-!
# The jar of sessions

Every protected case gets a session of its own: the keys and the next cookies of
the jar. The jar is filled by a key establishment; a failure of the first one is
remembered and reported by every later request. When the jar runs low it is filled
again, and the time server named then has to be the one named before.
-/

namespace TimeProbe

/-- A session to use, and the time server it belongs to. -/
structure HandedOut where
  session : NtsSession
  address : Address
deriving DecidableEq

namespace SessionSource

/-- The jar after a key establishment: leftover cookies belong to older keys and go. -/
def install (s : SessionSource) (m : KeyMaterial) : SessionSource :=
  { s with keys := some m.keys, jar := m.cookies, address := some m.address }

/-- The failure of the first key establishment, as it is remembered. Faults that
are neither the prober's nor the system's are not remembered. -/
def remembered? (f : Fault) : Option Fault :=
  if f.kind.isA .own then some f
  else if f.kind.isA .os then
    some
      { kind := .keyExchange, message := f.message
        details := [("error_type", .text f.kind.name)] }
  else none

/-- The fault that a remembered failure causes. -/
def refusal (s : SessionSource) (cause : Fault) : Fault :=
  { kind := .keyExchange
    message := "NTS-KE with " ++ s.config.target ++ s!":{s.config.kePort} failed: " ++ cause.message
    details := cause.details }

/-- The value of an address that may not be known. -/
def addressValue : Option Address → Value
  | some a => a.value
  | none => .absent

/-- The fault of a refill that names another time server. -/
def moved (s : SessionSource) (after : Address) : Fault :=
  { kind := .keyExchange
    message := "Server switched to which UDP host it points"
    details := [("before", addressValue s.address), ("after", after.value)] }

/-- The jar after a refill, if the time server stayed the same. -/
def refilled (s : SessionSource) (m : KeyMaterial) : Except Fault SessionSource :=
  if some m.address = s.address then .ok (s.install m) else .error (s.moved m.address)

/-- Whether the jar has fewer cookies than a session takes. -/
def isLow (s : SessionSource) (count : Int) : Bool := decide ((s.jar.length : Int) < count)

/-- A session with the next cookies of the jar, and the jar without them. -/
def handOut (s : SessionSource) (count : Int) (keys : KeyPair) (address : Address) :
    HandedOut × SessionSource :=
  (⟨⟨keys, ⟨takeInt count s.jar⟩⟩, address⟩, { s with jar := dropInt count s.jar })

end SessionSource

namespace Run

/-- The jar of the run. -/
def source : Run SessionSource := do
  match ← read (·.source) with
  | some s => return s
  | none => fail { kind := .keyExchange, message := "NTS is not configured for this run" }

/-- Puts a jar back. -/
def setSource (s : SessionSource) : Run Unit := update fun w => { w with source := some s }

/-- One key establishment with the target. -/
def establishTarget (c : RunConfig) : Run KeyMaterial :=
  establishWith ⟨c.target, c.kePort⟩ c.caFile

/-- The first key establishment. Its failure is remembered. -/
def bootstrap : Run Unit := do
  let s ← source
  match ← attempt (establishTarget s.config) with
  | .ok m => setSource (s.install m)
  | .error f =>
    match SessionSource.remembered? f with
    | some cause => setSource { s with error := some cause }
    | none => fail f

/-- Fills the jar again. -/
def refill : Run Unit := do
  let s ← source
  let m ← establishTarget s.config
  setSource (← ofExcept (s.refilled m))

/-- A session from a jar that was filled at least once. -/
def takeInstalled (keys : KeyPair) : Run HandedOut := do
  let count ← read (·.settings.ntsSessionCookies)
  if (← source).isLow count then refill
  let s ← source
  match s.address with
  | none => fail { kind := .type, message := "cannot unpack non-iterable NoneType object" }
  | some address =>
    let (out, s) := s.handOut count (s.keys.getD keys) address
    setSource s
    return out

/-- A session with cookies of its own, and the time server to use it with. -/
def takeSession : Run HandedOut := do
  let s ← source
  match s.error, s.keys with
  | some cause, _ => fail (s.refusal cause)
  | none, some keys => takeInstalled keys
  | none, none => do
    bootstrap
    let s ← source
    match s.error, s.keys with
    | some cause, _ => fail (s.refusal cause)
    | none, some keys => takeInstalled keys
    | none, none => fail { kind := .runtime }

end Run

end TimeProbe

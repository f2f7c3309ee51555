import TimeProbe.Nts.Link
import TimeProbe.Proofs.ProtectedRequest
import TimeProbe.Proofs.RunSteps

/-!
# Making a protected request

On a connection that has a session, making a request fails only where no cookie is left.
Otherwise it leaves the chosen pool in the session and draws from the entropy, and touches
nothing else.
-/

namespace TimeProbe

namespace World

variable {w : World} {i endpoint : Nat} {s : NtsSession}

/-- Replacing a pool changes one session. -/
theorem setPool_eq (hsession : w.session? i = some (endpoint, s)) (pool : CookiePool) :
    w.setPool i pool = { w with sessions := w.sessions.set i (endpoint, { s with pool }) } := by
  rw [session?] at hsession
  simp only [setPool, hsession]

/-- A session whose pool was replaced has the new pool and its other data. -/
theorem session?_setPool (hsession : w.session? i = some (endpoint, s)) (pool : CookiePool) :
    (w.setPool i pool).session? i = some (endpoint, { s with pool }) := by
  rw [setPool_eq hsession]
  obtain ⟨hlt, -⟩ := List.getElem?_eq_some_iff.mp hsession
  exact List.getElem?_set_self hlt

end World

namespace Run

variable {w : World} {i endpoint : Nat} {s : NtsSession} {packet : Packet} {placeholders : Nat}
  {cookie : Option Bytes}

/-- A session that is there is found, and the world stays as it is. -/
theorem session_eq (hsession : w.session? i = some (endpoint, s)) :
    session i w = (.done (endpoint, s), w) := by
  rw [session, bind_done (show read (·.session? i) w = (.done (w.session? i), w) from rfl),
    hsession]
  rfl

/-- Without a cookie nothing happens but the fault. -/
theorem protectPacket_eq_failed {f : Fault} (hsession : w.session? i = some (endpoint, s))
    (hchoose : s.chooseCookie cookie = .error f) :
    protectPacket i packet placeholders cookie w = (.failed f, w) := by
  rw [protectPacket, bind_done (session_eq hsession)]
  dsimp only
  rw [hchoose]
  exact bind_failed rfl _

/-- With a cookie the request is made: it is the packet protected with this cookie under the
session's key, and its identifier holds a fresh unique identifier. -/
theorem protectPacket_eq_done {c : Bytes} {pool : CookiePool} (packet : Packet)
    (placeholders : Nat) (hsession : w.session? i = some (endpoint, s))
    (hchoose : s.chooseCookie cookie = .ok (c, pool)) :
    ∃ request uid e, protectPacket i packet placeholders cookie w =
        (.done request, { w.setPool i pool with entropy := e }) ∧
      (Protection.apply { cookie := c, placeholders } packet s.keys.clientToServer w.entropy).1 =
        .ok (request.data, request.identifier) ∧
      request.identifier = ⟨packet.transmitTimestamp, some uid⟩ ∧ uid.length = uidLength := by
  obtain ⟨uid, nonce, hchosen, -, happly⟩ :=
    Protection.apply_eq_ok { cookie := c, placeholders } packet s.keys.clientToServer w.entropy
      (by simp)
  have huid : uid.length = uidLength := by
    rcases hchosen with hgiven | ⟨-, hdrawn⟩
    · cases hgiven
    · exact hdrawn
  have hentropy : (w.setPool i pool).entropy = w.entropy := by
    rw [World.setPool_eq hsession]
  rcases hresult : Protection.apply { cookie := c, placeholders } packet s.keys.clientToServer
    w.entropy with ⟨r, e⟩
  rw [hresult] at happly
  obtain rfl : r = _ := happly
  have hdrawing : drawing (Protection.apply { cookie := c, placeholders } packet
      s.keys.clientToServer) (w.setPool i pool) = (.done (.ok _), _) :=
    drawing_eq (by rw [hentropy, hresult])
  refine ⟨⟨_, _⟩, uid, e, ?_, rfl, by rw [ExtensionField.payload_uniqueIdentifier huid], huid⟩
  rw [protectPacket, bind_done (session_eq hsession)]
  dsimp only
  rw [hchoose, bind_done (show ofExcept _ w = (.done (c, pool), w) from rfl)]
  dsimp only
  rw [bind_done (show update _ w = (.done (), w.setPool i pool) from rfl), bind_done hdrawing]
  rfl

/-- A request was made under a session, with a cookie that was chosen, and its identifier holds the
packet's transmit timestamp and a fresh unique identifier. -/
theorem exists_of_protectPacket_done {w' : World} {request : Protected}
    (hprotect : protectPacket i packet placeholders cookie w = (.done request, w')) :
    ∃ endpoint s pool e uid, w.session? i = some (endpoint, s) ∧
      w' = { w.setPool i pool with entropy := e } ∧
      request.identifier = ⟨packet.transmitTimestamp, some uid⟩ ∧ uid.length = uidLength := by
  cases hsession : w.session? i with
  | none =>
    have hfail : session i w = (.failed { kind := .runtime }, w) := by
      rw [session, bind_done (show read (·.session? i) w = (.done (w.session? i), w) from rfl),
        hsession]
      rfl
    rw [protectPacket, bind_failed hfail] at hprotect
    cases hprotect
  | some found =>
    cases hchoose : found.2.chooseCookie cookie with
    | error f =>
      rw [protectPacket_eq_failed hsession hchoose] at hprotect
      cases hprotect
    | ok chosen =>
      obtain ⟨made, uid, e, hmade, -, hidentifier, huid⟩ :=
        protectPacket_eq_done packet placeholders hsession hchoose
      rw [hmade] at hprotect
      cases hprotect
      exact ⟨found.1, found.2, chosen.2, e, uid, rfl, rfl, hidentifier, huid⟩

/-- Whoever made a request, its identifier holds the packet's transmit timestamp and a fresh
unique identifier. -/
theorem exists_identifier_of_protectPacket {w' : World} {request : Protected}
    (hprotect : protectPacket i packet placeholders cookie w = (.done request, w')) :
    ∃ uid, request.identifier = ⟨packet.transmitTimestamp, some uid⟩ ∧ uid.length = uidLength := by
  obtain ⟨_, _, _, _, uid, -, -, hidentifier, huid⟩ := exists_of_protectPacket_done hprotect
  exact ⟨uid, hidentifier, huid⟩

end Run

end TimeProbe

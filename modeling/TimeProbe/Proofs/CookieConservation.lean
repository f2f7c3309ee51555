import TimeProbe.Proofs.EndpointSteps
import TimeProbe.Proofs.ProtectedConnection

/-!
# Cookies on a protected connection are conserved

Over any history of exchanges on one connection, the cookies sent from the pool followed by
those still in it are the cookies the pool started with followed by those that
authenticated replies brought. An exchange changes the pool at two points only: the front
cookie leaves before anything is sent, and the cookies of a reply join at the end.
-/

namespace TimeProbe

/-- One exchange asked of a protected connection. -/
structure Call where
  packet : Packet
  placeholders : Nat := 0
  /-- A cookie that the caller brings along. -/
  cookie : Option Bytes := none
  timeout : Option Binary64 := none

namespace NtsSession

variable {s : NtsSession}

/-- An empty pool gives no cookie. -/
theorem chooseCookie_nil (hpool : s.pool.cookies = []) :
    s.chooseCookie none = .error CookiePool.exhausted := by
  simp only [chooseCookie, CookiePool.take, hpool]

/-- A pool gives its front cookie. -/
theorem chooseCookie_cons {front : Bytes} {rest : List Bytes}
    (hpool : s.pool.cookies = front :: rest) : s.chooseCookie none = .ok (front, ⟨rest⟩) := by
  simp only [chooseCookie, CookiePool.take, hpool]

end NtsSession

namespace Call

open NtsSession

/-- Makes the exchange on the connection at a place. -/
def run (call : Call) (i : Nat) : Run NtsReply :=
  Run.exchangeProtected i call.packet call.placeholders call.cookie call.timeout

/-- The cookie that an exchange sends from the pool of a session: the front one, unless the
caller brings a cookie or there is none. -/
def taken (call : Call) (s : NtsSession) : List Bytes :=
  match call.cookie with
  | some _ => []
  | none => s.pool.cookies.take 1

/-- The cookies that the end of an exchange brings: those of an authenticated reply. -/
def gained : Ending NtsReply → List Bytes
  | .done reply => if reply.opened.authenticated then reply.opened.newCookies else []
  | .failed _ => []
  | .cutOff => []

/-- A request goes out with a cookie, after the pool was replaced, and the exchange ends as
the wait for its answer ends, with the cookies gained behind those of the pool. -/
def Sends (call : Call) (i : Nat) (w : World) (endpoint : Nat) (s : NtsSession) (cookie : Bytes)
    (pool : CookiePool) : Prop :=
  ∃ request w₁,
    Run.protectPacket i call.packet call.placeholders call.cookie w = (.done request, w₁) ∧
    (Protection.apply { cookie, placeholders := call.placeholders } call.packet
      s.keys.clientToServer w.entropy).1 = .ok (request.data, request.identifier) ∧
    w₁.endpoints = w.endpoints ∧ w₁.session? i = some (endpoint, { s with pool }) ∧
    let answer :=
      Run.exchangeRaw endpoint request.data (s.accept request.identifier) call.timeout w₁
    (call.run i w).1 = answer.1 ∧ (call.run i w).2.endpoints = answer.2.endpoints ∧
    (call.run i w).2.session? i = some (endpoint, { s with pool := pool.add (gained answer.1) })

variable {call : Call} {i endpoint : Nat} {w : World} {s : NtsSession}

/-- An exchange for which there is no cookie fails, and nothing else happens. -/
theorem run_eq_failed {f : Fault} (hsession : w.session? i = some (endpoint, s))
    (hchoose : s.chooseCookie call.cookie = .error f) : call.run i w = (.failed f, w) := by
  rw [run, Run.exchangeProtected, Run.bind_failed (Run.protectPacket_eq_failed hsession hchoose)]

/-- An exchange for which there is a cookie sends a request with it. -/
theorem sends_of_chooseCookie {cookie : Bytes} {pool : CookiePool}
    (hsession : w.session? i = some (endpoint, s))
    (hchoose : s.chooseCookie call.cookie = .ok (cookie, pool)) :
    call.Sends i w endpoint s cookie pool := by
  obtain ⟨request, uid, e, hprotect, happly, -, -⟩ :=
    Run.protectPacket_eq_done call.packet call.placeholders hsession hchoose
  have hsession₁ : ({ w.setPool i pool with entropy := e } : World).session? i =
      some (endpoint, { s with pool }) := World.session?_setPool hsession pool
  have hendpoints : ({ w.setPool i pool with entropy := e } : World).endpoints = w.endpoints := by
    rw [World.setPool_eq hsession]
  refine ⟨request, _, hprotect, happly, hendpoints, hsession₁, ?_⟩
  generalize ({ w.setPool i pool with entropy := e } : World) = w₁ at hprotect hsession₁ ⊢
  have hleaves := Run.leaves_sessions_exchangeRaw endpoint request.data
    (s.accept request.identifier) call.timeout w₁
  rcases hraw : Run.exchangeRaw endpoint request.data (s.accept request.identifier) call.timeout w₁
    with ⟨ending, w₂⟩
  rw [hraw] at hleaves
  have hsession₂ : w₂.session? i = some (endpoint, { s with pool }) := by
    rw [World.session?, show w₂.sessions = w₁.sessions from hleaves]
    exact hsession₁
  rw [run, Run.exchangeProtected, Run.bind_done hprotect, Run.bind_done (Run.session_eq hsession₁)]
  have haccept : ({ s with pool } : NtsSession).accept = s.accept := rfl
  dsimp only
  rw [haccept]
  have hsame : pool.add [] = pool := by
    rw [CookiePool.add, List.append_nil]
  cases ending with
  | failed f =>
    rw [Run.bind_failed hraw, gained, hsame]
    exact ⟨rfl, rfl, hsession₂⟩
  | cutOff =>
    rw [Run.bind_cutOff hraw, gained, hsame]
    exact ⟨rfl, rfl, hsession₂⟩
  | done reply =>
    rw [Run.bind_done hraw, gained]
    by_cases hauth : reply.opened.authenticated = true
    · rw [if_pos hauth, if_pos hauth]
      refine ⟨rfl, ?_, World.session?_setPool hsession₂ _⟩
      exact congrArg (·.endpoints) (World.setPool_eq hsession₂ _)
    · rw [if_neg hauth, if_neg hauth, hsame]
      exact ⟨rfl, rfl, hsession₂⟩

/-- Whatever an exchange does, the session keeps its keys, and the cookie taken followed by
those left is the old pool followed by what was gained. -/
theorem exists_pool_of_run (hsession : w.session? i = some (endpoint, s)) :
    ∃ pool : CookiePool, (call.run i w).2.session? i = some (endpoint, { s with pool }) ∧
      call.taken s ++ pool.cookies = s.pool.cookies ++ gained (call.run i w).1 := by
  cases hcookie : call.cookie with
  | some c =>
    obtain ⟨request, w₁, -, -, -, -, hending, -, hleft⟩ :=
      sends_of_chooseCookie hsession (by rw [hcookie]; rfl)
    refine ⟨_, hleft, ?_⟩
    rw [hending, taken, hcookie]
    rfl
  | none =>
    cases hpool : s.pool.cookies with
    | nil =>
      rw [run_eq_failed hsession (hcookie ▸ chooseCookie_nil hpool)]
      refine ⟨s.pool, hsession, ?_⟩
      rw [taken, hcookie, hpool]
      rfl
    | cons front rest =>
      obtain ⟨request, w₁, -, -, -, -, hending, -, hleft⟩ :=
        sends_of_chooseCookie hsession (hcookie ▸ chooseCookie_cons hpool)
      refine ⟨_, hleft, ?_⟩
      rw [hending, taken, hcookie, hpool]
      rfl

end Call

/-- A history of exchanges on the connection at a place: it starts in one world and ends in
another, with the cookies sent from the pool and the cookies gained in between. Anything may
happen between two exchanges that leaves the session alone. -/
inductive History (i : Nat) (w : World) : World → List Bytes → List Bytes → Prop
  | start : History i w w [] []
  | elsewhere {w₁ w₂ : World} {sent gained : List Bytes} (before : History i w w₁ sent gained)
      (untouched : w₂.session? i = w₁.session? i) : History i w w₂ sent gained
  | exchange {w₁ : World} {sent gained : List Bytes} {endpoint : Nat} {s : NtsSession}
      (before : History i w w₁ sent gained) (call : Call)
      (session : w₁.session? i = some (endpoint, s)) :
      History i w (call.run i w₁).2 (sent ++ call.taken s) (gained ++ Call.gained (call.run i w₁).1)

/-- Along a history the session keeps its keys and its endpoint, and no cookie is lost or sent
twice. -/
theorem History.exists_pool {i endpoint : Nat} {w w' : World} {s : NtsSession}
    {sent gained : List Bytes} (hsession : w.session? i = some (endpoint, s))
    (hhistory : History i w w' sent gained) :
    ∃ pool : CookiePool, w'.session? i = some (endpoint, { s with pool }) ∧
      sent ++ pool.cookies = s.pool.cookies ++ gained := by
  induction hhistory with
  | start => exact ⟨s.pool, hsession, (List.append_nil _).symm⟩
  | elsewhere before untouched ih =>
    obtain ⟨pool, hpool, hconserved⟩ := ih
    exact ⟨pool, untouched.trans hpool, hconserved⟩
  | exchange before call session ih =>
    obtain ⟨pool, hpool, hconserved⟩ := ih
    rw [session] at hpool
    cases hpool
    obtain ⟨pool', hpool', hstep⟩ := call.exists_pool_of_run session
    refine ⟨pool', hpool', ?_⟩
    rw [List.append_assoc, hstep, ← List.append_assoc, hconserved, List.append_assoc]

/-- **Cookies are conserved.** Over any history of exchanges on a connection, the cookies sent
from the pool followed by those left in it are those of the first pool followed by those that
authenticated replies brought, and keys and endpoint stay. A brought cookie leaves the pool
alone; the front cookie is gone before its request is sent, however the exchange ends; and on
an empty pool the exchange fails and leaves the world as it was. -/
theorem cookies_conserved {i endpoint : Nat} {w : World} {s : NtsSession}
    (hsession : w.session? i = some (endpoint, s)) :
    (∀ w' sent gained, History i w w' sent gained →
      ∃ pool : CookiePool, w'.session? i = some (endpoint, { s with pool }) ∧
        sent ++ pool.cookies = s.pool.cookies ++ gained) ∧
    ∀ call : Call,
      (∀ c, call.cookie = some c →
        call.taken s = [] ∧ call.Sends i w endpoint s c s.pool) ∧
      (∀ front rest, call.cookie = none → s.pool.cookies = front :: rest →
        call.taken s = [front] ∧ call.Sends i w endpoint s front ⟨rest⟩) ∧
      (call.cookie = none → s.pool.cookies = [] →
        call.taken s = [] ∧ call.run i w = (.failed CookiePool.exhausted, w)) := by
  refine ⟨fun w' sent gained => History.exists_pool hsession, fun call => ⟨?_, ?_, ?_⟩⟩
  · intro c hcookie
    refine ⟨by rw [Call.taken, hcookie], Call.sends_of_chooseCookie hsession ?_⟩
    rw [hcookie]
    rfl
  · intro front rest hcookie hpool
    refine ⟨?_, Call.sends_of_chooseCookie hsession ?_⟩
    · rw [Call.taken, hcookie, hpool]
      rfl
    · rw [hcookie]
      exact NtsSession.chooseCookie_cons hpool
  · intro hcookie hpool
    refine ⟨?_, Call.run_eq_failed hsession ?_⟩
    · rw [Call.taken, hcookie, hpool]
      rfl
    · rw [hcookie]
      exact NtsSession.chooseCookie_nil hpool

/-- From a pool of two cookies an exchange that nobody answers sends the first one, and the
second one is left. -/
theorem cookies_conserved_unanswered :
    let cipher : Aead.Cipher := ⟨.sivCmac256, List.replicate 32 7, rfl⟩
    let s : NtsSession := { keys := ⟨cipher, cipher⟩, pool := ⟨[[1], [2]]⟩ }
    let w : World := { sessions := [(0, s)] }
    let call : Call := { packet := { transmitTimestamp := 77 } }
    w.session? 0 = some (0, s) ∧ call.Sends 0 w 0 s [1] ⟨[[2]]⟩ ∧
      ∃ pool : CookiePool, (call.run 0 w).2.session? 0 = some (0, { s with pool }) ∧
        [[1]] ++ pool.cookies = [[1], [2]] ++ Call.gained (call.run 0 w).1 := by
  intro cipher s w call
  have hsession : w.session? 0 = some (0, s) := rfl
  obtain ⟨hhistory, hcall⟩ := cookies_conserved hsession
  obtain ⟨htaken, hsends⟩ := (hcall call).2.1 [1] [[2]] rfl rfl
  have hconserved := hhistory _ _ _ (History.exchange .start call hsession)
  rw [htaken, List.nil_append, List.nil_append] at hconserved
  exact ⟨hsession, hsends, hconserved⟩

end TimeProbe

import TimeProbe.Catalog.Basic
import TimeProbe.Proofs.AnsweredPoll
import TimeProbe.Proofs.CaseOutcomes
import TimeProbe.Proofs.Inventory

/-!
# No pass without a live server

A case on a connection passes only if its body ends well and the poll behind it is answered on the
same connection. A poll that nothing answers in time fails the case. The timeout of the case has not
passed when the answer is taken, if it was not overlooked: what a wait of the body is there for may
come just as the timeout passes, and nothing bounds the case any more then.
-/

namespace TimeProbe

/-- No fault decides that a case passed. -/
theorem Outcome.ne_passed_of_ofFault {limit : Binary64} {f : Fault} {outcome : Outcome}
    (h : ofFault limit f = .ok outcome) : outcome.kind ≠ .passed := by
  rcases cases_of_ofFault h with hkind | hkind | rfl | rfl
  · simp [hkind]
  · simp [hkind]
  · simp [unfinished, errored]
  · simp [errored]

namespace World

/-- The endpoints of the sessions, with the keys. -/
def bindings (w : World) : List (Nat × KeyPair) :=
  w.sessions.map fun found => (found.1, found.2.keys)

/-- A pool is no matter of the keys. -/
theorem bindings_setPool (w : World) (i : Nat) (pool : CookiePool) :
    (w.setPool i pool).bindings = w.bindings := by
  rw [setPool]
  split
  next endpoint s hfound =>
    refine map_set_eq_map _ _ fun found hfound' => ?_
    rw [hfound] at hfound'
    cases hfound'
    rfl
  · rfl

/-- A session keeps its endpoint and its keys where the bindings stay. -/
theorem exists_session_of_bindings {w w' : World} {i endpoint : Nat} {s : NtsSession}
    (hsession : w'.session? i = some (endpoint, s)) (hbindings : w'.bindings = w.bindings) :
    ∃ s₁, w.session? i = some (endpoint, s₁) ∧ s₁.keys = s.keys := by
  have hbound : w.bindings[i]? = some (endpoint, s.keys) := by
    rw [← hbindings, bindings, List.getElem?_map, show w'.sessions[i]? = _ from hsession]
    rfl
  rw [bindings, List.getElem?_map, Option.map_eq_some_iff] at hbound
  obtain ⟨⟨_, s₁⟩, hfound, hsame⟩ := hbound
  obtain ⟨rfl, hkeys⟩ := Prod.mk.inj hsame
  exact ⟨s₁, hfound, hkeys⟩

end World

namespace Run

/-- What a body does on a protected connection leaves the bindings. -/
theorem bindings_onSession {α : Type} {i : Nat} {x : Run α} {endless : Prop}
    (hx : Built (OrAmbient endless (OnSession i)) x) : Leaves World.bindings x := by
  have htime : Untimed World.bindings := untimed_of_eq fun _ _ _ _ _ _ _ => rfl
  exact (hx.belowSession (fun _ _ => trivial) trivial).leaves htime fun _ _ h =>
    h.leaves htime (fun _ _ _ _ => rfl) World.bindings_setPool

variable {α : Type} {x : Run α} {c : RunConfig} {limit timeout : Binary64} {w w' : World}

/-- A case passes only if it ended well under its timeout, and at that moment. If it heeds limits
the timeout was met. -/
theorem exists_of_passed {case : TestCase} {outcome : Outcome} (hw : w.limits = [])
    (h : runCase c limit case w = (.done outcome, w')) (hpassed : outcome.kind = .passed) :
    ∃ v, case.run c (w.under limit) = (.done (), v) ∧ w'.now = v.now ∧
      (HeedsAt True (case.run c) (w.under limit) → w.Meets w' (w.now.afterTimeout limit)) := by
  rcases exists_of_attempt_bind_done h with ⟨finished, w₁, hrun, h⟩ | ⟨f, w₁, -, h⟩
  · cases hstarts : !limit.isNaN && !limit.isPositive with
    | true =>
      rw [within_passed hstarts] at hrun
      cases hrun
      cases h
      cases hpassed
    | false =>
      rw [within_unlimited hw hstarts] at hrun
      dsimp only at hrun
      rw [← World.under] at hrun
      rcases hcase : case.run c (w.under limit) with ⟨ending, v⟩
      rw [hcase] at hrun
      obtain ⟨limits, hback⟩ :=
        v.exists_replacingLimit (some (w.now.afterTimeout limit)) none
      cases ending with
      | done _ =>
        cases hrun
        cases h
        refine ⟨v, rfl, ?_, fun hheeds => ?_⟩
        · rw [hback]
        · have hmeets := hheeds.meets (by rw [hcase]; rfl)
          rw [hcase] at hmeets
          rw [hback]
          exact hmeets
      | failed f => cases hrun
      | cutOff =>
        dsimp only at hrun
        split at hrun
        · cases hrun
          cases h
          cases hpassed
        · cases hrun
  · exact absurd hpassed (Outcome.ne_passed_of_ofFault (eq_ok_of_ofExcept h).1)

/-- A case on a connection ends well only if the connection was made and the body on it ended well.
-/
theorem exists_of_onConnection_done {connect : Run Nat} {body close : Nat → Run Unit}
    (h : TestCase.onConnection connect body close w = (.done (), w')) :
    ∃ i w₁ w₂, connect w = (.done i, w₁) ∧ body i w₁ = (.done (), w₂) ∧
      close i w₂ = (.done (), w') := by
  obtain ⟨i, w₁, hconnect, h⟩ := exists_of_bind_done h
  obtain ⟨w₂, hbody, hclose⟩ := exists_of_ensuring_done h
  exact ⟨i, w₁, w₂, hconnect, hbody, hclose⟩

/-- A case on a connection that was made heeds limits if making it, the body on it, and closing it
do. -/
theorem heedsAt_onConnection {endless : Prop} {connect : Run Nat} {body close : Nat → Run Unit}
    {i : Nat} {w₁ : World} (hw : w.Timely) (hconnect : Heeds endless connect)
    (hrun : connect w = (.done i, w₁)) (hbody : Heeds endless (body i))
    (hclose : Heeds endless (close i)) :
    HeedsAt endless (TestCase.onConnection connect body close) w := by
  refine (hconnect w hw).bind fun j v hdone hv => ?_
  rw [hrun] at hdone
  cases hdone
  exact hbody.ensuring hclose w₁ hv

/-- Closing an endpoint takes no time. -/
theorem now_closeEndpoint (i : Nat) : Leaves (·.now) (closeEndpoint i) := by
  intro w
  rw [closeEndpoint]
  split
  · split <;> rfl
  · rfl

/-- Closing a protected connection takes no time. -/
theorem now_closeProtected (i : Nat) : Leaves (·.now) (closeProtected i) :=
  (leaves_session _ i).bind fun found => now_closeEndpoint found.1

/-- A plain case passes only if its body ends well and the poll behind it is answered, at the moment
at which the case ends. If the body keeps to its endpoint, the timeout of the case was met. -/
theorem exists_plainAnswer_of_passed {name summary : String} {body : Nat → Run Unit}
    {outcome : Outcome} (hw : w.limits = [])
    (h : runCase c limit (.plain name summary body) w = (.done outcome, w'))
    (hpassed : outcome.kind = .passed) :
    ∃ i w₁ w₂ octets, connectPlain c (w.under limit) = (.done i, w₁) ∧
      body i w₁ = (.done (), w₂) ∧ w₂.PlainAnswer i octets w'.now ∧
      (Built (OrAmbient True (OnEndpoint i)) (body i) →
        w.Meets w' (w.now.afterTimeout limit)) := by
  obtain ⟨v, hrun, hnow, hmeets⟩ := exists_of_passed hw h hpassed
  obtain ⟨i, w₁, w₂, hconnect, hprobed, hclose⟩ := exists_of_onConnection_done hrun
  obtain ⟨_, w₃, hbody, hprobe⟩ := exists_of_bind_done hprobed
  obtain ⟨octets, hanswer⟩ := exists_of_probe_done hprobe
  have hended : w'.now = w₂.now := by
    have hkept := now_closeEndpoint i w₂
    rw [hclose] at hkept
    exact hnow.trans hkept
  rw [← hended] at hanswer
  refine ⟨i, w₁, w₃, octets, hconnect, hbody, hanswer, fun hbuilt => hmeets ?_⟩
  have hheeds : Heeds True (body i >>= fun _ => probe i) :=
    (hbuilt.bind fun _ => built_probe (fun _ _ => trivial) i).onPlain.heeds fun _ _ h => h.heeds
  exact heedsAt_onConnection (w.timely_under limit)
    ((built_connectPlain c).heeds fun _ _ h => h.heeds) hconnect hheeds
    (Elementary.closeEndpoint i).heeds

/-- A protected case passes only if its body ends well and the poll behind it is answered under the
session, at the moment at which the case ends. If the body keeps to its connection, the session has
the endpoint and the keys that the connection was made with, and the timeout of the case was
met. -/
theorem exists_sealedAnswer_of_passed {name summary : String} {body : Nat → Run Unit}
    {outcome : Outcome} (hw : w.limits = [])
    (h : runCase c limit (.guarded name summary body) w = (.done outcome, w'))
    (hpassed : outcome.kind = .passed) :
    ∃ i endpoint s uid w₁ w₂ octets, connectProtected c (w.under limit) = (.done i, w₁) ∧
      body i w₁ = (.done (), w₂) ∧ w₂.SealedAnswer i endpoint s uid octets w'.now ∧
      (Built (OrAmbient True (OnSession i)) (body i) →
        (∃ s₁, w₁.session? i = some (endpoint, s₁) ∧ s₁.keys = s.keys) ∧
        w.Meets w' (w.now.afterTimeout limit)) := by
  obtain ⟨v, hrun, hnow, hmeets⟩ := exists_of_passed hw h hpassed
  obtain ⟨i, w₁, w₂, hconnect, hprobed, hclose⟩ := exists_of_onConnection_done hrun
  obtain ⟨_, w₃, hbody, hprobe⟩ := exists_of_bind_done hprobed
  obtain ⟨endpoint, s, uid, octets, hanswer⟩ := exists_of_probeProtected_done hprobe
  have hended : w'.now = w₂.now := by
    have hkept := now_closeProtected i w₂
    rw [hclose] at hkept
    exact hnow.trans hkept
  rw [← hended] at hanswer
  refine ⟨i, endpoint, s, uid, w₁, w₃, octets, hconnect, hbody, hanswer, fun hbuilt =>
    ⟨?_, hmeets ?_⟩⟩
  · have hbindings := bindings_onSession hbuilt w₁
    rw [hbody] at hbindings
    exact World.exists_session_of_bindings hanswer.session hbindings
  · have hheeds : Heeds True (body i >>= fun _ => probeProtected i) :=
      ((hbuilt.bind fun _ => built_probeProtected (fun _ _ => trivial) i).belowSession
        (fun _ _ => trivial) trivial).heeds fun _ _ h => h.heeds
    exact heedsAt_onConnection (w.timely_under limit)
      ((built_connectProtected (fun _ _ => trivial) c).heeds fun _ _ h => h.heeds) hconnect hheeds
      ((built_closeProtected (fun _ _ => trivial) i).heeds fun _ _ h => h.heeds)

end Run

/-- Whether a datagram does not belong to a request is seen from what it is accepted as. -/
instance {α : Type} (accept : Bytes → Except ReplyError (Option α)) (arrival : Arrival) :
    Decidable (arrival.Unrelated accept) :=
  match arrival with
  | .socketError _ => .isFalse nofun
  | .datagram data =>
    match h : accept data with
    | .ok none => .isTrue ⟨h⟩
    | .ok (some _) => .isFalse fun ⟨hnone⟩ => by rw [h] at hnone; cases hnone
    | .error _ => .isFalse fun ⟨hnone⟩ => by rw [h] at hnone; cases hnone

/-- Octets go out on an endpoint that is there, and what is pending there then, as far as it comes
in time, consists of datagrams that do not belong to the request. No limit passes by the deadline of
the endpoint, and closing it raises nothing but exceptions. -/
structure World.Unanswered {α : Type} (w : World) (i : Nat) (sent : Bytes)
    (accept : Bytes → Except ReplyError (Option α)) : Prop where
  there : i < w.endpoints.length
  unlimited : w.limitPassesBy (w.now.deadline (w.endpoint i).timeout) = false
  accepted : ((w.endpoint i).send w.now.time sent).1 = none
  unrelated : ∀ a ∈ ((w.endpoint i).send w.now.time sent).2.pending,
    a.1 < w.now.closing (w.endpoint i).timeout → a.2.Unrelated accept
  closing : ∀ f ∈ (w.endpoint i).closeFault, f.kind.isA .other = true

/-- Whether nothing answers what goes out can be seen in the world in which it goes out. -/
instance {α : Type} (w : World) (i : Nat) (sent : Bytes)
    (accept : Bytes → Except ReplyError (Option α)) : Decidable (w.Unanswered i sent accept) :=
  decidable_of_iff
    (i < w.endpoints.length ∧ w.limitPassesBy (w.now.deadline (w.endpoint i).timeout) = false ∧
      ((w.endpoint i).send w.now.time sent).1 = none ∧
      (∀ a ∈ ((w.endpoint i).send w.now.time sent).2.pending,
        a.1 < w.now.closing (w.endpoint i).timeout → a.2.Unrelated accept) ∧
      ∀ f ∈ (w.endpoint i).closeFault, f.kind.isA .other = true)
    ⟨fun ⟨hi, hlimit, hsent, hunrelated, hclosing⟩ => ⟨hi, hlimit, hsent, hunrelated, hclosing⟩,
      fun ⟨hi, hlimit, hsent, hunrelated, hclosing⟩ => ⟨hi, hlimit, hsent, hunrelated, hclosing⟩⟩

namespace Run

variable {α : Type} {c : RunConfig} {limit : Binary64} {w w₁ w₂ v : World} {i : Nat}
  {name summary : String} {body : Nat → Run Unit}

/-- An endpoint can be closed if closing it raises nothing but exceptions. -/
theorem exists_closeEndpoint (h : ∀ f ∈ (w.endpoint i).closeFault, f.kind.isA .other = true) :
    ∃ v, closeEndpoint i w = (.done (), v) := by
  rw [closeEndpoint]
  split
  next cause hfault =>
    rw [if_pos (h cause hfault)]
    exact ⟨_, rfl⟩
  next => exact ⟨_, rfl⟩

/-- An exchange that is not answered ends with a receive timeout, and the endpoint can be closed. -/
theorem exchangeRaw_of_unanswered {sent : Bytes} {accept : Bytes → Except ReplyError (Option α)}
    (h : w.Unanswered i sent accept) :
    ∃ f w', exchangeRaw i sent accept none w = (.failed f, w') ∧ f.kind = .receiveTimeout ∧
      ∃ v, closeEndpoint i w' = (.done (), v) := by
  obtain ⟨hi, hlimit, hsent, hunrelated, hclosing⟩ := h
  rcases hsend : (w.endpoint i).send w.now.time sent with ⟨fault, e⟩
  rw [hsend] at hsent hunrelated
  obtain rfl : fault = none := hsent
  obtain ⟨front, rest, hpending, hfront, hrest⟩ :=
    exists_front accept (w.now.closing (w.endpoint i).timeout) e.pending
  have hpassed : ∀ a ∈ front, a.2.Unrelated accept := fun a ha =>
    hunrelated a (hpending ▸ List.mem_append_left rest ha) (hfront a ha).1
  have hlate : ∀ a ∈ rest.head?, w.now.closing (w.endpoint i).timeout ≤ a.1 := by
    intro a ha
    refine Nat.le_of_not_lt fun htime => ?_
    have hmem : a ∈ e.pending :=
      hpending ▸ List.mem_append_right front (List.mem_of_head? ha)
    have hno := Arrival.isDecisive_eq_false_iff.mpr (.inl (hunrelated a hmem htime))
    rw [hrest a ha htime] at hno
    cases hno
  have hown : Option.getD none (w.endpoint i).timeout = (w.endpoint i).timeout := rfl
  obtain ⟨w', hexchange, hendpoint, -⟩ :=
    exchangeRaw_expired hi hown hsend hlimit hpending
      (fun a ha => ⟨(hfront a ha).1, .inl (hpassed a ha)⟩) hlate
  rw [rejections_eq_nil hpassed] at hexchange
  have hquiet : (w'.endpoint i).closeFault = (w.endpoint i).closeFault := by
    have hkept := ((w.endpoint i).used_send w.now.time sent).1.closeFault
    rw [hsend] at hkept
    rw [hendpoint, ← hkept]
  have hkind : (noReply e.address (w.endpoint i).timeout none).kind = .receiveTimeout := rfl
  exact ⟨_, w', hexchange, hkind, exists_closeEndpoint (hquiet ▸ hclosing)⟩

/-- What a probe reports that nothing answered. -/
theorem probeFault_of_receiveTimeout {f : Fault} (hf : f.kind = .receiveTimeout)
    (isInvalid : FaultKind → Bool) :
    probeFault isInvalid f = Fault.failure "Server did no longer reply to normal poll" := by
  rw [probeFault, hf]
  rfl

/-- A case on a connection whose body fails and that can be closed fails in this way. -/
theorem onConnection_of_failed {connect : Run Nat} {body close : Nat → Run Unit} {f : Fault}
    (hconnect : connect w = (.done i, w₁)) (hbody : body i w₁ = (.failed f, w₂))
    (hclose : close i w₂ = (.done (), v)) :
    TestCase.onConnection connect body close w = (.failed f, v) := by
  rw [TestCase.onConnection, bind_done hconnect]
  exact ensuring_of_ended hbody rfl hclose

/-- A case that fails by its own verdict under its timeout is reported with its reason. -/
theorem runCase_of_failure {case : TestCase} {reason : String} (hw : w.limits = [])
    (hstarts : limit.isNaN = true ∨ limit.isPositive = true)
    (hrun : case.run c (w.under limit) = (.failed (Fault.failure reason), v)) :
    ∃ w', runCase c limit case w =
      (.done { kind := .failed, reason := some reason, detail := none }, w') := by
  have hstarted : (!limit.isNaN && !limit.isPositive) = false := by
    rcases hstarts with h | h <;> simp [h]
  have hwithin : within limit (case.run c) w = (.failed (Fault.failure reason),
      v.replacingLimit (some (w.now.afterTimeout limit)) none) := by
    rw [within_unlimited hw hstarted]
    dsimp only
    rw [← World.under, hrun]
  refine ⟨v.replacingLimit (some (w.now.afterTimeout limit)) none, ?_⟩
  rw [runCase, bind_done (attempt_failed hwithin)]
  rfl

/-- A plain case whose body ends well and whose probe nothing answers fails. -/
theorem runCase_plain_of_unanswered (hw : w.limits = [])
    (hstarts : limit.isNaN = true ∨ limit.isPositive = true)
    (hconnect : connectPlain c (w.under limit) = (.done i, w₁))
    (hbody : body i w₁ = (.done (), w₂))
    (hunanswered : w₂.polled.Unanswered i w₂.poll.encode
      (acceptPacket ⟨w₂.poll.transmitTimestamp, none⟩)) :
    ∃ w', runCase c limit (.plain name summary body) w = (.done
      { kind := .failed, reason := some "Server did no longer reply to normal poll",
        detail := none }, w') := by
  obtain ⟨f, w₃, hexchange, hf, v, hclose⟩ := exchangeRaw_of_unanswered hunanswered
  have hprobe : probe i w₂ =
      (.failed (Fault.failure "Server did no longer reply to normal poll"), w₃) := by
    have hpacket : exchangePacket i w₂.poll (some ⟨w₂.poll.transmitTimestamp, none⟩) none
        w₂.polled = (.failed f, w₃) := hexchange
    rw [probe, bind_done (drawing_poll w₂)]
    dsimp only
    rw [bind_done (attempt_failed hpacket), ← probeFault_of_receiveTimeout hf]
    rfl
  exact runCase_of_failure hw hstarts
    (onConnection_of_failed hconnect ((bind_done hbody _).trans hprobe) hclose)

/-- A protected case whose body ends well and whose probe nothing answers fails. -/
theorem runCase_guarded_of_unanswered {endpoint : Nat} {s : NtsSession} {request : Protected}
    (hw : w.limits = []) (hstarts : limit.isNaN = true ∨ limit.isPositive = true)
    (hconnect : connectProtected c (w.under limit) = (.done i, w₁))
    (hbody : body i w₁ = (.done (), w₂)) (hsession : w₂.session? i = some (endpoint, s))
    (hprotect : protectPacket i w₂.poll 0 none w₂.polled = (.done request, v))
    (hunanswered : v.Unanswered endpoint request.data (s.accept request.identifier)) :
    ∃ w', runCase c limit (.guarded name summary body) w = (.done
      { kind := .failed, reason := some "Server did no longer reply to normal poll",
        detail := none }, w') := by
  obtain ⟨endpoint', s', pool, e, uid, hsession', rfl, -⟩ := exists_of_protectPacket_done hprotect
  rw [show w₂.polled.session? i = some (endpoint, s) from hsession] at hsession'
  cases hsession'
  have hpooled : ({ w₂.polled.setPool i pool with entropy := e } : World).session? i =
      some (endpoint, { s with pool }) :=
    World.session?_setPool (show w₂.polled.session? i = some (endpoint, s) from hsession) pool
  obtain ⟨f, w₃, hexchange, hf, v, hclose⟩ := exchangeRaw_of_unanswered hunanswered
  have hleft := leaves_sessions_exchangeRaw endpoint request.data (s.accept request.identifier) none
    ({ w₂.polled.setPool i pool with entropy := e } : World)
  rw [hexchange] at hleft
  have hkept : w₃.session? i = some (endpoint, { s with pool }) := by
    rw [World.session?, show w₃.sessions = _ from hleft]
    exact hpooled
  have hprobe : probeProtected i w₂ =
      (.failed (Fault.failure "Server did no longer reply to normal poll"), w₃) := by
    have hprotected : exchangeProtected i w₂.poll 0 none none w₂.polled = (.failed f, w₃) := by
      rw [exchangeProtected, bind_done hprotect, bind_done (session_eq hpooled)]
      exact bind_failed hexchange _
    rw [probeProtected, bind_done (drawing_poll w₂)]
    dsimp only
    rw [bind_done (attempt_failed hprotected), ← probeFault_of_receiveTimeout hf]
    rfl
  have hclosed : closeProtected i w₃ = (.done (), v) := by
    rw [closeProtected, bind_done (session_eq hkept)]
    exact hclose
  exact runCase_of_failure hw hstarts
    (onConnection_of_failed hconnect ((bind_done hbody _).trans hprobe) hclosed)

/-- **No pass without a live server.** Whatever a body does and whatever the servers do, a case on a
connection passes only if the body ended well and then, on the same connection, a poll of version 4
just drawn went out and a datagram was taken that answers it: a server's packet of version 4 that
echoes its timestamp, and in a protected case its identifier too, verified with the key of the
session. A body that keeps to its connection leaves the endpoint and the keys that this was made
with, and the timeout of the case has not passed at that moment, unless it passed just as a wait got
what it waited for and was overlooked. If the body ends well, the poll goes out, and only datagrams
that do not belong to it are pending until its own timeout, which comes before that of the case, the
case fails. -/
theorem runCase_passed_only_live (c : RunConfig) (limit : Binary64) (name summary : String)
    (body : Nat → Run Unit) {w : World} (hw : w.limits = []) :
    (∀ outcome w', runCase c limit (.plain name summary body) w = (.done outcome, w') →
      outcome.kind = .passed →
      ∃ i w₁ w₂ octets, connectPlain c (w.under limit) = (.done i, w₁) ∧
        body i w₁ = (.done (), w₂) ∧ w₂.PlainAnswer i octets w'.now ∧
        (Built (OrAmbient True (OnEndpoint i)) (body i) →
          w.Meets w' (w.now.afterTimeout limit))) ∧
    (∀ outcome w', runCase c limit (.guarded name summary body) w = (.done outcome, w') →
      outcome.kind = .passed →
      ∃ i endpoint s uid w₁ w₂ octets, connectProtected c (w.under limit) = (.done i, w₁) ∧
        body i w₁ = (.done (), w₂) ∧ w₂.SealedAnswer i endpoint s uid octets w'.now ∧
        (Built (OrAmbient True (OnSession i)) (body i) →
          (∃ s₁, w₁.session? i = some (endpoint, s₁) ∧ s₁.keys = s.keys) ∧
          w.Meets w' (w.now.afterTimeout limit))) ∧
    (limit.isNaN = true ∨ limit.isPositive = true →
      let silent : Outcome :=
        { kind := .failed, reason := some "Server did no longer reply to normal poll" }
      (∀ i w₁ w₂, connectPlain c (w.under limit) = (.done i, w₁) → body i w₁ = (.done (), w₂) →
        w₂.polled.Unanswered i w₂.poll.encode (acceptPacket ⟨w₂.poll.transmitTimestamp, none⟩) →
        ∃ w', runCase c limit (.plain name summary body) w = (.done silent, w')) ∧
      ∀ i w₁ w₂ endpoint s request v, connectProtected c (w.under limit) = (.done i, w₁) →
        body i w₁ = (.done (), w₂) → w₂.session? i = some (endpoint, s) →
        protectPacket i w₂.poll 0 none w₂.polled = (.done request, v) →
        v.Unanswered endpoint request.data (s.accept request.identifier) →
        ∃ w', runCase c limit (.guarded name summary body) w = (.done silent, w')) := by
  refine ⟨fun outcome w' => exists_plainAnswer_of_passed hw,
    fun outcome w' => exists_sealedAnswer_of_passed hw, fun hstarts => ⟨?_, ?_⟩⟩
  · exact fun i w₁ w₂ => runCase_plain_of_unanswered hw hstarts
  · exact fun i w₁ w₂ endpoint s request v => runCase_guarded_of_unanswered hw hstarts

/-- A server answers the first poll just as the case times out after 200 milliseconds, and the one
behind it 900 milliseconds later. The case passes all the same, long after its timeout, which was
overlooked. If the second answer echoes the timestamp of the first poll again, the case fails under
a timeout that leaves the time for it. -/
theorem runCase_passed_only_live_overlooked :
    let c : RunConfig :=
      { (default : RunConfig) with target := "192.0.2.1", timeout := Binary64.ofMillis 1000 }
    let limit := Binary64.ofMillis 200
    let ample := Binary64.ofMillis 10000
    let answer (e : Entropy) : Bytes := Packet.encode
      { mode := Mode.server.code, stratum := 2, originTimestamp := e.drawWord.1,
        receiveTimestamp := 1000, transmitTimestamp := 1001 }
    let ticks (ms : Int) := (Binary64.ofMillis ms).magnitude
    let server (draws : Nat) : World := { udpScripts := [{ sends := [
      .deliver [{ delay := ticks 200, arrival := .datagram (answer {}) }],
      .deliver [{ delay := ticks 900, arrival := .datagram (answer { draws }) }]] }] }
    let alive := server 1
    let repeating := server 0
    (alive.limits = [] ∧
      ∃ w', runCase c limit Catalog.Basic.respondsToVersion4 alive = (.done .passed, w') ∧
        (alive.now.afterTimeout limit).before w'.now = true ∧
        w'.overlooked = [alive.now.afterTimeout limit] ∧
        ∃ i w₁ w₂ octets, connectPlain c (alive.under limit) = (.done i, w₁) ∧
          Catalog.Basic.poll 4 i w₁ = (.done (), w₂) ∧ w₂.PlainAnswer i octets w'.now) ∧
    (repeating.limits = [] ∧
      ∃ w', runCase c ample Catalog.Basic.respondsToVersion4 repeating = (.done
        { kind := .failed, reason := some "Server did no longer reply to normal poll" }, w')) := by
  intro c limit ample answer ticks server alive repeating
  refine ⟨?_, rfl, ?_⟩
  · obtain ⟨hpassed, hlate, hoverlooked⟩ :
        (match (runCase c limit Catalog.Basic.respondsToVersion4 alive).1 with
          | .done outcome => decide (outcome = .passed)
          | .failed _ => false
          | .cutOff => false) = true ∧
        (alive.now.afterTimeout limit).before
          (runCase c limit Catalog.Basic.respondsToVersion4 alive).2.now = true ∧
        (runCase c limit Catalog.Basic.respondsToVersion4 alive).2.overlooked =
          [alive.now.afterTimeout limit] := by
      decide +kernel +revert
    have halive : alive.limits = [] := rfl
    rcases hrun : runCase c limit Catalog.Basic.respondsToVersion4 alive with ⟨ending, w'⟩
    rw [hrun] at hpassed hlate hoverlooked
    cases ending with
    | done outcome =>
      obtain rfl := of_decide_eq_true hpassed
      obtain ⟨i, w₁, w₂, octets, hconnect, hbody, hanswer, -⟩ :=
        (runCase_passed_only_live c limit _ _ (Catalog.Basic.poll 4) halive).1 _ w' hrun rfl
      exact ⟨halive, w', rfl, hlate, hoverlooked, i, w₁, w₂, octets, hconnect, hbody, hanswer⟩
    | failed f => cases hpassed
    | cutOff => cases hpassed
  · let v := (connectPlain c (repeating.under ample)).2
    let v' := (Catalog.Basic.poll 4 0 v).2
    obtain ⟨hstarts, hconnected, hpolled, hunanswered⟩ :
        ample.isPositive = true ∧
        (match (connectPlain c (repeating.under ample)).1 with
          | .done i => i == 0
          | .failed _ => false
          | .cutOff => false) = true ∧
        (match (Catalog.Basic.poll 4 0 v).1 with
          | .done _ => true
          | .failed _ => false
          | .cutOff => false) = true ∧
        v'.polled.Unanswered 0 v'.poll.encode (acceptPacket ⟨v'.poll.transmitTimestamp, none⟩) := by
      decide +kernel +revert
    have hconnect : connectPlain c (repeating.under ample) = (.done 0, v) := by
      refine Prod.ext ?_ rfl
      split at hconnected
      next i hi => rw [hi, beq_iff_eq.mp hconnected]
      next => cases hconnected
      next => cases hconnected
    have hbody : Catalog.Basic.poll 4 0 v = (.done (), v') := by
      refine Prod.ext ?_ rfl
      split at hpolled
      next hend => exact hend
      next => cases hpolled
      next => cases hpolled
    exact ((runCase_passed_only_live c ample _ _ (Catalog.Basic.poll 4) rfl).2.2 (.inr hstarts)).1
      0 v v' hconnect hbody hunanswered

end Run

end TimeProbe

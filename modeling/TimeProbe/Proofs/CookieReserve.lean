import TimeProbe.Proofs.CookieConservation
import TimeProbe.Proofs.JarSteps
import TimeProbe.Proofs.Negotiation
import TimeProbe.Proofs.ScriptFaults

/-!
# A cookie in reserve

That a pool of cookies is exhausted is a fault of the prober, which no server raises. As long as no
script names it, elementary steps do not raise it either. Every session that is taken has a cookie,
since a key establishment brings some or fails. Where a session has one, an exchange does not
exhaust its pool, and after a reply that was authenticated and brought cookies the session has one
again.
-/

namespace TimeProbe

/-- Sends none of which fails because a pool is exhausted. -/
def SendScript.Sparing : SendScript → Prop
  | .deliver _ => True
  | .fail cause => cause.Sparing

namespace World

/-- A world in which a session takes one cookie at least, and in which no script says that a pool
is exhausted. -/
structure Sparing (w : World) : Prop where
  count : 1 ≤ w.settings.ntsSessionCookies
  opens : ∀ s ∈ w.udpScripts, ∀ f ∈ s.openFault, f.Sparing
  scripts : ∀ s ∈ w.udpScripts, ∀ send ∈ s.sends, send.Sparing
  sends : ∀ e ∈ w.endpoints, ∀ send ∈ e.sends, send.Sparing
  keScripts : ∀ s ∈ w.keScripts, s.RaisesOnly Fault.Sparing
  streams : ∀ s ∈ w.streams, s.RaisesOnly Fault.Sparing

variable {w : World}

/-- Time makes no difference to a sparing world. -/
theorem timeless_sparing : Timeless Sparing := fun _ _ _ _ _ _ _ hw => { hw with }

/-- An endpoint of a sparing world fails no send because a pool is exhausted, also one that is not
there. -/
theorem Sparing.endpoint (hw : w.Sparing) (i : Nat) :
    ∀ send ∈ (w.endpoint i).sends, send.Sparing := by
  rw [World.endpoint]
  cases hfound : w.endpoints[i]? with
  | none => exact List.forall_mem_nil _
  | some e => exact hw.sends e (List.mem_of_getElem? hfound)

/-- An endpoint may be replaced by one that fails no send because a pool is exhausted. -/
theorem Sparing.setEndpoint (hw : w.Sparing) (i : Nat) {e : Endpoint}
    (he : ∀ send ∈ e.sends, send.Sparing) : (w.setEndpoint i e).Sparing := by
  refine { hw with sends := fun e' he' => ?_ }
  rcases List.mem_or_eq_of_mem_set he' with hmem | rfl
  · exact hw.sends e' hmem
  · exact he

end World

/-- No socket error says that a pool is exhausted: what is no transport fault becomes one. -/
theorem Endpoint.sparing_receiveFault (address : Address) (cause : Option Fault) :
    (receiveFault address cause).Sparing := by
  cases cause with
  | none => exact .of_kind rfl
  | some cause =>
    rw [receiveFault]
    split
    next htransport =>
      intro hkind
      rw [hkind] at htransport
      cases htransport
    next => split <;> exact .of_kind rfl

open Fault.Homemade in
/-- **Elementary steps exhaust no pool.** Whatever arrives, they raise this fault only if a script
of a send, of an opening or of a stream does. -/
theorem elementaryLaw_sparing : ElementaryLaw Fault.Sparing World.Sparing where
  endpoint :=
    { timeless := World.timeless_sparing
      used := fun w i _ hw hused =>
        hw.setEndpoint i fun send hsend => hw.endpoint i send (hused.sends.subset hsend)
      unsent := fun w i _ hw hmem =>
        Endpoint.allowed_sendFault (fun _ => sparing) (hw.endpoint i _ hmem)
      broken := fun _ _ _ cause _ _ address => Endpoint.sparing_receiveFault address cause
      homemade := fun _ => sparing }
  stream := streamingLaw_of_streamsAllow World.timeless_sparing (fun _ hf => hf.sparing)
    (fun _ _ _ _ _ _ _ => .of_kind rfl) (fun _ hw => ⟨hw.keScripts, hw.streams⟩)
    fun _ _ _ hw hallow => { hw with keScripts := hallow.scripts, streams := hallow.streams }
  opens address timeout w hw := by
    have hscript : (∀ f ∈ (w.udpScripts.headD {}).openFault, f.Sparing) ∧
        ∀ send ∈ (w.udpScripts.headD {}).sends, send.Sparing := by
      cases hscripts : w.udpScripts with
      | nil => exact ⟨forall_mem_none _, List.forall_mem_nil _⟩
      | cons s rest =>
        have hmem : s ∈ w.udpScripts := hscripts ▸ List.mem_cons_self
        exact ⟨hw.opens s hmem, hw.scripts s hmem⟩
    have hadd {e : Endpoint} (he : e.sends = (w.udpScripts.headD {}).sends) :
        { w with udpScripts := w.udpScripts.tail, endpoints := w.endpoints ++ [e] }.Sparing := by
      refine { hw with
        opens := fun s hs => hw.opens s (List.mem_of_mem_tail hs)
        scripts := fun s hs => hw.scripts s (List.mem_of_mem_tail hs)
        sends := fun e' he' => ?_ }
      rcases List.mem_append.mp he' with hmem | hmem
      · exact hw.sends e' hmem
      · rw [List.mem_singleton.mp hmem, he]
        exact hscript.2
    rw [Run.openEndpoint]
    dsimp only
    split
    next cause hcause =>
      exact ⟨hadd rfl, Endpoint.allowed_openFault (fun _ => sparing) (hscript.1 cause hcause) _⟩
    next => exact ⟨hadd rfl, trivial⟩
  closes i w hw := by
    have hset := hw.setEndpoint i (e := { w.endpoint i with closed := (w.endpoint i).closed + 1 })
      (hw.endpoint i)
    rw [Run.closeEndpoint]
    split
    next cause _ =>
      split
      · exact ⟨hset, trivial⟩
      next hkind =>
        refine ⟨hset, fun hexhausted => hkind ?_⟩
        rw [hexhausted]
        rfl
    next => exact ⟨hset, trivial⟩
  books _ _ _ _ hw := { hw with }

/-- At least one member is taken of a list that has one. -/
theorem takeInt_ne_nil {α : Type} {n : Int} {xs : List α} (hn : 1 ≤ n) (hxs : xs ≠ []) :
    takeInt n xs ≠ [] := by
  cases n with
  | negSucc n => omega
  | ofNat n =>
    rw [takeInt, Ne, List.take_eq_nil_iff]
    rintro (rfl | hnil)
    · cases hn
    · exact hxs hnil

namespace Run

section Jar

variable {w w' : World} {s : SessionSource}

/-- A jar that is not low has a cookie. -/
theorem jar_ne_nil_of_full {count : Int} (hcount : 1 ≤ count) (hfull : s.isLow count = false) :
    s.jar ≠ [] := by
  intro hempty
  rw [SessionSource.isLow, hempty, decide_eq_false_iff_not] at hfull
  exact hfull hcount

/-- Without a jar there is no session. -/
theorem takeSession_of_none (hs : w.source = none) :
    takeSession w =
      (.failed { kind := .keyExchange, message := "NTS is not configured for this run" }, w) := by
  have hsource : source w =
      (.failed { kind := .keyExchange, message := "NTS is not configured for this run" }, w) := by
    rw [source, bind_done (show read (·.source) w = (.done w.source, w) from rfl), hs]
    rfl
  rw [takeSession, bind_failed hsource]

/-- A session from a jar that was filled has a cookie. -/
theorem cookies_ne_nil_of_takeInstalled {other : KeyPair} {out : HandedOut}
    (hcount : 1 ≤ w.settings.ntsSessionCookies) (hs : w.source = some s)
    (h : takeInstalled other w = (.done out, w')) : out.session.pool.cookies ≠ [] := by
  cases hlow : s.isLow w.settings.ntsSessionCookies with
  | true =>
    rw [takeInstalled_of_low hs hlow] at h
    rcases hestablish : establishTarget s.config w with ⟨ending, w₁⟩
    rw [hestablish] at h
    cases ending with
    | done m =>
      dsimp only at h
      split at h
      · cases h
        exact takeInt_ne_nil hcount (cookies_ne_nil_of_establishTarget hestablish)
      · cases h
    | failed f => cases h
    | cutOff => cases h
  | false =>
    rw [takeInstalled,
      bind_done (show read _ w = (.done w.settings.ntsSessionCookies, w) from rfl),
      bind_done (source_eq hs), hlow] at h
    dsimp only at h
    rw [if_neg Bool.false_ne_true, bind_done (source_eq hs)] at h
    cases haddress : s.address with
    | none =>
      rw [haddress] at h
      cases h
    | some address =>
      rw [haddress] at h
      cases h
      exact takeInt_ne_nil hcount (jar_ne_nil_of_full hcount hlow)

/-- Every session that is taken has a cookie. -/
theorem cookies_ne_nil_of_takeSession {out : HandedOut}
    (hcount : 1 ≤ w.settings.ntsSessionCookies) (h : takeSession w = (.done out, w')) :
    out.session.pool.cookies ≠ [] := by
  cases hs : w.source with
  | none =>
    rw [takeSession_of_none hs] at h
    cases h
  | some s =>
    cases herror : s.error with
    | some cause =>
      rw [takeSession_of_error hs herror] at h
      cases h
    | none =>
      cases hkeys : s.keys with
      | some keys =>
        rw [takeSession_of_keys hs herror hkeys] at h
        exact cookies_ne_nil_of_takeInstalled hcount hs h
      | none =>
        rw [takeSession_of_empty hs herror hkeys] at h
        have hsettings := settings_establishTarget s.config w
        rcases hestablish : establishTarget s.config w with ⟨ending, w₁⟩
        rw [hestablish] at h hsettings
        cases ending with
        | done m =>
          refine cookies_ne_nil_of_takeInstalled ?_ rfl h
          rw [← hsettings] at hcount
          exact hcount
        | failed f =>
          dsimp only at h
          split at h <;> cases h
        | cutOff => cases h

end Jar

end Run

namespace World

/-- The session at a place has a cookie. -/
def HasCookie (i : Nat) (w : World) : Prop :=
  ∃ endpoint s, w.session? i = some (endpoint, s) ∧ s.pool.cookies ≠ []

/-- A sparing world in which the session at a place has a cookie. -/
structure Supplied (i : Nat) (w : World) : Prop where
  sparing : w.Sparing
  cookie : w.HasCookie i

/-- Time makes no difference to the cookies. -/
theorem timeless_supplied (i : Nat) : Timeless (Supplied i) :=
  fun _ _ _ _ _ _ _ hw => ⟨{ hw.sparing with }, hw.cookie⟩

end World

namespace Run

variable {i endpoint : Nat} {w : World} {s : NtsSession}

/-- What is built of elementary steps is sparing. -/
theorem BuiltWith.sparing {α : Type} {endless : Prop} {x : Run α}
    (hx : BuiltWith Fault.Sparing (Elementary endless) x) : Keeps Fault.Sparing World.Sparing x :=
  elementaryLaw_sparing.keeps hx

/-- An exchange for which there is a cookie is sparing. -/
theorem sparing_exchange {cookie : Bytes} {pool : CookiePool} (call : Call)
    (hw : w.Sparing) (hsession : w.session? i = some (endpoint, s))
    (hchoose : s.chooseCookie call.cookie = .ok (cookie, pool)) :
    (call.run i w).2.Sparing ∧ (call.run i w).1.RaisesOnly Fault.Sparing := by
  obtain ⟨request, uid, e, hprotect, -⟩ :=
    protectPacket_eq_done call.packet call.placeholders hsession hchoose
  have hrest : BuiltWith Fault.Sparing (BelowSession True) (do
      let found ← session i
      let reply ←
        exchangeRaw found.1 request.data (found.2.accept request.identifier) call.timeout
      if reply.opened.authenticated then
        update (·.setPool i (found.2.pool.add reply.opened.newCookies))
      return reply) := by
    refine .bind (built_session (fun _ => Fault.Homemade.sparing) i) fun found =>
      .bind (.step (.onEndpoint found.1 (.exchange _ _ _))) fun reply => ?_
    split
    · exact .bind (.step (.bookkeeping (.pool i _))) fun _ => .pure _
    · exact .pure _
  have hpaid : (w.setPool i pool).Sparing := by
    obtain ⟨sessions, hsessions⟩ := w.exists_setPool i pool
    rw [hsessions]
    exact { hw with }
  rw [Call.run, exchangeProtected, bind_done hprotect]
  exact hrest.belowElementary.sparing _ { hpaid with }

/-- Where the session has a cookie an exchange is sparing. Behind a reply that was authenticated
and brought cookies the session has one again. -/
theorem sparing_exchange_own (call : Call) (hcookie : call.cookie = none)
    (hw : w.Supplied i) :
    (call.run i w).2.Sparing ∧ (call.run i w).1.RaisesOnly Fault.Sparing ∧
      ∀ reply, (call.run i w).1 = .done reply → reply.opened.authenticated = true →
        reply.opened.newCookies ≠ [] → (call.run i w).2.HasCookie i := by
  obtain ⟨hsparing, endpoint, s, hsession, hpool⟩ := hw
  obtain ⟨front, rest, hcons⟩ := List.exists_cons_of_ne_nil hpool
  have hchoose : s.chooseCookie call.cookie = .ok (front, ⟨rest⟩) := by
    rw [hcookie]
    exact NtsSession.chooseCookie_cons hcons
  obtain ⟨hleft, hending⟩ := sparing_exchange call hsparing hsession hchoose
  refine ⟨hleft, hending, fun reply hreply hauth hnew => ?_⟩
  obtain ⟨request, w₁, -, -, -, -, hsame, -, hafter⟩ :=
    Call.sends_of_chooseCookie hsession hchoose
  rw [← hsame, hreply, Call.gained, if_pos hauth] at hafter
  exact ⟨endpoint, _, hafter, fun hnil => hnew (List.append_eq_nil_iff.mp hnil).2⟩

/-- An exchange with a cookie that the caller brings uses none of the session. -/
theorem sparing_exchange_brought (call : Call) {cookie : Bytes}
    (hcookie : call.cookie = some cookie) :
    Keeps Fault.Sparing (World.Supplied i) (call.run i) := by
  rintro w ⟨hsparing, endpoint, s, hsession, hpool⟩
  have hchoose : s.chooseCookie call.cookie = .ok (cookie, s.pool) := by
    rw [hcookie]
    rfl
  obtain ⟨hleft, hending⟩ := sparing_exchange call hsparing hsession hchoose
  obtain ⟨request, w₁, -, -, -, -, -, -, hafter⟩ := Call.sends_of_chooseCookie hsession hchoose
  exact ⟨⟨hleft, endpoint, _, hafter, fun hnil => hpool (List.append_eq_nil_iff.mp hnil).1⟩,
    hending⟩

/-- The poll behind a protected case is sparing where the session has a cookie. -/
theorem sparing_probeProtected (i : Nat) :
    Ensures Fault.Sparing (World.Supplied i) World.Sparing (probeProtected i) := by
  have hexchange (packet : Packet) : Ensures Fault.Sparing (World.Supplied i) World.Sparing
      (exchangeProtected i packet 0 none none) := fun w hw =>
    have h := sparing_exchange_own { packet } rfl hw
    ⟨h.1, h.2.1⟩
  have hdraw : Keeps Fault.Sparing (World.Supplied i) (drawing fun e => Packet.freshPoll e) :=
    (Ambient.drawing _ : Ambient True _ _).keeps (World.timeless_supplied i)
  refine hdraw.seq (fun _ hw => hw.sparing) fun drawn =>
    (hexchange drawn.1).attempt_bind (fun reply => ?_) fun f hf => keeps_fail ?_
  · dsimp only
    split
    · exact keeps_pure ()
    · exact keeps_fail (.of_kind rfl)
  · rcases probeFault_cases (·.isInvalidReply) f with hfault | hfault
    · exact hfault.sparing
    · rwa [hfault]

end Run

end TimeProbe

import TimeProbe.Catalog.Nts
import TimeProbe.Proofs.ProtectedAnswers

/-!
# Exact verdicts of protected cases

What a protected case says about a reliable server is settled by the first answer to its request. A
poll that asks for four cookies has to bring four under protection. A poll with a forged cookie has
to be refused without authentication, or to be ignored until the timeout. Behind either the same
connection has to bring an authenticated answer to one more poll.
-/

namespace TimeProbe

/-- The code of a refused cookie is made of its own octets only. -/
theorem Packet.kissCode?_eq_ntsn_iff {p : Packet} :
    p.kissCode? = some "NTSN" ↔ p.stratum = 0 ∧ p.referenceId = [78, 84, 83, 78] := by
  have hchar (b : UInt8) : (asciiChar b = 'N' ↔ b = 78) ∧ (asciiChar b = 'T' ↔ b = 84) ∧
      (asciiChar b = 'S' ↔ b = 83) := by
    have hall : ∀ n : Fin 256, (asciiChar (.ofFin n) = 'N' ↔ UInt8.ofFin n = 78) ∧
        (asciiChar (.ofFin n) = 'T' ↔ UInt8.ofFin n = 84) ∧
        (asciiChar (.ofFin n) = 'S' ↔ UInt8.ofFin n = 83) := by
      decide +kernel
    exact hall b.toFin
  have htext (octets : Bytes) : String.ofList (octets.map asciiChar) = "NTSN" ↔
      octets = [78, 84, 83, 78] := by
    have hlist : "NTSN" = String.ofList ['N', 'T', 'S', 'N'] := rfl
    rw [hlist, String.ofList_inj]
    simp [List.map_eq_cons_iff, hchar]
  by_cases hstratum : p.stratum = 0 <;> simp [kissCode?, hstratum, htext]

namespace NtsReply

/-- A reply that fills a pool up again: it is authenticated, and four cookies came under
protection. -/
structure Refills (reply : NtsReply) : Prop where
  authenticated : reply.opened.authenticated = true
  cookies : (reply.opened.encrypted.filter
    (·.fieldType = ExtensionType.ntsCookie.code)).length = 4

/-- A reply that refuses a cookie: it is not authenticated, and it has stratum zero and the octets
of NTSN in place of a reference. -/
structure Refuses (reply : NtsReply) : Prop where
  unauthenticated : reply.opened.authenticated = false
  stratum : reply.opened.packet.stratum = 0
  reference : reply.opened.packet.referenceId = [78, 84, 83, 78]

end NtsReply

namespace Catalog.Nts

/-- A reply is judged good exactly if it fills the pool up again; another one fails the test and is
shown. -/
theorem judgeHappy_cases (reply : NtsReply) :
    (reply.Refills ∧ judgeHappy reply = .ok ()) ∨
      (¬ reply.Refills ∧ ∃ reason,
        judgeHappy reply = .error (Fault.failure reason (.packet reply.opened.packet))) := by
  rw [judgeHappy, Expect.equal]
  by_cases hauth : reply.opened.authenticated = true
  · rw [Expect.that_of_true hauth]
    have hcount : (Value.int reply.opened.newCookies.length).same (.int (placeholders + 1)) = true ↔
        (reply.opened.encrypted.filter
          (·.fieldType = ExtensionType.ntsCookie.code)).length = 4 := by
      rw [Value.same_int_iff, OpenedReply.newCookies, List.length_map]
      exact Int.natCast_inj
    by_cases hcookies : (Value.int reply.opened.newCookies.length).same
        (.int (placeholders + 1)) = true
    · rw [Expect.that_of_true hcookies]
      exact .inl ⟨⟨hauth, hcount.mp hcookies⟩, rfl⟩
    · rw [Expect.that_of_not hcookies]
      exact .inr ⟨fun h => hcookies (hcount.mpr h.cookies), _, rfl⟩
  · rw [Expect.that_of_not hauth]
    exact .inr ⟨fun h => hauth h.authenticated, _, rfl⟩

/-- A reply to a forged cookie is judged good exactly if it refuses the cookie; another one fails
the test and is shown. -/
theorem judgeRefusal_cases (reply : NtsReply) :
    (reply.Refuses ∧ judgeRefusal reply = .ok ()) ∨
      (¬ reply.Refuses ∧ ∃ reason,
        judgeRefusal reply = .error (Fault.failure reason (.packet reply.opened.packet))) := by
  rw [judgeRefusal, Expect.equal]
  by_cases hauth : (!reply.opened.authenticated) = true
  · rw [Expect.that_of_true hauth]
    rw [Bool.not_eq_true'] at hauth
    cases hcode : reply.opened.packet.kissCode? with
    | none =>
      refine .inr ⟨fun h => ?_, _, rfl⟩
      rw [Packet.kissCode?_eq_ntsn_iff.mpr ⟨h.stratum, h.reference⟩] at hcode
      cases hcode
    | some code =>
      by_cases hsame : (Value.text code).same (.text "NTSN") = true
      · obtain rfl : code = "NTSN" := beq_iff_eq.mp hsame
        obtain ⟨hstratum, hreference⟩ := Packet.kissCode?_eq_ntsn_iff.mp hcode
        exact .inl ⟨⟨hauth, hstratum, hreference⟩, rfl⟩
      · dsimp only
        rw [Expect.that_of_not hsame]
        refine .inr ⟨fun h => hsame ?_, _, rfl⟩
        rw [Packet.kissCode?_eq_ntsn_iff.mpr ⟨h.stratum, h.reference⟩] at hcode
        cases hcode
        exact beq_self_eq_true _
  · rw [Expect.that_of_not hauth]
    exact .inr ⟨fun h => hauth (by rw [h.unauthenticated]; rfl), _, rfl⟩

/-- The body of the case of an ordinary protected poll. -/
def askForCookies (i : Nat) : Run Unit := do
  let drawn ← Run.drawing fun e => Packet.freshPoll e
  let reply ← Expect.reply (Run.exchangeProtected i drawn.1 placeholders none none)
  Expect.check (judgeHappy reply)

/-- What the end of an exchange with a forged cookie comes to. -/
def settle : Except Fault NtsReply → Run Unit
  | .ok reply => Expect.check (judgeRefusal reply)
  | .error f => if f.kind.isA .receiveTimeout then return () else Run.fail f

/-- The body of the case of a forged cookie. -/
def offerForgery (i : Nat) : Run Unit := do
  let found ← Run.session i
  let drawn ← Run.drawing fun e => Packet.freshPoll e
  let cookie ← Run.draw (forgedLength found.2.pool)
  let result ← Run.attempt
    (Expect.reply (Run.exchangeProtected i drawn.1 0 (some cookie) none))
  settle result

/-- The case of an ordinary protected poll has the body of that name. -/
theorem exists_happy_eq : ∃ name summary, happy = .guarded name summary askForCookies :=
  ⟨_, _, rfl⟩

/-- The case of a forged cookie has the body of that name. -/
theorem exists_invalidCookieIsRejected_eq :
    ∃ name summary, invalidCookieIsRejected = .guarded name summary offerForgery :=
  ⟨_, _, rfl⟩

end Catalog.Nts

namespace World

/-- The verdict on a server that is asked for four cookies. It passes exactly if the first answer
fills the pool up again and the server is alive behind it. An answer that does not fails the test
and is shown. -/
structure JudgesRefill (w : World) (i : Nat) (outcome : Outcome) : Prop where
  passed : outcome.kind = .passed ↔
    ∃ r : SealedRequest w.polled i w.poll 3 none, ∃ earlier time reply later,
      r.Brings earlier time reply later ∧ reply.Refills ∧
        (r.answered earlier time reply later).AliveUnderKeys i
  failed : ∀ r : SealedRequest w.polled i w.poll 3 none, ∀ earlier time reply later,
    r.Brings earlier time reply later → ¬ reply.Refills →
    outcome.kind = .failed ∧ outcome.detail = some (Value.packet reply.opened.packet).literal

/-- The cookie that is forged for a session behind a poll: random octets, as many as a cookie of the
session has. -/
def forgedCookie (w : World) (s : NtsSession) : Bytes :=
  (w.polled.entropy.draw (Catalog.Nts.forgedLength s.pool)).1

/-- The world in which a poll and a cookie for it are drawn. -/
def forging (w : World) (s : NtsSession) : World :=
  { w.polled with entropy := (w.polled.entropy.draw (Catalog.Nts.forgedLength s.pool)).2 }

/-- A poll that goes out with a forged cookie. -/
abbrev Forgery (w : World) (i : Nat) (s : NtsSession) : Type :=
  SealedRequest (w.forging s) i w.poll 0 (some (w.forgedCookie s))

/-- The verdict on a server that is sent a forged cookie. It passes exactly if the first answer
refuses the cookie, or everything is ignored until the exchange ends with a receive timeout, and the
server is alive behind it. Another answer fails the test and is shown, in particular one that is
authenticated. Up to the poll behind the test the session is spared. -/
structure JudgesForgery (w : World) (i : Nat) (s : NtsSession) (r : w.Forgery i s)
    (outcome : Outcome) : Prop where
  passed : outcome.kind = .passed ↔
    (∃ earlier time reply later, r.Brings earlier time reply later ∧ reply.Refuses ∧
      (r.answered earlier time reply later).AliveUnderKeys i) ∨
    (r.Ignored ∧ r.timedOut.AliveUnderKeys i)
  ignored : r.Ignored ↔ ∃ f w', Run.exchangeProtected i w.poll 0 (some (w.forgedCookie s)) none
    (w.forging s) = (.failed f, w') ∧ f.kind.isA .receiveTimeout = true
  failed : ∀ earlier time reply later, r.Brings earlier time reply later → ¬ reply.Refuses →
    outcome.kind = .failed ∧ outcome.detail = some (Value.packet reply.opened.packet).literal
  honoured : ∀ earlier time reply later, r.Brings earlier time reply later →
    reply.opened.authenticated = true → outcome.kind = .failed
  spared : r.Spares (Catalog.Nts.offerForgery i w).2

end World

namespace Run

open Catalog

variable {w : World} {i endpoint : Nat} {s : NtsSession}

/-- **Asking for cookies is exact.** On a reliable server a poll that is not cut off ends well if
the first answer fills the pool up again, and takes it; it fails the test and shows the packet if
the answer does not, and it ends with an ordinary fault if there is none. -/
theorem askForCookies_of_reliable (hsession : w.session? i = some (endpoint, s))
    (h : w.Reliable endpoint) (hfinished : (Nts.askForCookies i w).1 ≠ .cutOff) :
    (∃ r : SealedRequest w.polled i w.poll 3 none, ∃ earlier time reply later limits overlooked,
      r.endpoint = endpoint ∧ r.Brings earlier time reply later ∧ reply.Refills ∧
      Nts.askForCookies i w =
        (.done (), { r.answered earlier time reply later with limits, overlooked })) ∨
    (∃ r : SealedRequest w.polled i w.poll 3 none, ∃ earlier time reply later,
      r.Brings earlier time reply later ∧ ¬ reply.Refills ∧
      ∃ reason w', Nts.askForCookies i w =
        (.failed (Fault.failure reason (.packet reply.opened.packet)), w')) ∨
    ((∀ r : SealedRequest w.polled i w.poll 3 none, ∀ earlier time reply later,
        ¬ r.Brings earlier time reply later) ∧
      ∃ f w', Nts.askForCookies i w = (.failed f, w') ∧ f.Ordinary) := by
  have hpolled : w.polled.session? i = some (endpoint, s) := hsession
  rw [Nts.askForCookies, bind_done (drawing_poll w)] at hfinished ⊢
  dsimp only [Nts.placeholders] at hfinished ⊢
  rcases exists_sealedRequest_or_failed w.poll 3 none hpolled with
    ⟨r, rfl⟩ | ⟨hnone, f, hexchange, hf⟩
  · have hreliable : w.polled.Reliable r.endpoint := h.of_endpoints rfl
    rcases exchangeProtected_of_reliable r hreliable
      (ne_cutOff_of_reply (ne_cutOff_of_bind hfinished)) with
      ⟨earlier, time, reply, later, limits, overlooked, hbrings, hrun⟩ |
      ⟨hnothing, f, left, m, limits, overlooked, hrun, hf, -⟩
    · rw [bind_done (reply_done hrun)]
      rcases Nts.judgeHappy_cases reply with ⟨hgood, hjudge⟩ | ⟨hbad, reason, hjudge⟩
      · rw [hjudge]
        exact .inl ⟨r, earlier, time, reply, later, limits, overlooked, rfl, hbrings, hgood, rfl⟩
      · rw [hjudge]
        exact .inr (.inl ⟨r, earlier, time, reply, later, hbrings, hbad, reason, _, rfl⟩)
    · obtain ⟨f', hreply, hf', -⟩ := exists_reply_failed hrun hf
      rw [bind_failed hreply]
      refine .inr (.inr ⟨fun r' => ?_, f', _, rfl, hf'⟩)
      cases Subsingleton.elim r r'
      exact hnothing
  · obtain ⟨f', hreply, hf', -⟩ := exists_reply_failed hexchange hf
    rw [bind_failed hreply]
    exact .inr (.inr ⟨fun r => (hnone.false r).elim, f', _, rfl, hf'⟩)

/-- Offering a forged cookie is an exchange with it, the end of which is then settled. -/
theorem offerForgery_eq (hsession : w.session? i = some (endpoint, s)) :
    Nts.offerForgery i w =
      (attempt (Expect.reply (exchangeProtected i w.poll 0 (some (w.forgedCookie s)) none)) >>=
        Nts.settle) (w.forging s) := by
  have hdrawn : draw (Nts.forgedLength s.pool) w.polled =
      (.done (w.forgedCookie s), w.forging s) := rfl
  rw [Nts.offerForgery, bind_done (session_eq hsession), bind_done (drawing_poll w)]
  exact bind_done hdrawn _

/-- Settling the end of an exchange leaves the world as it is. -/
theorem snd_settle (result : Except Fault NtsReply) (w : World) : (Nts.settle result w).2 = w := by
  cases result with
  | ok reply =>
    rw [Nts.settle, Expect.check]
    cases Nts.judgeRefusal reply <;> rfl
  | error f =>
    rw [Nts.settle]
    split <;> rfl

section

variable (hsession : w.session? i = some (endpoint, s))
  (hfinished : (Nts.offerForgery i w).1 ≠ .cutOff)

include hsession hfinished

/-- Where a forged cookie is offered to the end, its exchange is not cut off and leaves the world as
the body does. -/
theorem exchange_of_offerForgery :
    (exchangeProtected i w.poll 0 (some (w.forgedCookie s)) none (w.forging s)).1 ≠ .cutOff ∧
      (exchangeProtected i w.poll 0 (some (w.forgedCookie s)) none (w.forging s)).2 =
        (Nts.offerForgery i w).2 := by
  rw [offerForgery_eq hsession] at hfinished ⊢
  refine ⟨ne_cutOff_of_reply (ne_cutOff_of_attempt (ne_cutOff_of_bind hfinished)), ?_⟩
  rw [snd_bind_of_still snd_settle, snd_attempt, snd_reply]

/-- **Offering a forged cookie is exact.** On a reliable server a body that is not cut off ends well
if the first answer refuses the cookie, or if everything is ignored until the timeout; it fails the
test and shows the packet if there is another answer, and it ends with an ordinary fault if there is
none and something else came. -/
theorem offerForgery_of_reliable (r : w.Forgery i s) (h : w.Reliable r.endpoint) :
    (∃ earlier time reply later limits overlooked,
      r.Brings earlier time reply later ∧ reply.Refuses ∧
      Nts.offerForgery i w =
        (.done (), { r.answered earlier time reply later with limits, overlooked })) ∨
    (∃ earlier time reply later, r.Brings earlier time reply later ∧ ¬ reply.Refuses ∧
      ∃ reason w', Nts.offerForgery i w =
        (.failed (Fault.failure reason (.packet reply.opened.packet)), w')) ∨
    (r.Ignored ∧ ∃ limits overlooked,
      Nts.offerForgery i w = (.done (), { r.timedOut with limits, overlooked })) ∨
    (¬ r.Ignored ∧ (∀ earlier time reply later, ¬ r.Brings earlier time reply later) ∧
      ∃ f w', Nts.offerForgery i w = (.failed f, w') ∧ f.Ordinary) := by
  have hreliable : (w.forging s).Reliable r.endpoint := h.of_endpoints rfl
  obtain ⟨hexchange, -⟩ := exchange_of_offerForgery hsession hfinished
  rw [offerForgery_eq hsession]
  rcases exchangeProtected_of_reliable r hreliable hexchange with
    ⟨earlier, time, reply, later, limits, overlooked, hbrings, hrun⟩ |
    ⟨hnothing, f, left, m, limits, overlooked, hrun, hf, hignored, hstays⟩
  · rw [bind_done (attempt_done (reply_done hrun)), Nts.settle]
    rcases Nts.judgeRefusal_cases reply with ⟨hgood, hjudge⟩ | ⟨hbad, reason, hjudge⟩
    · rw [hjudge]
      exact .inl ⟨earlier, time, reply, later, limits, overlooked, hbrings, hgood, rfl⟩
    · rw [hjudge]
      exact .inr (.inl ⟨earlier, time, reply, later, hbrings, hbad, reason, _, rfl⟩)
  · obtain ⟨f', hreply, hf', hkind⟩ := exists_reply_failed hrun hf
    rw [← hkind] at hignored hstays
    rw [bind_done (attempt_failed hreply), Nts.settle]
    by_cases htimeout : f'.kind.isA .receiveTimeout = true
    · rw [if_pos htimeout, hstays htimeout]
      exact .inr (.inr (.inl ⟨hignored.mp htimeout, limits, overlooked, rfl⟩))
    · rw [if_neg htimeout]
      exact .inr (.inr (.inr ⟨mt hignored.mpr htimeout, hnothing, f', _, rfl, hf'⟩))

end

/-- What is offered is a request on the connection. -/
theorem exists_forgery (hsession : w.session? i = some (endpoint, s)) :
    ∃ r : w.Forgery i s, r.endpoint = endpoint := by
  have hforging : (w.forging s).session? i = some (endpoint, s) := hsession
  have hchoose : s.chooseCookie (some (w.forgedCookie s)) = .ok (w.forgedCookie s, s.pool) := rfl
  obtain ⟨r, hendpoint, -⟩ := SealedRequest.exists_of_chooseCookie w.poll 0 hforging hchoose
  exact ⟨r, hendpoint⟩

/-- What a body does that asks for cookies, it does on its connection. -/
theorem body_askForCookies (i : Nat) :
    Built (OrAmbient False (OnSession i)) (Nts.askForCookies i) :=
  .bind (.ambient (.drawing _)) fun _ =>
    .bind (.reply (fun _ _ => trivial) (.own (.exchange _ _ _ _))) fun _ =>
      .ofExcept fun _ _ => trivial

/-- What a body does that offers a forged cookie, it does on its connection. -/
theorem body_offerForgery (i : Nat) :
    Built (OrAmbient False (OnSession i)) (Nts.offerForgery i) := by
  refine .bind (.own .look) fun found => .bind (.ambient (.drawing _)) fun drawn =>
    .bind (.ambient (.draw _)) fun cookie =>
    .attempt (.reply (fun _ _ => trivial) (.own (.exchange _ _ _ _)))
      (fun reply => .ofExcept fun _ _ => trivial) fun f _ => ?_
  rw [Nts.settle]
  split
  · exact .pure ()
  · exact .fail trivial

variable {c : RunConfig} {limit : Binary64} {w₁ : World}

/-- The verdict of the case that asks a reliable server for cookies. -/
theorem exists_judgesRefill (hw : w.limits = []) (hserver : (w.udpScripts.headD {}).Reliable)
    (hconnect : connectProtected c (w.under limit) = (.done i, w₁))
    (hends : Nts.happy.EndsWithin c limit w) :
    ∃ outcome w', runCase c limit Nts.happy w = (.done outcome, w') ∧
      w₁.JudgesRefill i outcome := by
  have hscript : ((w.under limit).udpScripts.headD {}).Reliable := hserver
  obtain ⟨endpoint, s, hsession, hreliable⟩ := reliable_of_connectProtected hscript hconnect
  obtain ⟨name, summary, hcase⟩ := Nts.exists_happy_eq
  rw [hcase] at hends ⊢
  obtain ⟨hfinished, hjudged⟩ := exists_judges_guarded hw hserver body_askForCookies hconnect hends
  have hverdict := verdict_of_first hjudged hfinished
    (fun a : SealedRequest w₁.polled i w₁.poll 3 none × FirstAnswer NtsReply =>
      a.1.Brings a.2.earlier a.2.time a.2.answer a.2.later)
    (fun a => a.2.answer.Refills)
    (fun a => (a.1.answered a.2.earlier a.2.time a.2.answer a.2.later).AliveUnderKeys i)
    (fun a => .packet a.2.answer.opened.packet)
  specialize hverdict ?_ ?_
  · rintro ⟨r, earlier, time, reply, later⟩ ⟨r', earlier', time', reply', later'⟩ hbrings hbrings'
    cases Subsingleton.elim r r'
    obtain ⟨rfl, rfl, rfl, rfl⟩ := SealedRequest.Brings.unique hbrings hbrings'
    rfl
  · rcases askForCookies_of_reliable hsession hreliable (ne_cutOff_of_bind hfinished) with
      ⟨r, earlier, time, reply, later, limits, overlooked, rfl, hbrings, hgood, hrun⟩ |
      ⟨r, earlier, time, reply, later, hbrings, hbad, reason, w₂, hrun⟩ |
      ⟨hnothing, f, w₂, hrun, hf⟩
    · exact .inl ⟨⟨r, earlier, time, reply, later⟩, _, hbrings, hgood, hrun,
        probe_answered_of_reliable r (hreliable.of_endpoints rfl) hbrings limits overlooked⟩
    · exact .inr (.inl ⟨⟨r, earlier, time, reply, later⟩, reason, w₂, hbrings, hbad, hrun⟩)
    · exact .inr (.inr ⟨fun a => hnothing a.1 a.2.earlier a.2.time a.2.answer a.2.later, f, w₂,
        hrun, hf⟩)
  obtain ⟨outcome, w', hcase, hpassed, hfailed⟩ := hverdict
  refine ⟨outcome, w', hcase, hpassed.trans ⟨?_, ?_⟩, ?_⟩
  · rintro ⟨a, hbrings, hgood, halive⟩
    exact ⟨a.1, _, _, _, _, hbrings, hgood, halive⟩
  · rintro ⟨r, earlier, time, reply, later, hbrings, hgood, halive⟩
    exact ⟨⟨r, earlier, time, reply, later⟩, hbrings, hgood, halive⟩
  · exact fun r earlier time reply later => hfailed ⟨r, earlier, time, reply, later⟩

/-- The verdict of the case that offers a reliable server a forged cookie. -/
theorem exists_judgesForgery (hw : w.limits = []) (hserver : (w.udpScripts.headD {}).Reliable)
    (hconnect : connectProtected c (w.under limit) = (.done i, w₁))
    (hends : Nts.invalidCookieIsRejected.EndsWithin c limit w) :
    ∃ endpoint s outcome w', ∃ r : w₁.Forgery i s, w₁.session? i = some (endpoint, s) ∧
      runCase c limit Nts.invalidCookieIsRejected w = (.done outcome, w') ∧
      w₁.JudgesForgery i s r outcome := by
  have hscript : ((w.under limit).udpScripts.headD {}).Reliable := hserver
  obtain ⟨endpoint, s, hsession, hreliable⟩ := reliable_of_connectProtected hscript hconnect
  obtain ⟨name, summary, hcase⟩ := Nts.exists_invalidCookieIsRejected_eq
  rw [hcase] at hends ⊢
  obtain ⟨hfinished, hjudged⟩ := exists_judges_guarded hw hserver body_offerForgery hconnect hends
  obtain ⟨r, rfl⟩ := exists_forgery hsession
  have hoffered := ne_cutOff_of_bind hfinished
  have hforging : (w₁.forging s).Reliable r.endpoint := hreliable.of_endpoints rfl
  obtain ⟨hexchange, hworld⟩ := exchange_of_offerForgery hsession hoffered
  have hignored := ignored_iff_of_reliable r hforging hexchange
  have hspared := spares_of_reliable r hforging hexchange
  rw [hworld] at hspared
  -- What comes first is an answer, or that everything is ignored until the timeout.
  have hverdict := verdict_of_first hjudged hfinished
    (fun a : Option (FirstAnswer NtsReply) => a.elim r.Ignored fun a =>
      r.Brings a.earlier a.time a.answer a.later)
    (fun a => a.elim True fun a => a.answer.Refuses)
    (fun a => a.elim (r.timedOut.AliveUnderKeys i) fun a =>
      (r.answered a.earlier a.time a.answer a.later).AliveUnderKeys i)
    (fun a => a.elim .absent fun a => .packet a.answer.opened.packet)
  specialize hverdict ?_ ?_
  · rintro (_ | ⟨earlier, time, reply, later⟩) (_ | ⟨earlier', time', reply', later'⟩) h h'
    · rfl
    · exact absurd h (SealedRequest.Brings.not_ignored h')
    · exact absurd h' (SealedRequest.Brings.not_ignored h)
    · obtain ⟨rfl, rfl, rfl, rfl⟩ := SealedRequest.Brings.unique h h'
      rfl
  · rcases offerForgery_of_reliable hsession hoffered r hreliable with
      ⟨earlier, time, reply, later, limits, overlooked, hbrings, hgood, hrun⟩ |
      ⟨earlier, time, reply, later, hbrings, hbad, reason, w₂, hrun⟩ |
      ⟨hquiet, limits, overlooked, hrun⟩ |
      ⟨hnoise, hnothing, f, w₂, hrun, hf⟩
    · exact .inl ⟨some ⟨earlier, time, reply, later⟩, _, hbrings, hgood, hrun,
        probe_answered_of_reliable r hforging hbrings limits overlooked⟩
    · exact .inr (.inl ⟨some ⟨earlier, time, reply, later⟩, reason, w₂, hbrings, hbad, hrun⟩)
    · exact .inl ⟨none, _, hquiet, trivial, hrun,
        probe_timedOut_of_reliable r hforging limits overlooked⟩
    · refine .inr (.inr ⟨?_, f, w₂, hrun, hf⟩)
      rintro (_ | ⟨earlier, time, reply, later⟩)
      · exact hnoise
      · exact hnothing earlier time reply later
  obtain ⟨outcome, w', hrun, hpassed, hfailed⟩ := hverdict
  have hshown (earlier : List (Nat × Arrival)) (time : Nat) (reply : NtsReply)
      (later : List (Nat × Arrival)) := hfailed (some ⟨earlier, time, reply, later⟩)
  refine ⟨_, s, outcome, w', r, hsession, hrun, hpassed.trans ⟨?_, ?_⟩, hignored, hshown, ?_,
    hspared⟩
  · rintro ⟨_ | ⟨earlier, time, reply, later⟩, hcomes, hgood, halive⟩
    · exact .inr ⟨hcomes, halive⟩
    · exact .inl ⟨earlier, time, reply, later, hcomes, hgood, halive⟩
  · rintro (⟨earlier, time, reply, later, hbrings, hgood, halive⟩ | ⟨hquiet, halive⟩)
    · exact ⟨some ⟨earlier, time, reply, later⟩, hbrings, hgood, halive⟩
    · exact ⟨none, hquiet, trivial, halive⟩
  · intro earlier time reply later hbrings hauth
    refine (hshown earlier time reply later hbrings fun hrefuses => ?_).1
    rw [hrefuses.unauthenticated] at hauth
    cases hauth

/-- **The verdicts of protected cases are exact.** Let the server be one under which every send
succeeds, and let a case get a session and end within its timeout. The case that asks for cookies
passes exactly if the first answer to its poll, in time and before any error of the socket, is
authenticated and has four cookies in its encrypted part, and the server is alive under the keys
behind it. The case of a forged cookie passes exactly if the first answer is an unauthenticated
refusal, or the exchange ends with a receive timeout since all that came was ignored, and the server
is alive behind it; it fails if that answer is authenticated, and it sends no cookie of the session
before the poll behind it. -/
theorem protected_verdicts_exact (c : RunConfig) (limit : Binary64) {w w₁ : World} {i : Nat}
    (hw : w.limits = []) (hserver : (w.udpScripts.headD {}).Reliable)
    (hconnect : connectProtected c (w.under limit) = (.done i, w₁)) :
    (Nts.happy.EndsWithin c limit w →
      ∃ outcome w', runCase c limit Nts.happy w = (.done outcome, w') ∧
        w₁.JudgesRefill i outcome) ∧
    (Nts.invalidCookieIsRejected.EndsWithin c limit w →
      ∃ endpoint s outcome w', ∃ r : w₁.Forgery i s, w₁.session? i = some (endpoint, s) ∧
        runCase c limit Nts.invalidCookieIsRejected w = (.done outcome, w') ∧
        w₁.JudgesForgery i s r outcome) :=
  ⟨exists_judgesRefill hw hserver hconnect, exists_judgesForgery hw hserver hconnect⟩

/-- A server that answers an ordinary poll without authentication and with four cookies in the
clear, refuses a forged one, and then gives an authenticated answer. The ordinary case fails, and
the one of the forged cookie passes. -/
theorem protected_verdicts_exact_in_the_clear :
    let c : RunConfig :=
      { (default : RunConfig) with
        target := "192.0.2.1", timeout := Binary64.ofMillis 100, ntsEnabled := true }
    let limit := Binary64.ofMillis 1000
    let cipher : Aead.Cipher := ⟨.sivCmac256, List.replicate 32 7, rfl⟩
    let answer (polled drawn : Nat) (p : Packet) (fields : List ExtensionField) : Event :=
      { arrival := .datagram (Packet.encode
        { p with
          mode := Mode.server.code
          originTimestamp := ({ draws := polled } : Entropy).drawWord.1
          extensionFields :=
            .uniqueIdentifier (({ draws := drawn } : Entropy).draw uidLength).1 :: fields }) }
    let clear := answer 0 1 { stratum := 2 } (List.replicate 4 (.cookie [1, 2, 3, 4]))
    let refusal := answer 0 2 { referenceId := [78, 84, 83, 78] } []
    -- The tag is that of the empty text behind the other octets, under the key.
    let alive := answer 4 5 {} [.ofSealed (Bytes.zeros 16)
      [239, 179, 176, 48, 18, 202, 5, 29, 9, 34, 36, 164, 148, 106, 119, 238]]
    let w : World :=
      { settings := { ntsSessionCookies := 1 }
        source := some
          { config := c, keys := some ⟨cipher, cipher⟩, jar := [[9, 9, 9, 9]]
            address := some ⟨"192.0.2.1", 123⟩ }
        udpScripts := [{ sends := [.deliver [clear, refusal], .deliver [alive]] }] }
    w.limits = [] ∧ (w.udpScripts.headD {}).Reliable ∧
    ∃ w₁, connectProtected c (w.under limit) = (.done 0, w₁) ∧
      (Nts.happy.EndsWithin c limit w ∧
        ∃ outcome w', runCase c limit Nts.happy w = (.done outcome, w') ∧
          outcome.kind = .failed ∧ w₁.JudgesRefill 0 outcome) ∧
      (Nts.invalidCookieIsRejected.EndsWithin c limit w ∧
        ∃ endpoint s outcome w', ∃ r : w₁.Forgery 0 s, w₁.session? 0 = some (endpoint, s) ∧
          runCase c limit Nts.invalidCookieIsRejected w = (.done outcome, w') ∧
          outcome.kind = .passed ∧ w₁.JudgesForgery 0 s r outcome) := by
  intro c limit cipher answer clear refusal alive w
  obtain ⟨hserver, hconnected, hends, hfailed, hends', hpassed⟩ :
      (w.udpScripts.headD {}).Reliable ∧
      (connectProtected c (w.under limit)).1.result? = some 0 ∧
      Nts.happy.EndsWithin c limit w ∧
      (∀ outcome ∈ (runCase c limit Nts.happy w).1.result?, outcome.kind = .failed) ∧
      Nts.invalidCookieIsRejected.EndsWithin c limit w ∧
      ∀ outcome ∈ (runCase c limit Nts.invalidCookieIsRejected w).1.result?,
        outcome.kind = .passed := by
    decide +kernel +revert
  rcases hconnect : connectProtected c (w.under limit) with ⟨ending, w₁⟩
  rw [hconnect] at hconnected
  cases ending with
  | done i =>
    cases hconnected
    have hverdicts := protected_verdicts_exact c limit (w := w) rfl hserver hconnect
    refine ⟨rfl, hserver, w₁, rfl, ⟨hends, ?_⟩, hends', ?_⟩
    · obtain ⟨outcome, w', hrun, hjudges⟩ := hverdicts.1 hends
      rw [hrun] at hfailed
      exact ⟨outcome, w', hrun, hfailed outcome rfl, hjudges⟩
    · obtain ⟨endpoint, s, outcome, w', r, hsession, hrun, hjudges⟩ := hverdicts.2 hends'
      rw [hrun] at hpassed
      exact ⟨endpoint, s, outcome, w', r, hsession, hrun, hpassed outcome rfl, hjudges⟩
  | failed f => cases hconnected
  | cutOff => cases hconnected

end Run

end TimeProbe

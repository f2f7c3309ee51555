import TimeProbe.Proofs.CaseOutcomes
import TimeProbe.Proofs.TlsHandshake

/-!
# Opening a TLS stream is all or nothing

A stream is opened if the connection is made, the handshake comes to its end in time, the protocol
agreed to is the right one and the identity of the server is. In any other case opening fails with a
fault that says whether it was for a certificate, and a connection that was made is closed, once,
whatever happens while it is closed.
-/

namespace TimeProbe

namespace Tls

/-- Whether something is done to check an identity. -/
def Act.isCheck : Act → Bool
  | .verifyName _ | .verifyAddress _ => true
  | _ => false

/-- The scripts of a connection that was not used yet: also connecting and the handshake have only
faults of their own kinds. -/
structure Wire.Scripted (w : Wire) : Prop extends w.Genuine where
  connecting : ∀ f ∈ w.connectFault, f.kind.isA .os = true
  shaking : ∀ f, .fault f ∈ w.handshake → f.kind.isA .tls = true
  unread : w.ended = false

namespace Stream

/-- The server can be named: it has an address, or a name that can be announced with the preparation
of labels that there is. -/
def HasName (s : Stream) (w : World) : Prop :=
  Host.isAddress s.address.host = true ∨
    ∃ name, Host.announced w.preparation s.address.host = .ok name

/-- What is done to name the server. -/
def announcement (s : Stream) (w : World) : List Act :=
  if Host.isAddress s.address.host then []
  else (Host.announced w.preparation s.address.host).toOption.toList.map .announce

/-- What is done before the handshake. -/
def preamble (s : Stream) (w : World) : List Act :=
  .connect s.address.host s.address.port :: s.announcement w ++ [.becomeClient]

/-- The connection is made, and in time. -/
structure Connects (s : Stream) (w : World) : Prop where
  started : s.timeout.letsStart = true
  accepted : w.wire.connectFault = none
  inTime : (w.now.afterPause w.wire.connectTicks).before (w.now.afterTimeout s.timeout) = true

/-- The world once the connection was made and the engine knows what to do. -/
def connected (s : Stream) (w : World) : World :=
  { w with
    now := w.now.afterPause w.wire.connectTicks
    wire := { w.wire with acts := w.wire.acts ++ s.preamble w } }

/-- The handshake comes to its end under its timeout. -/
def Completes (s : Stream) (w : World) : Prop :=
  ∃ w', ((s.connected w).under s.timeout).shaken s.timeout = some w'

/-- The engine refuses a certificate under the timeout of the handshake. -/
def Refuses (s : Stream) (w : World) : Prop :=
  ((s.connected w).under s.timeout).RefusesCertificate s.timeout

/-- The way in which the identity of the server is checked. -/
def check (s : Stream) : Act :=
  if Host.isAddress s.address.host then .verifyAddress s.address.host
  else .verifyName s.address.host

/-- All that opening a stream takes. -/
structure Opens (s : Stream) (w : World) : Prop where
  connects : s.Connects w
  completes : s.Completes w
  agreed : w.wire.negotiated = alpn
  verified : w.wire.verifyFault = none

/-- The server is not trusted: its certificate is refused in the handshake, or is for another server
than the one that the handshake was made with. -/
def Distrusts (s : Stream) (w : World) : Prop :=
  s.Connects w ∧
    (s.Refuses w ∨ s.Completes w ∧ w.wire.negotiated = alpn ∧ w.wire.verifyFault ≠ none)

/-- How an opening goes on once the connection was made, with the checks made by then. -/
inductive Decides (s : Stream) (w : World) : Ending Unit → List Act → Prop
  | trusted (completes : s.Completes w) (agreed : w.wire.negotiated = alpn)
      (verified : w.wire.verifyFault = none) : Decides s w (.done ()) [s.check]
  | mismatch (completes : s.Completes w) (agreed : w.wire.negotiated = alpn)
      (unverified : w.wire.verifyFault ≠ none) {f : Fault} (kind : f.kind = .keCertificate) :
      Decides s w (.failed f) [s.check]
  | otherProtocol (completes : s.Completes w) (disagreed : w.wire.negotiated ≠ alpn) {f : Fault}
      (kind : f.kind = .keConnect) : Decides s w (.failed f) []
  | refused (refuses : s.Refuses w) {f : Fault} (kind : f.kind = .keCertificate) :
      Decides s w (.failed f) []
  | broken (incomplete : ¬ s.Completes w) (unrefused : ¬ s.Refuses w) {f : Fault}
      (kind : f.kind ∈ [FaultKind.keConnect, .transport, .receiveTimeout, .unexpectedClose,
        .timeout]) : Decides s w (.failed f) []

variable {s : Stream} {w : World} {ending : Ending Unit} {checks : List Act}

/-- A handshake in which a certificate is refused does not come to its end. -/
theorem Completes.not_refuses (h : s.Completes w) : ¬ s.Refuses w := by
  obtain ⟨v, hshaken⟩ := h
  rintro ⟨cause, left, v', hconversation, -⟩
  simp [World.shaken, hconversation, isShaken] at hshaken

/-- Opening ends as it has to, with a fault that tells a certificate from the rest. -/
theorem Decides.ends (h : s.Decides w ending checks) (hconnects : s.Connects w) :
    (ending = .done () ∧ s.Opens w ∧ ¬ s.Distrusts w) ∨
      (∃ f, ending = .failed f ∧ f.kind = .keCertificate ∧ ¬ s.Opens w ∧ s.Distrusts w) ∨
      ∃ f, ending = .failed f ∧ f.kind ∈ [FaultKind.keConnect, .transport, .receiveTimeout,
        .unexpectedClose, .timeout] ∧ ¬ s.Opens w ∧ ¬ s.Distrusts w := by
  cases h with
  | trusted completes agreed verified =>
    refine .inl ⟨rfl, ⟨hconnects, completes, agreed, verified⟩, ?_⟩
    rintro ⟨-, hrefuses | ⟨-, -, hunverified⟩⟩
    · exact completes.not_refuses hrefuses
    · exact hunverified verified
  | mismatch completes agreed unverified kind =>
    exact .inr (.inl ⟨_, rfl, kind, fun hopens => unverified hopens.verified, hconnects,
      .inr ⟨completes, agreed, unverified⟩⟩)
  | otherProtocol completes disagreed kind =>
    refine .inr (.inr ⟨_, rfl, by simp [kind], fun hopens => disagreed hopens.agreed, ?_⟩)
    rintro ⟨-, hrefuses | ⟨-, hagreed, -⟩⟩
    · exact completes.not_refuses hrefuses
    · exact disagreed hagreed
  | refused refuses kind =>
    exact .inr (.inl ⟨_, rfl, kind, fun hopens => hopens.completes.not_refuses refuses, hconnects,
      .inl refuses⟩)
  | broken incomplete unrefused kind =>
    refine .inr (.inr ⟨_, rfl, kind, fun hopens => incomplete hopens.completes, ?_⟩)
    rintro ⟨-, hrefuses | ⟨hcompletes, -⟩⟩
    · exact unrefused hrefuses
    · exact incomplete hcompletes

/-- Checks are made only once the handshake is over and the right protocol was agreed to. -/
theorem Decides.checked (h : s.Decides w ending checks) {a : Act} (ha : a ∈ checks) :
    a = s.check ∧ s.Completes w ∧ w.wire.negotiated = alpn := by
  cases h with
  | trusted completes agreed _ => exact ⟨List.mem_singleton.mp ha, completes, agreed⟩
  | mismatch completes agreed _ _ => exact ⟨List.mem_singleton.mp ha, completes, agreed⟩
  | otherProtocol _ _ _ => cases ha
  | refused _ _ => cases ha
  | broken _ _ _ => cases ha

/-- How an opening may end: with a stream just if there has to be one, and else with a fault that
says whether it is for a certificate. -/
inductive Concludes (s : Stream) (w : World) : Ending Unit → Prop
  | opened (opens : s.Opens w) (trusts : ¬ s.Distrusts w) : Concludes s w (.done ())
  | distrusted (fails : ¬ s.Opens w) (distrusts : s.Distrusts w) {f : Fault}
      (kind : f.kind = .keCertificate) : Concludes s w (.failed f)
  | unconnected (fails : ¬ s.Opens w) (trusts : ¬ s.Distrusts w) {f : Fault}
      (kind : f.kind = .keConnect) : Concludes s w (.failed f)

/-- The end of an opening tells which of the three situations there was. -/
theorem Concludes.iff (h : s.Concludes w ending) :
    (ending = .done () ↔ s.Opens w) ∧
      ((∃ f, ending = .failed f ∧ f.kind = .keCertificate) ↔ s.Distrusts w) ∧
      ((∃ f, ending = .failed f ∧ f.kind = .keConnect) ↔ ¬ s.Opens w ∧ ¬ s.Distrusts w) := by
  cases h with
  | opened opens trusts => simp [opens, trusts]
  | distrusted fails distrusts kind => simp [fails, distrusts, kind]
  | unconnected fails trusts kind => simp [fails, trusts, kind]

/-- What an opening that goes on leaves behind: only talk and checks were added, the scripts are
genuine, and if all went well the timeout of the handshake was met. -/
structure GoesOn (s : Stream) (w : World) (ending : Ending Unit) (v : World) : Prop where
  decides : ∃ talk checks, v.wire.acts = (s.connected w).wire.acts ++ talk ++ checks ∧
    (∀ a ∈ talk, a.isTalk = true) ∧ s.Decides w ending checks
  met : ending = .done () → (s.connected w).Meets v ((s.connected w).now.afterTimeout s.timeout)
  unlimited : v.limit = none
  genuine : v.wire.Genuine

end Stream

end Tls

/-- An end that being out of time turns into a fault. -/
def Ending.orLate {α : Type} (late : Fault) : Ending α → Ending α
  | .cutOff => .failed late
  | ending => ending

namespace Run

open TimeProbe.Tls

variable {s : Stream} {w w' : World}

/-- Shutting down is talk. -/
theorem talks_shutDown (s : Stream) : Talks (shutDown s) :=
  (talks_act rfl).bind fun _ => talks_read fun a _ _ =>
    (talks_suffer _ a).bind fun _ => talks_flush s a

/-- Where no time is up, shutting down ends well or with a fault that does no harm. -/
theorem shutDown_cases (hwire : w.wire.Genuine) (hlimit : w.limit = none) :
    ∃ w', shutDown s w = (.done (), w') ∨
      ∃ f, shutDown s w = (.failed f, w') ∧ harmless f = true := by
  have hwire' : (w.recording .shutDown).wire.Genuine := { hwire with }
  rw [shutDown, act_bind, read_bind]
  cases hfault : (w.recording .shutDown).wire.shutdownFault with
  | some f =>
    refine ⟨_, .inr ⟨f, rfl, ?_⟩⟩
    rw [harmless, hwire'.shuttingDown f hfault, Bool.true_or]
  | none =>
    cases hwritten : (w.recording .shutDown).written with
    | some v => exact ⟨v, .inl (flush_of_written hwire'.speaking hwritten)⟩
    | none =>
      obtain ⟨f, v, hflush, hkind⟩ | ⟨hbounded, -⟩ :=
        flush_of_not_written (s := s) hwire'.speaking hwire'.draining hwritten
      · refine ⟨v, .inr ⟨f, hflush, ?_⟩⟩
        rw [harmless, hkind]
        rfl
      · exact absurd hlimit hbounded

/-- A connection is closed whatever exception that raises. -/
theorem closeConnection_eq (h : ∀ f ∈ w.wire.closeFault, f.kind.isA .other = true) :
    closeConnection w = (.done (), (w.recording .close).recording .awaitClosed) := by
  rw [closeConnection, act_bind, act_bind, read_bind]
  cases hfault : ((w.recording .close).recording .awaitClosed).wire.closeFault with
  | none => rfl
  | some f =>
    dsimp only
    rw [if_pos (h f hfault)]
    rfl

/-- Where no time is up, closing a stream ends well and closes the connection once, also if the
shutdown fails or what is left is not written. -/
theorem closeTls_once (hwire : w.wire.Genuine) (hlimit : w.limit = none) :
    ∃ w' talk, closeTls s w = (.done (), w') ∧ (∀ a ∈ talk, a.isTalk = true) ∧
      w'.wire.acts = w.wire.acts ++ talk ++ [.close, .awaitClosed] := by
  have htalk := (talks_shutDown s).leads w
  obtain ⟨w₁, hshut⟩ := shutDown_cases (s := s) hwire hlimit
  have hleads : w.wire.Leads w₁.wire := by
    rcases hshut with hdone | ⟨f, hfailed, -⟩
    · rwa [hdone] at htalk
    · rwa [hfailed] at htalk
  have hclosed : closeTls s w = closeConnection w₁ := by
    rcases hshut with hdone | ⟨f, hfailed, hharmless⟩
    · exact bind_done (attempt_done hdone) _
    · refine (bind_done (attempt_failed hfailed) _).trans ?_
      dsimp only
      rw [if_pos hharmless]
  rw [closeConnection_eq (hwire.of_leads hleads).closing] at hclosed
  obtain ⟨talk, hacts, hquiet⟩ := hleads.acts
  refine ⟨_, talk, hclosed, hquiet, ?_⟩
  simp [World.recording, hacts]

/-- Making the connection is talk. -/
theorem talks_connectTcp (s : Stream) : Talks (connectTcp s) := fun a =>
  keeps_explaining <| keeps_withinOr (timeless_leads a) <| (talks_act rfl a).bind fun _ =>
    (keeps_read _).bind fun ticks => (keeps_pause (timeless_leads a) ticks).bind fun _ =>
      (keeps_read _).bind fun cause => talks_suffer cause a

/-- Every fault of a connection that is not made is told as one. -/
theorem kind_connectFault (s : Stream) {f : Fault} (hos : f.kind.isA .os = true) :
    (s.connectFault f).kind = .keConnect := by
  rw [Stream.connectFault]
  by_cases htimeout : f.kind.isA .timeout = true
  · rw [if_pos htimeout]
    rfl
  · rw [if_neg htimeout, if_pos hos]
    rfl

/-- A wait for the connection that ends before the limit passes ends as its script says. -/
theorem awaitConnected_of_not_passed (s : Stream)
    (h : w.limitPassesBy (w.now.afterPause w.wire.connectTicks) = false) :
    awaitConnected s w =
      suffer w.wire.connectFault ({ w with
        now := w.now.afterPause w.wire.connectTicks }.recording
          (.connect s.address.host s.address.port)) := by
  rw [awaitConnected, act_bind, read_bind]
  refine (bind_done (pause_of_not_passed ?_) _).trans ?_
  · exact h
  · rfl

/-- A wait for the connection that goes on when the limit passes. -/
theorem awaitConnected_of_passed (s : Stream)
    (h : w.limitPassesBy (w.now.afterPause w.wire.connectTicks) = true) :
    ∃ w', awaitConnected s w = (.cutOff, w') := by
  obtain ⟨w', hcut⟩ := pause_of_passed (w := w.recording
    (.connect s.address.host s.address.port)) h
  exact ⟨w', bind_cutOff hcut _⟩

/-- Waiting for the connection heeds limits. -/
theorem heeds_awaitConnected {endless : Prop} (s : Stream) : Heeds endless (awaitConnected s) :=
  (heeds_rewire _).bind fun _ => (heeds_read _).bind fun ticks => (heeds_pause ticks).bind fun _ =>
    (heeds_read _).bind fun cause => heeds_suffer cause

/-- A step within a timeout that nothing else bounds ends as it does by itself; that its time is up
is a fault. -/
theorem withinOr_of_unlimited {x : Run Unit} {timeout : Binary64} (late : Fault)
    {ending : Ending Unit} (hx : Bounded x) (hstart : timeout.letsStart = true)
    (hlimit : w.limit = none) (h : x (w.under timeout) = (ending, w')) :
    withinOr timeout late x w = (ending.orLate late, { w' with limits := [] }) := by
  have hends := endsIn_within timeout hx (List.head?_eq_none_iff.mp hlimit)
  rcases hwithin : within timeout x w with ⟨ending', v⟩
  rw [hwithin] at hends
  cases hends with
  | inAdvance hpassed =>
    rw [Binary64.letsStart_eq, hpassed] at hstart
    cases hstart
  | done _ hrun _ =>
    cases h.symm.trans hrun
    exact withinOr_some hwithin
  | failed _ hrun _ =>
    cases h.symm.trans hrun
    exact withinOr_failed hwithin
  | cutOff _ hrun _ =>
    cases h.symm.trans hrun
    exact withinOr_none hwithin

/-- The timeout of a connection passes while the connection is waited for just if the wait does not
end before it. -/
theorem limitPassesBy_under (w : World) (timeout : Binary64) (m : Moment) :
    (w.under timeout).limitPassesBy m = !m.before (w.now.afterTimeout timeout) := rfl

/-- A connection that is made in time. -/
theorem connectTcp_of_connects (hlimit : w.limit = none) (h : s.Connects w) :
    connectTcp s w = (.done (), { w with now := w.now.afterPause w.wire.connectTicks }.recording
      (.connect s.address.host s.address.port)) := by
  obtain ⟨hstart, haccepted, htime⟩ := h
  have hrun := awaitConnected_of_not_passed (w := w.under s.timeout) s
    (by rw [limitPassesBy_under]; exact (Bool.not_eq_false' _).mpr htime)
  rw [show (w.under s.timeout).wire.connectFault = none from haccepted] at hrun
  have hwithin := withinOr_of_unlimited lateness (heeds_awaitConnected s).bounded hstart hlimit hrun
  rw [← List.head?_eq_none_iff.mp hlimit] at hwithin
  exact explaining_done hwithin

/-- A connection that is not made, or not in time. -/
theorem connectTcp_of_not_connects (hconnecting : ∀ f ∈ w.wire.connectFault, f.kind.isA .os = true)
    (hlimit : w.limit = none) (h : ¬ s.Connects w) :
    ∃ f w', connectTcp s w = (.failed f, w') ∧ f.kind = .keConnect := by
  by_cases hstart : s.timeout.letsStart = true
  · have hwithin {ending : Ending Unit} {v : World}
        (hrun : awaitConnected s (w.under s.timeout) = (ending, v)) :=
      withinOr_of_unlimited lateness (heeds_awaitConnected s).bounded hstart hlimit hrun
    by_cases htime : (w.now.afterPause w.wire.connectTicks).before
        (w.now.afterTimeout s.timeout) = true
    · have hrun := awaitConnected_of_not_passed (w := w.under s.timeout) s
        (by rw [limitPassesBy_under]; exact (Bool.not_eq_false' _).mpr htime)
      cases hfault : w.wire.connectFault with
      | none => exact absurd ⟨hstart, hfault, htime⟩ h
      | some f =>
        rw [show (w.under s.timeout).wire.connectFault = some f from hfault] at hrun
        exact ⟨_, _, explaining_failed (hwithin hrun), kind_connectFault s (hconnecting f hfault)⟩
    · obtain ⟨v, hcut⟩ := awaitConnected_of_passed (w := w.under s.timeout) s
        (by rw [limitPassesBy_under]; exact (Bool.not_eq_true' _).mpr (Bool.not_eq_true _ ▸ htime))
      exact ⟨_, _, explaining_failed (hwithin hcut), kind_connectFault s rfl⟩
  · have hwithin : within s.timeout (awaitConnected s) w = (.done none, w) := by
      rw [Bool.not_eq_true, Binary64.letsStart_eq, Bool.not_eq_false'] at hstart
      exact within_passed hstart
    exact ⟨_, w, explaining_failed (withinOr_none hwithin), kind_connectFault s rfl⟩

/-- A server that can be named is named. -/
theorem announceHost_eq (hname : s.HasName w) :
    announceHost s.address.host w =
      (.done (), { w with wire := { w.wire with acts := w.wire.acts ++ s.announcement w } }) := by
  rw [announceHost, Stream.announcement]
  by_cases haddress : Host.isAddress s.address.host = true
  · rw [if_pos haddress, if_pos haddress, List.append_nil]
    rfl
  · obtain ⟨name, hannounced⟩ := hname.resolve_left haddress
    rw [if_neg haddress, if_neg haddress, read_bind, hannounced]
    rfl

/-- Before the handshake nothing goes wrong if the connection is made and the server can be named.
-/
theorem openTls_of_connects (hname : s.HasName w) (hlimit : w.limit = none) (h : s.Connects w) :
    openTls s w = (attempt (secure s) >>= fun
      | .ok () => pure ()
      | .error cause => giveUp s cause) (s.connected w) := by
  have hworld : World.recording
      { { w with now := w.now.afterPause w.wire.connectTicks }.recording
          (.connect s.address.host s.address.port) with
        wire := { ({ w with now := w.now.afterPause w.wire.connectTicks }.recording
          (.connect s.address.host s.address.port)).wire with
          acts := w.wire.acts ++ [.connect s.address.host s.address.port] ++ s.announcement w } }
      .becomeClient = s.connected w := by
    simp [World.recording, Stream.connected, Stream.preamble]
  have hnamed : s.HasName ({ w with now := w.now.afterPause w.wire.connectTicks }.recording
      (.connect s.address.host s.address.port)) := hname
  rw [← hworld]
  exact (bind_done (connectTcp_of_connects hlimit h) _).trans
    (bind_done (announceHost_eq hnamed) _)

/-- The fault of a check that fails is one for a certificate. -/
theorem kind_identityFault (s : Stream) {f : Fault}
    (hmismatch : f.kind.isA .certificateMismatch = true) :
    (s.identityFault f).kind = .keCertificate := by
  rw [Stream.identityFault, if_pos hmismatch]

/-- The identity of the server is checked as the script of the check says. -/
theorem verifyIdentity_eq (s : Stream) (w : World) :
    verifyIdentity s w = explaining s.identityFault (suffer w.wire.verifyFault)
      (w.recording s.check) := by
  rw [verifyIdentity, act_bind]
  rfl

/-- Agreeing leads the wire on. -/
theorem leads_of_agree {ending : Ending Unit} {v : World}
    (hagree : agree s ((s.connected w).under s.timeout) = (ending, v)) :
    (s.connected w).wire.Leads v.wire := by
  have h := (talks_agree s).leads ((s.connected w).under s.timeout)
  rwa [hagree] at h

section

variable (hscript : w.wire.Scripted) (hlimit : w.limit = none)
  (hstart : s.timeout.letsStart = true)

include hscript hlimit hstart

/-- A handshake that fails ends the opening, without any check. -/
theorem goesOn_of_failed {ending : Ending Unit} {v : World} {f : Fault}
    (hagree : agree s ((s.connected w).under s.timeout) = (ending, v))
    (hending : ending.orLate lateness = .failed f) (hdecides : s.Decides w (.failed f) []) :
    ∃ ending v, secure s (s.connected w) = (ending, v) ∧ s.GoesOn w ending v := by
  have hwire : ((s.connected w).under s.timeout).wire.Genuine := { hscript.toGenuine with }
  have hwithin := withinOr_of_unlimited (w := s.connected w) lateness (heeds_agree s).bounded hstart
    hlimit hagree
  rw [hending] at hwithin
  have hleads := leads_of_agree hagree
  have hleft := hwire.of_leads hleads
  obtain ⟨talk, hacts, hquiet⟩ := hleads.acts
  exact ⟨_, _, bind_failed hwithin _, ⟨talk, [], by simpa using hacts, hquiet, hdecides⟩, nofun,
    rfl, hleft⟩

/-- A handshake that agrees on the protocol is followed by one check of the certificate. -/
theorem goesOn_of_agreed {v : World}
    (hshaken : ((s.connected w).under s.timeout).shaken s.timeout = some v)
    (hagreed : v.wire.negotiated = alpn) :
    ∃ ending v, secure s (s.connected w) = (ending, v) ∧ s.GoesOn w ending v := by
  have hwire : ((s.connected w).under s.timeout).wire.Genuine := { hscript.toGenuine with }
  have hagree := agree_of_shaken hstart hwire hscript.unread hshaken
  rw [if_pos hagreed] at hagree
  have hcompletes : s.Completes w := ⟨v, hshaken⟩
  have hleads := leads_of_agree hagree
  have hprotocol : w.wire.negotiated = alpn := hleads.negotiated.symm.trans hagreed
  obtain ⟨talk, hacts, hquiet⟩ := hleads.acts
  have hwithin := withinOr_of_unlimited (w := s.connected w) lateness (heeds_agree s).bounded hstart
    hlimit hagree
  have hverify := verifyIdentity_eq s { v with limits := [] }
  have hsame : v.wire.verifyFault = w.wire.verifyFault := hleads.verifyFault
  rw [show World.wire { v with limits := [] } = v.wire from rfl, hsame] at hverify
  have hmet : (s.connected w).Meets v ((s.connected w).now.afterTimeout s.timeout) := by
    have h := (heeds_agree s _ ((s.connected w).timely_under s.timeout)).meets
    rw [hagree] at h
    exact h rfl
  have hleft {ending : Ending Unit} (hdecides : s.Decides w ending [s.check]) :
      s.GoesOn w ending ({ v with limits := [] }.recording s.check) :=
    ⟨⟨talk, [s.check], congrArg (· ++ [s.check]) hacts, hquiet, hdecides⟩, fun _ => hmet, rfl,
      { hwire.of_leads hleads with }⟩
  cases hfault : w.wire.verifyFault with
  | none =>
    rw [hfault] at hverify
    exact ⟨_, _, (bind_done hwithin _).trans hverify,
      hleft (.trusted hcompletes hprotocol hfault)⟩
  | some f =>
    rw [hfault] at hverify
    exact ⟨_, _, (bind_done hwithin _).trans hverify,
      hleft (.mismatch hcompletes hprotocol (by simp [hfault])
        (kind_identityFault s (hscript.verifying f hfault)))⟩

/-- Once the connection was made, an opening goes on in one of the ways in which it can. -/
theorem secure_goesOn :
    ∃ ending v, secure s (s.connected w) = (ending, v) ∧ s.GoesOn w ending v := by
  have hwire : ((s.connected w).under s.timeout).wire.Genuine := { hscript.toGenuine with }
  cases hshaken : ((s.connected w).under s.timeout).shaken s.timeout with
  | some v =>
    by_cases hagreed : v.wire.negotiated = alpn
    · exact goesOn_of_agreed hscript hlimit hstart hshaken hagreed
    · have hagree := agree_of_shaken hstart hwire hscript.unread hshaken
      rw [if_neg hagreed] at hagree
      have hprotocol : w.wire.negotiated ≠ alpn :=
        fun h => hagreed ((leads_of_agree hagree).negotiated.trans h)
      exact goesOn_of_failed hscript hlimit hstart hagree rfl
        (.otherProtocol ⟨v, hshaken⟩ hprotocol rfl)
  | none =>
    by_cases hrefuses : s.Refuses w
    · obtain ⟨f, v, hagree, hkind⟩ :=
        agree_of_refused hstart hwire hscript.unread hscript.shaking hrefuses
      exact goesOn_of_failed hscript hlimit hstart hagree rfl (.refused hrefuses hkind)
    · have hincomplete : ¬ s.Completes w := by
        rintro ⟨v, hcompletes⟩
        rw [hshaken] at hcompletes
        cases hcompletes
      obtain ⟨ending, v, hagree, hbroken | ⟨f, rfl, hkind⟩⟩ :=
        agree_of_neither hstart hwire hscript.unread hscript.shaking hshaken hrefuses
      · cases hbroken with
        | failed hkind =>
          refine goesOn_of_failed hscript hlimit hstart hagree rfl
            (.broken hincomplete hrefuses ?_)
          rcases hkind with h | h | h <;> simp [h]
        | cutOff =>
          exact goesOn_of_failed hscript hlimit hstart hagree rfl
            (.broken hincomplete hrefuses (by simp [lateness]))
      · exact goesOn_of_failed hscript hlimit hstart hagree rfl
          (.broken hincomplete hrefuses (by simp [hkind]))

end

/-- An opening that is given up closes the connection once. -/
theorem giveUp_closes {f : Fault} (hwire : w.wire.Genuine) (hlimit : w.limit = none)
    (hother : f.kind.isA .other = true) :
    ∃ w' talk, giveUp s f w = (.failed (s.openingFault f), w') ∧ (∀ a ∈ talk, a.isTalk = true) ∧
      w'.wire.acts = w.wire.acts ++ talk ++ [.close, .awaitClosed] := by
  obtain ⟨w', talk, hclose, htalk, hacts⟩ := closeTls_once (s := s) hwire hlimit
  refine ⟨w', talk, ?_, htalk, hacts⟩
  rw [giveUp, if_pos hother]
  exact bind_done hclose _

/-- A fault for a certificate is handed on as it is. -/
theorem kind_openingFault_of_certificate (s : Stream) {f : Fault} (h : f.kind = .keCertificate) :
    f.kind.isA .other = true ∧ (s.openingFault f).kind = .keCertificate := by
  rw [Stream.openingFault, h]
  exact ⟨rfl, h⟩

/-- Any other fault is told as one of connecting. -/
theorem kind_openingFault_of_broken (s : Stream) {f : Fault} (h : f.kind ∈ [FaultKind.keConnect,
    .transport, .receiveTimeout, .unexpectedClose, .timeout]) :
    f.kind.isA .other = true ∧ (s.openingFault f).kind = .keConnect := by
  simp only [List.mem_cons, List.not_mem_nil, or_false] at h
  rcases h with h | h | h | h | h <;> rw [Stream.openingFault, h]
  · exact ⟨rfl, h⟩
  all_goals exact ⟨rfl, rfl⟩

/-- Talk closes nothing. -/
theorem count_close_of_talk {talk : List Act} (h : ∀ a ∈ talk, a.isTalk = true) :
    talk.count .close = 0 := by
  rw [List.count_eq_zero]
  exact fun hclose => Bool.noConfusion (h .close hclose)

/-- Talk checks nothing. -/
theorem isCheck_of_isTalk {a : Act} (h : a.isTalk = true) : a.isCheck = false := by
  cases a <;> first | rfl | cases h

/-- What is done before the handshake is talk. -/
theorem isTalk_of_mem_preamble {a : Act} (ha : a ∈ s.preamble w) : a.isTalk = true := by
  have hannouncement : ∀ a ∈ s.announcement w, a.isTalk = true := by
    intro a ha
    rw [Stream.announcement] at ha
    split at ha
    · cases ha
    · obtain ⟨name, -, rfl⟩ := List.mem_map.mp ha
      rfl
  simp only [Stream.preamble, List.mem_cons, List.mem_append, List.not_mem_nil, or_false] at ha
  obtain (rfl | ha) | rfl := ha
  · rfl
  · exact hannouncement a ha
  · rfl

/-- A check closes nothing. -/
theorem check_ne_close (s : Stream) : s.check ≠ .close := by
  rw [Stream.check]
  split <;> exact nofun

/-- Until an opening is given up, the connection is not closed, and the identity is checked only
once the right protocol was agreed to. -/
theorem exists_begun {ending : Ending Unit} (h : s.GoesOn w ending w') :
    ∃ begun, w'.wire.acts = w.wire.acts ++ begun ∧ begun.count .close = 0 ∧
      ∀ a ∈ begun, a.isCheck = true → s.Completes w ∧ w.wire.negotiated = alpn := by
  obtain ⟨talk, checks, hacts, htalk, hdecides⟩ := h.decides
  have hquiet : ∀ a ∈ s.preamble w ++ talk, a.isTalk = true := by
    intro a ha
    exact (List.mem_append.mp ha).elim isTalk_of_mem_preamble (htalk a)
  refine ⟨s.preamble w ++ talk ++ checks, ?_, ?_, ?_⟩
  · simpa [Stream.connected] using hacts
  · have hchecks : checks.count .close = 0 := by
      rw [List.count_eq_zero]
      exact fun hclose => check_ne_close s (hdecides.checked hclose).1.symm
    rw [List.count_append, count_close_of_talk hquiet, hchecks]
  · intro a ha hcheck
    obtain ha | ha := List.mem_append.mp ha
    · rw [isCheck_of_isTalk (hquiet a ha)] at hcheck
      cases hcheck
    · exact (hdecides.checked ha).2

/-- An opening that fails once the connection was made closes the connection once. -/
theorem openTls_of_failed {f : Fault} {v : World} (hname : s.HasName w) (hlimit : w.limit = none)
    (hconnects : s.Connects w) (hsecure : secure s (s.connected w) = (.failed f, v))
    (hgoesOn : s.GoesOn w (.failed f) v) (hother : f.kind.isA .other = true) :
    ∃ w' new, openTls s w = (.failed (s.openingFault f), w') ∧
      w'.wire.acts = w.wire.acts ++ new ∧ new.count .close = 1 ∧
      ∀ a ∈ new, a.isCheck = true → s.Completes w ∧ w.wire.negotiated = alpn := by
  obtain ⟨begun, hbegun, hunclosed, hchecked⟩ := exists_begun hgoesOn
  obtain ⟨w', last, hgiveUp, hlast, hended⟩ :=
    giveUp_closes (s := s) hgoesOn.genuine hgoesOn.unlimited hother
  refine ⟨w', begun ++ last ++ [.close, .awaitClosed], ?_, ?_, ?_, ?_⟩
  · rw [openTls_of_connects hname hlimit hconnects]
    exact (bind_done (attempt_failed hsecure) _).trans hgiveUp
  · rw [hended, hbegun]
    simp only [List.append_assoc]
  · rw [List.count_append, List.count_append, hunclosed, count_close_of_talk hlast]
    rfl
  · intro a ha hcheck
    simp only [List.mem_append, List.mem_cons, List.not_mem_nil, or_false] at ha
    obtain (ha | ha) | rfl | rfl := ha
    · exact hchecked a ha hcheck
    · rw [isCheck_of_isTalk (hlast a ha)] at hcheck
      cases hcheck
    · cases hcheck
    · cases hcheck

/-- Opening a stream is all or nothing. It is opened just if the connection is made in time, the
handshake comes to its end under its timeout, the right protocol was agreed to and the identity of
the server is the right one; then the connection is not closed, and the timeout of the handshake has
not passed, or passed just as a read got what it waited for and was overlooked. Opening fails for a
certificate just if the server is not trusted, and as a connection in every other case. A connection
that was made is then closed once, whatever the shutdown, the last write and the closing meet. The
identity is checked only once the right protocol was agreed to. -/
theorem openTls_all_or_nothing (s : Stream) {w : World} (hname : s.HasName w)
    (hscript : w.wire.Scripted) (hlimit : w.limit = none) :
    ∃ ending w' new, openTls s w = (ending, w') ∧ w'.wire.acts = w.wire.acts ++ new ∧
      (ending = .done () ↔ s.Opens w) ∧
      ((∃ f, ending = .failed f ∧ f.kind = .keCertificate) ↔ s.Distrusts w) ∧
      ((∃ f, ending = .failed f ∧ f.kind = .keConnect) ↔ ¬ s.Opens w ∧ ¬ s.Distrusts w) ∧
      (s.Opens w ∨ ¬ s.Connects w → new.count .close = 0) ∧
      (¬ s.Opens w ∧ s.Connects w → new.count .close = 1) ∧
      (s.Opens w → (s.connected w).Meets w' ((s.connected w).now.afterTimeout s.timeout)) ∧
      ∀ a ∈ new, a.isCheck = true →
        s.Connects w ∧ s.Completes w ∧ w.wire.negotiated = alpn := by
  by_cases hconnects : s.Connects w
  · obtain ⟨ending, v, hsecure, hgoesOn⟩ := secure_goesOn hscript hlimit hconnects.started
    obtain ⟨_, _, _, _, hdecides⟩ := hgoesOn.decides
    obtain ⟨rfl, hopens, htrusts⟩ | ⟨f, rfl, hkind, hfails, hdistrusts⟩ |
      ⟨f, rfl, hkind, hfails, htrusts⟩ := hdecides.ends hconnects
    · obtain ⟨begun, hacts, hunclosed, hchecked⟩ := exists_begun hgoesOn
      have hrun := (openTls_of_connects hname hlimit hconnects).trans
        (bind_done (attempt_done hsecure) _)
      obtain ⟨hdone, hcertificate, hconnect⟩ := (Stream.Concludes.opened hopens htrusts).iff
      exact ⟨_, v, begun, hrun, hacts, hdone, hcertificate, hconnect, fun _ => hunclosed,
        fun h => absurd hopens h.1, fun _ => hgoesOn.met rfl,
        fun a ha hcheck => ⟨hconnects, hchecked a ha hcheck⟩⟩
    · obtain ⟨hother, hopening⟩ := kind_openingFault_of_certificate s hkind
      obtain ⟨w', new, hrun, hacts, hclosed, hchecked⟩ :=
        openTls_of_failed hname hlimit hconnects hsecure hgoesOn hother
      obtain ⟨hdone, hcertificate, hconnect⟩ :=
        (Stream.Concludes.distrusted hfails hdistrusts hopening).iff
      exact ⟨_, w', new, hrun, hacts, hdone, hcertificate, hconnect,
        fun h => (h.elim hfails (· hconnects)).elim, fun _ => hclosed, fun h => absurd h hfails,
        fun a ha hcheck => ⟨hconnects, hchecked a ha hcheck⟩⟩
    · obtain ⟨hother, hopening⟩ := kind_openingFault_of_broken s hkind
      obtain ⟨w', new, hrun, hacts, hclosed, hchecked⟩ :=
        openTls_of_failed hname hlimit hconnects hsecure hgoesOn hother
      obtain ⟨hdone, hcertificate, hconnect⟩ :=
        (Stream.Concludes.unconnected hfails htrusts hopening).iff
      exact ⟨_, w', new, hrun, hacts, hdone, hcertificate, hconnect,
        fun h => (h.elim hfails (· hconnects)).elim, fun _ => hclosed, fun h => absurd h hfails,
        fun a ha hcheck => ⟨hconnects, hchecked a ha hcheck⟩⟩
  · obtain ⟨f, v, hfailed, hkind⟩ := connectTcp_of_not_connects hscript.connecting hlimit hconnects
    have htalk := (talks_connectTcp s).leads w
    rw [hfailed] at htalk
    obtain ⟨talk, hacts, hquiet⟩ := htalk.acts
    have hconcludes : s.Concludes w (.failed f) :=
      .unconnected (fun h => hconnects h.connects) (fun h => hconnects h.1) hkind
    obtain ⟨hdone, hcertificate, hconnect⟩ := hconcludes.iff
    refine ⟨_, v, talk, bind_failed hfailed _, hacts, hdone, hcertificate, hconnect,
      fun _ => count_close_of_talk hquiet, fun h => absurd h.2 hconnects,
      fun h => absurd h.connects hconnects, fun a ha hcheck => ?_⟩
    rw [isCheck_of_isTalk (hquiet a ha)] at hcheck
    cases hcheck

/-- A server reads the greeting slowly and answers after a while. With the right protocol the stream
is opened and stays open. With another one it is not opened, and the connection is closed once,
though what the engine says at the end is not written and closing raises an error. The stream to a
server that lets half a second pass in front of each of its three answers is opened when the timeout
of the handshake, a second, has long passed: the second answer comes just as it passes. -/
theorem openTls_all_or_nothing_unwritten :
    let s : Stream := { address := ⟨"192.0.2.1", 4460⟩, timeout := Binary64.ofInt 1 }
    let server (negotiated : Bytes) : World :=
      { wire :=
          { connectTicks := 3, arriving := [.pause 4, .octets [1]], handshake := [.wantRead]
            outgoing := [.value [2], .wantRead, .wantRead, .value [3]]
            drains := [none, some { kind := .os }], closeFault := some { kind := .os }, negotiated }
        drainTicks := [5] }
    let named : Stream := { address := ⟨"bücher.example", 4460⟩, timeout := Binary64.ofInt 1 }
    let halfSecond : Chunk := .pause (Binary64.ofRatio false 1 2).magnitude
    let slow : World :=
      { wire :=
          { arriving := [halfSecond, .octets [0], halfSecond, .octets [1], halfSecond, .octets [2]]
            handshake := [.wantRead, .wantRead, .wantRead] } }
    (∃ w' new, openTls s (server alpn) = (.done (), w') ∧ w'.wire.acts = new ∧
      new.count .close = 0) ∧
    (∃ f w' new, openTls s (server []) = (.failed f, w') ∧ f.kind = .keConnect ∧
      w'.wire.acts = new ∧ new.count .close = 1) ∧
    ∃ w', openTls named slow = (.done (), w') ∧
      w'.now.before ((named.connected slow).now.afterTimeout named.timeout) = false := by
  intro s server named halfSecond slow
  obtain ⟨hshaken, hunagreed, hslowly, hannounced, hmade, hlate⟩ :
      (((s.connected (server alpn)).under s.timeout).shaken s.timeout).isSome = true ∧
      (((s.connected (server [])).under s.timeout).shaken s.timeout).isSome = true ∧
      (((named.connected slow).under named.timeout).shaken named.timeout).isSome = true ∧
      (Host.announced slow.preparation named.address.host).toOption.isSome = true ∧
      (slow.now.afterPause slow.wire.connectTicks).before
        (slow.now.afterTimeout named.timeout) = true ∧
      (openTls named slow).2.now.before
        ((named.connected slow).now.afterTimeout named.timeout) = false := by
    decide +kernel +revert
  have hname (w : World) : s.HasName w := .inl (by decide +kernel)
  have hnamed : named.HasName slow := by
    refine .inr ?_
    cases hresult : Host.announced slow.preparation named.address.host with
    | error e =>
      rw [hresult] at hannounced
      cases hannounced
    | ok name => exact ⟨name, rfl⟩
  have hscript (negotiated : Bytes) : (server negotiated).wire.Scripted :=
    { speaking := by simp [server]
      draining := by
        intro f hf
        simp only [server, List.mem_cons, reduceCtorEq, Option.some.injEq, List.not_mem_nil,
          or_false, false_or] at hf
        subst hf
        rfl
      reading := by simp [server]
      verifying := by simp [server]
      shuttingDown := by simp [server]
      closing := by
        rintro f ⟨⟩
        rfl
      connecting := by simp [server]
      shaking := by simp [server]
      unread := rfl }
  have hslow : slow.wire.Scripted :=
    { speaking := by simp [slow]
      draining := by simp [slow]
      reading := by simp [slow, halfSecond]
      verifying := by simp [slow]
      shuttingDown := by simp [slow]
      closing := by simp [slow]
      connecting := by simp [slow]
      shaking := by simp [slow]
      unread := rfl }
  have hconnects (negotiated : Bytes) : s.Connects (server negotiated) := by
    refine ⟨by decide +kernel, rfl, ?_⟩
    show (Moment.afterPause {} 3).before (Moment.afterTimeout {} (Binary64.ofInt 1)) = true
    decide +kernel
  have hcompletes : s.Completes (server alpn) := Option.isSome_iff_exists.mp hshaken
  have hcompletes' : s.Completes (server []) := Option.isSome_iff_exists.mp hunagreed
  have hother : (server []).wire.negotiated ≠ alpn := by decide +kernel
  refine ⟨?_, ?_, ?_⟩
  · obtain ⟨ending, w', new, hrun, hacts, hdone, -, -, hopen, -⟩ :=
      openTls_all_or_nothing s (hname _) (hscript alpn) rfl
    have hopens : s.Opens (server alpn) := ⟨hconnects _, hcompletes, rfl, rfl⟩
    obtain rfl := hdone.mpr hopens
    exact ⟨w', new, hrun, hacts, hopen (.inl hopens)⟩
  · obtain ⟨ending, w', new, hrun, hacts, -, -, hconnect, -, hclosed, -⟩ :=
      openTls_all_or_nothing s (hname _) (hscript []) rfl
    have hfails : ¬ s.Opens (server []) := fun h => hother h.agreed
    have htrusts : ¬ s.Distrusts (server []) := by
      rintro ⟨-, hrefuses | ⟨-, hagreed, -⟩⟩
      · exact hcompletes'.not_refuses hrefuses
      · exact hother hagreed
    obtain ⟨f, rfl, hkind⟩ := hconnect.mpr ⟨hfails, htrusts⟩
    exact ⟨f, w', new, hrun, hkind, hacts, hclosed ⟨hfails, hconnects _⟩⟩
  · obtain ⟨ending, w', new, hrun, -, hdone, -⟩ := openTls_all_or_nothing named hnamed hslow rfl
    have hopens : named.Opens slow :=
      ⟨⟨by decide +kernel, rfl, hmade⟩, Option.isSome_iff_exists.mp hslowly, rfl, rfl⟩
    obtain rfl := hdone.mpr hopens
    rw [hrun] at hlate
    exact ⟨w', hrun, hlate⟩

end Run

end TimeProbe

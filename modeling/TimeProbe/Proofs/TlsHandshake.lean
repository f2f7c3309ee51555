import TimeProbe.Proofs.HeededSteps
import TimeProbe.Proofs.TlsTalk

/-!
# The handshake of a TLS stream

An engine that shakes hands speaks, and wants to read, until it has made up its mind. What it says
has to drain, and something has to arrive, each time before the timeout of the read and the one of
the handshake pass. If all of that goes well, the handshake ends as the engine decides; if not, it
ends with a fault of the network or is cut off.
-/

namespace TimeProbe

namespace Tls

/-- Whether an engine that gives these answers has shaken hands. -/
def isShaken : List (Answer Unit) → Bool
  | [] | .value () :: _ => true
  | _ => false

namespace Wire

/-- The wire after a call of an engine that has these answers to shake hands. -/
def called (w : Wire) : List (Answer Unit) → Wire
  | [] => { w with acts := w.acts ++ [.shakeHands] }
  | _ :: rest => { w with handshake := rest, acts := w.acts ++ [.shakeHands] }

end Wire

end Tls

namespace World

variable {timeout : Binary64} {answers rest : List (Tls.Answer Unit)} {w w' : World}

/-- The world after a call of an engine that has these answers to shake hands. -/
def called (w : World) (answers : List (Tls.Answer Unit)) : World :=
  { w with wire := w.wire.called answers }

/-- What the engine answers when it has made up its mind, and the world by then, if what it says is
written and what it wants to read arrives until then. -/
def conversation (timeout : Binary64) :
    List (Tls.Answer Unit) → World → Option (List (Tls.Answer Unit) × World)
  | .wantRead :: rest, w => do
    let w ← (w.called (.wantRead :: rest)).written
    let w ← w.supplied timeout
    w.conversation timeout rest
  | answers, w => some (answers, w)

/-- The world after the engine has shaken hands and what it says then was written. -/
def shaken (timeout : Binary64) (w : World) : Option World := do
  let (answers, w) ← w.conversation timeout w.wire.handshake
  if Tls.isShaken answers then (w.called answers).written else none

/-- The engine gives up and blames the certificate. -/
def RefusesCertificate (timeout : Binary64) (w : World) : Prop :=
  ∃ cause left w', w.conversation timeout w.wire.handshake = some (.fault cause :: left, w') ∧
    Tls.Stream.blamesCertificate cause = true

/-- An engine that has made up its mind has shaken hands or given up. -/
theorem decided_of_conversation (h : w.conversation timeout answers = some (rest, w')) :
    Tls.isShaken rest = true ∨ ∃ f left, rest = .fault f :: left ∧ .fault f ∈ answers := by
  induction answers generalizing w with
  | nil =>
    cases h
    exact .inl rfl
  | cons answer later ih =>
    match answer with
    | .value () =>
      cases h
      exact .inl rfl
    | .fault f =>
      cases h
      exact .inr ⟨f, later, rfl, List.mem_cons_self⟩
    | .wantRead =>
      rw [conversation] at h
      simp only [Option.bind_eq_bind, Option.bind_eq_some_iff] at h
      obtain ⟨w₁, -, w₂, -, hlater⟩ := h
      refine (ih hlater).imp_right ?_
      rintro ⟨f, left, hrest, hmem⟩
      exact ⟨f, left, hrest, List.mem_cons_of_mem _ hmem⟩

/-- Writing what the engine says changes the wire as if it had drained at once. -/
theorem wire_of_written (h : w.written = some w') : w'.wire = w.wire.heard := by
  rw [written] at h
  split at h
  · cases h
    rfl
  · split at h <;> cases h
    rfl

/-- Writing does not end a connection. -/
theorem ended_of_written (h : w.written = some w') : w'.wire.ended = w.wire.ended := by
  rw [wire_of_written h, Tls.Wire.heard]
  split <;> rfl

/-- Reading ciphertext does not end a connection. -/
theorem ended_of_supplied (h : w.supplied timeout = some w') : w'.wire.ended = w.wire.ended := by
  rw [supplied] at h
  split at h
  next b bs later m harrival =>
    cases h
    rfl
  next => cases h

end World

namespace Run

open TimeProbe.Tls

variable {α : Type} {s : Stream} {answers rest : List (Answer Unit)} {w w' : World}

/-- An engine that wants to read is heard and given what arrives, and then called again. -/
theorem shakeHands_wantRead (s : Stream) (rest : List (Answer Unit)) (w : World) :
    shakeHands s (.wantRead :: rest) w =
      (do
        flush s
        if ← refillEngine s then shakeHands s rest else fail s.endedInHandshake)
        (w.called (.wantRead :: rest)) := rfl

/-- Writing leaves genuine scripts. -/
theorem genuine_of_written (hwire : w.wire.Genuine) (h : w.written = some w') :
    w'.wire.Genuine := by
  have htalk := (talks_flush default).leads w
  rw [flush_of_written hwire.speaking h] at htalk
  exact hwire.of_leads htalk

/-- Reading leaves genuine scripts. -/
theorem genuine_of_supplied (hstart : s.timeout.letsStart = true) (hwire : w.wire.Genuine)
    (hunread : w.wire.ended = false) (h : w.supplied s.timeout = some w') : w'.wire.Genuine := by
  have htalk := (talks_refillEngine s).leads w
  rw [refillEngine_of_supplied hstart hunread h] at htalk
  exact hwire.of_leads htalk

/-- A handshake comes to what the engine decides if the network does not end it before that, and
leaves genuine scripts. -/
theorem shakeHands_of_conversation (hstart : s.timeout.letsStart = true)
    (hwire : w.wire.Genuine) (hunread : w.wire.ended = false)
    (h : w.conversation s.timeout answers = some (rest, w')) :
    shakeHands s answers w = shakeHands s rest w' ∧ w'.wire.Genuine := by
  induction answers generalizing w with
  | nil =>
    cases h
    exact ⟨rfl, hwire⟩
  | cons answer later ih =>
    match answer with
    | .value () =>
      cases h
      exact ⟨rfl, hwire⟩
    | .fault f =>
      cases h
      exact ⟨rfl, hwire⟩
    | .wantRead =>
      have hcalled : (w.called (.wantRead :: later)).wire.Genuine := { hwire with }
      rw [World.conversation] at h
      simp only [Option.bind_eq_bind, Option.bind_eq_some_iff] at h
      obtain ⟨w₁, hwritten, w₂, hsupplied, hlater⟩ := h
      have hwire₁ := genuine_of_written hcalled hwritten
      have hunread₁ : w₁.wire.ended = false := (World.ended_of_written hwritten).trans hunread
      have hwire₂ := genuine_of_supplied hstart hwire₁ hunread₁ hsupplied
      have hunread₂ : w₂.wire.ended = false := (World.ended_of_supplied hsupplied).trans hunread₁
      rw [shakeHands_wantRead, bind_done (flush_of_written (s := s) hcalled.speaking hwritten),
        bind_done (refillEngine_of_supplied hstart hunread₁ hsupplied), if_pos rfl]
      exact ih hwire₂ hunread₂ hlater

/-- A handshake that the network ends before the engine decides. -/
theorem shakeHands_of_no_conversation (hstart : s.timeout.letsStart = true)
    (hwire : w.wire.Genuine) (hunread : w.wire.ended = false)
    (h : w.conversation s.timeout answers = none) :
    ∃ ending w', shakeHands s answers w = (ending, w') ∧ ending.Broken := by
  induction answers generalizing w with
  | nil => cases h
  | cons answer later ih =>
    match answer with
    | .value () => cases h
    | .fault f => cases h
    | .wantRead =>
      have hcalled : (w.called (.wantRead :: later)).wire.Genuine := { hwire with }
      rw [World.conversation] at h
      rw [shakeHands_wantRead]
      cases hwritten : (w.called (.wantRead :: later)).written with
      | none =>
        obtain ⟨f, w', hflush, hkind⟩ | ⟨-, w', hflush⟩ :=
          flush_of_not_written (s := s) hcalled.speaking hcalled.draining hwritten
        · exact ⟨_, w', bind_failed hflush _, .failed (.inl hkind)⟩
        · exact ⟨_, w', bind_cutOff hflush _, .cutOff⟩
      | some w₁ =>
        have hwire₁ := genuine_of_written hcalled hwritten
        have hunread₁ : w₁.wire.ended = false := (World.ended_of_written hwritten).trans hunread
        rw [bind_done (flush_of_written (s := s) hcalled.speaking hwritten)]
        cases hsupplied : w₁.supplied s.timeout with
        | none =>
          obtain ⟨ending, w', hrefill, rfl | hbroken⟩ :=
            refillEngine_of_not_supplied hstart hunread₁ hwire₁.reading hsupplied
          · rw [bind_done hrefill]
            exact ⟨_, w', rfl, .failed (.inr (.inr rfl))⟩
          · cases hbroken with
            | failed hkind => exact ⟨_, w', bind_failed hrefill _, .failed hkind⟩
            | cutOff => exact ⟨_, w', bind_cutOff hrefill _, .cutOff⟩
        | some w₂ =>
          have hwire₂ := genuine_of_supplied hstart hwire₁ hunread₁ hsupplied
          have hunread₂ : w₂.wire.ended = false :=
            (World.ended_of_supplied hsupplied).trans hunread₁
          rw [hwritten, Option.bind_eq_bind, Option.bind_some, hsupplied] at h
          rw [bind_done (refillEngine_of_supplied hstart hunread₁ hsupplied), if_pos rfl]
          exact ih hwire₂ hunread₂ h

/-- The last call of an engine that has shaken hands. -/
theorem shakeHands_of_isShaken (h : isShaken rest = true) :
    shakeHands s rest w = (.done (), w.called rest) := by
  match rest with
  | [] => rfl
  | .value () :: _ => rfl
  | .wantRead :: _ => cases h
  | .fault _ :: _ => cases h

/-- A handshake that comes to its end ends well if the protocol agreed to is the right one. -/
theorem agree_of_shaken (hstart : s.timeout.letsStart = true) (hwire : w.wire.Genuine)
    (hunread : w.wire.ended = false) (h : w.shaken s.timeout = some w') :
    agree s w =
      if w'.wire.negotiated = alpn then (.done (), w')
      else (.failed (Stream.otherProtocol w'.wire.negotiated), w') := by
  rw [World.shaken] at h
  simp only [Option.bind_eq_bind, Option.bind_eq_some_iff, Prod.exists] at h
  obtain ⟨rest, w₁, hconversation, hwritten⟩ := h
  obtain ⟨hrun, hwire₁⟩ := shakeHands_of_conversation hstart hwire hunread hconversation
  split at hwritten
  next hshaken =>
    have hcalled : (w₁.called rest).wire.Genuine := by cases rest <;> exact { hwire₁ with }
    rw [agree, read_bind, bind_done (hrun.trans (shakeHands_of_isShaken hshaken)),
      bind_done (flush_of_written (s := s) hcalled.speaking hwritten), read_bind]
    by_cases halpn : w'.wire.negotiated = alpn
    · rw [if_pos halpn, if_neg (not_not_intro halpn)]
      rfl
    · rw [if_neg halpn, if_pos halpn]
      rfl
  next => cases hwritten

/-- A handshake that the engine gives up ends with the fault that the engine's one becomes. -/
theorem agree_of_fault {cause : Fault} {left : List (Answer Unit)}
    (hstart : s.timeout.letsStart = true) (hwire : w.wire.Genuine)
    (hunread : w.wire.ended = false)
    (h : w.conversation s.timeout w.wire.handshake = some (.fault cause :: left, w')) :
    ∃ w'', agree s w = (.failed (s.handshakeFault cause), w'') := by
  obtain ⟨hrun, -⟩ := shakeHands_of_conversation hstart hwire hunread h
  exact ⟨_, bind_failed hrun _⟩

/-- The kind of fault that an engine's fault becomes says whether a certificate was refused. -/
theorem kind_handshakeFault {cause : Fault} (htls : cause.kind.isA .tls = true) :
    (s.handshakeFault cause).kind =
      if Stream.blamesCertificate cause then .keCertificate else .keConnect := by
  rw [Stream.handshakeFault, htls, Bool.not_true, if_neg Bool.false_ne_true]
  split <;> rfl

/-- A handshake in which the engine refuses a certificate ends with a fault that says so. -/
theorem agree_of_refused (hstart : s.timeout.letsStart = true) (hwire : w.wire.Genuine)
    (hunread : w.wire.ended = false)
    (hshaking : ∀ f, .fault f ∈ w.wire.handshake → f.kind.isA .tls = true)
    (h : w.RefusesCertificate s.timeout) :
    ∃ f w', agree s w = (.failed f, w') ∧ f.kind = .keCertificate := by
  obtain ⟨cause, left, w₁, hconversation, hblames⟩ := h
  obtain ⟨w', hagree⟩ := agree_of_fault hstart hwire hunread hconversation
  obtain hshaken | ⟨f, left, hsame, hmem⟩ := World.decided_of_conversation hconversation
  · cases hshaken
  · cases hsame
    exact ⟨_, w', hagree, by rw [kind_handshakeFault (hshaking cause hmem), if_pos hblames]⟩

/-- A handshake that neither comes to its end nor fails for a certificate is ended by the network,
or fails in a way that is told as a failed connection. -/
theorem agree_of_neither (hstart : s.timeout.letsStart = true) (hwire : w.wire.Genuine)
    (hunread : w.wire.ended = false)
    (hshaking : ∀ f, .fault f ∈ w.wire.handshake → f.kind.isA .tls = true)
    (hunshaken : w.shaken s.timeout = none) (hunblamed : ¬ w.RefusesCertificate s.timeout) :
    ∃ ending w', agree s w = (ending, w') ∧
      (ending.Broken ∨ ∃ f, ending = .failed f ∧ f.kind = .keConnect) := by
  cases hconversation : w.conversation s.timeout w.wire.handshake with
  | none =>
    obtain ⟨ending, w', hrun, hbroken⟩ :=
      shakeHands_of_no_conversation hstart hwire hunread hconversation
    cases hbroken with
    | failed hkind => exact ⟨_, w', bind_failed hrun _, .inl (.failed hkind)⟩
    | cutOff => exact ⟨_, w', bind_cutOff hrun _, .inl .cutOff⟩
  | some decided =>
    obtain ⟨rest, w₁⟩ := decided
    obtain ⟨hrun, hwire₁⟩ := shakeHands_of_conversation hstart hwire hunread hconversation
    obtain hshaken | ⟨f, left, rfl, hmem⟩ := World.decided_of_conversation hconversation
    · have hcalled : (w₁.called rest).wire.Genuine := by cases rest <;> exact { hwire₁ with }
      have hunwritten : (w₁.called rest).written = none := by
        simpa [World.shaken, hconversation, hshaken] using hunshaken
      have hlast := hrun.trans (shakeHands_of_isShaken hshaken)
      obtain ⟨f, w', hflush, hkind⟩ | ⟨-, w', hflush⟩ :=
        flush_of_not_written (s := s) hcalled.speaking hcalled.draining hunwritten
      · exact ⟨_, w', (bind_done hlast _).trans (bind_failed hflush _), .inl (.failed (.inl hkind))⟩
      · exact ⟨_, w', (bind_done hlast _).trans (bind_cutOff hflush _), .inl .cutOff⟩
    · obtain ⟨w', hagree⟩ := agree_of_fault hstart hwire hunread hconversation
      have hinnocent : Stream.blamesCertificate f ≠ true :=
        fun h => hunblamed ⟨f, left, w₁, hconversation, h⟩
      refine ⟨_, w', hagree, .inr ⟨_, rfl, ?_⟩⟩
      rw [kind_handshakeFault (hshaking f hmem), if_neg hinnocent]

/-! ## Limits around a handshake -/

/-- Changing the wire heeds limits. -/
theorem heeds_rewire {endless : Prop} (f : Wire → Wire) : Heeds endless (rewire f) :=
  heeds_update fun _ => ⟨rfl, rfl, rfl⟩

/-- Telling a fault in other words heeds the limits that the step heeds. -/
theorem heeds_explaining {endless : Prop} {words : Fault → Fault} {x : Run α}
    (hx : Heeds endless x) : Heeds endless (explaining words x) :=
  hx.attempt.bind fun result => by
    cases result with
    | ok a => exact heeds_pure a
    | error f => exact heeds_fail _

/-- Hearing the engine heeds limits. -/
theorem heeds_gather {endless : Prop} (answers : List (Answer Bytes)) (gathered : Bytes) :
    Heeds endless (gather answers gathered) := by
  induction answers generalizing gathered with
  | nil => exact (heeds_rewire _).bind fun _ => heeds_pure _
  | cons answer rest ih =>
    match answer with
    | .value (b :: bs) => exact ih _
    | .value [] => exact (heeds_rewire _).bind fun _ => heeds_pure _
    | .wantRead => exact (heeds_rewire _).bind fun _ => heeds_pure _
    | .fault f => exact (heeds_rewire _).bind fun _ => heeds_fail _

/-- Writing what the engine says heeds limits. -/
theorem heeds_flush {endless : Prop} (s : Stream) : Heeds endless (flush s) := by
  refine (heeds_read _).bind fun _ => (heeds_gather _ _).bind fun outgoing => ?_
  cases outgoing with
  | nil => exact heeds_pure ()
  | cons b bs =>
    exact (heeds_rewire _).bind fun _ => heeds_explaining <| (heeds_read _).bind fun cause =>
      (heeds_rewire _).bind fun _ => heeds_awaitDrained.bind fun _ => heeds_suffer cause.join

/-- Reading heeds the limits around it wherever there is one: it does not remove the limit that
ends the wait where nothing arrives. -/
theorem bounded_readOctets (chunks : List Chunk) : Bounded (readOctets chunks) := by
  have hleft (left : List Chunk) :
      Heeds False (rewire fun wire => { wire with arriving := left }) := heeds_rewire _
  intro w hw hlimits
  induction chunks generalizing w with
  | nil =>
    refine (hleft [] w hw).bind ?_
    rintro _ v ⟨⟩ hv
    exact heedsAt_waitForever hv fun hnone => hlimits hnone
  | cons chunk rest ih =>
    cases chunk with
    | octets data => exact (hleft rest w hw).bind fun _ v _ hv => heeds_pure data v hv
    | fault cause => exact (hleft rest w hw).bind fun _ v _ hv => heeds_fail cause v hv
    | pause ticks =>
      refine (hleft rest w hw).bind ?_
      rintro _ v ⟨⟩ hv
      refine (heeds_pause ticks _ hv).bind fun _ u hpause hu => ih u hu ?_
      have hkept := congrArg (·.2.limits) hpause
      exact fun hnone => hlimits (hkept.trans hnone)

/-- Giving to the engine what arrives heeds limits, and comes to an end: the wait for it has a
timeout of its own. -/
theorem heeds_refillEngine (s : Stream) : Heeds False (refillEngine s) := by
  refine (heeds_read _).bind fun ended => ?_
  split
  · exact heeds_pure false
  refine (heeds_read _).bind fun arriving => (heeds_explaining <|
    (heeds_within s.timeout (bounded_readOctets arriving)).bind fun read => ?_).bind fun data => ?_
  · cases read with
    | none => exact heeds_fail _
    | some octets => exact heeds_pure octets
  · cases data with
    | nil => exact (heeds_rewire _).bind fun _ => heeds_pure _
    | cons b bs => exact (heeds_rewire _).bind fun _ => heeds_pure _

/-- Shaking hands heeds limits. -/
theorem heeds_shakeHands (s : Stream) (answers : List (Answer Unit)) :
    Heeds False (shakeHands s answers) := by
  induction answers with
  | nil => exact heeds_rewire _
  | cons answer rest ih =>
    match answer with
    | .value () => exact (heeds_rewire _).bind fun _ => heeds_rewire _
    | .fault f =>
      exact (heeds_rewire _).bind fun _ => (heeds_rewire _).bind fun _ => heeds_fail _
    | .wantRead =>
      refine (heeds_rewire _).bind fun _ => (heeds_rewire _).bind fun _ =>
        (heeds_flush s).bind fun _ => (heeds_refillEngine s).bind fun more => ?_
      cases more with
      | true => exact ih
      | false => exact heeds_fail _

/-- A handshake heeds the limits around it, and comes to an end. -/
theorem heeds_agree (s : Stream) : Heeds False (agree s) := by
  refine (heeds_read _).bind fun _ => (heeds_shakeHands s _).bind fun _ =>
    (heeds_flush s).bind fun _ => (heeds_read _).bind fun negotiated => ?_
  split
  · exact heeds_fail _
  · exact heeds_pure ()

end Run

end TimeProbe

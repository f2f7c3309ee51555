import TimeProbe.Proofs.KeptProperties
import TimeProbe.Proofs.TlsSteps

/-!
# Talk on the wire of a TLS stream

Much of what is done with the wire is talk: something is written or given to the engine, and scripts
are used up. Talk checks no identity and closes nothing, and what it leaves of genuine scripts is
genuine. However a handshake ends, it is talk.
-/

namespace TimeProbe

namespace Tls

namespace Wire

/-- The faults that are still to come are of the kinds that a connection and an engine have, and
the engine has none of its own when it speaks. -/
structure Genuine (w : Wire) : Prop where
  speaking : ∀ f, .fault f ∉ w.outgoing
  draining : ∀ f, some f ∈ w.drains → f.kind.isA .os = true
  reading : ∀ f, .fault f ∈ w.arriving → f.kind.isA .os = true
  verifying : ∀ f ∈ w.verifyFault, f.kind.isA .certificateMismatch = true
  shuttingDown : ∀ f ∈ w.shutdownFault, f.kind.isA .tls = true
  closing : ∀ f ∈ w.closeFault, f.kind.isA .other = true

end Wire

/-- Whether something is done neither to check an identity nor to close the connection. -/
def Act.isTalk : Act → Bool
  | .verifyName _ | .verifyAddress _ | .close => false
  | _ => true

namespace Wire

/-- A wire becomes another one by talk: scripts are used up, and what is done is recorded. -/
structure Leads (a b : Wire) : Prop where
  outgoing : b.outgoing ⊆ a.outgoing
  drains : b.drains ⊆ a.drains
  arriving : b.arriving ⊆ a.arriving
  negotiated : b.negotiated = a.negotiated
  verifyFault : b.verifyFault = a.verifyFault
  shutdownFault : b.shutdownFault = a.shutdownFault
  closeFault : b.closeFault = a.closeFault
  acts : ∃ new, b.acts = a.acts ++ new ∧ ∀ x ∈ new, x.isTalk = true

variable {a b c : Wire}

theorem Leads.refl (a : Wire) : Leads a a :=
  ⟨List.Subset.refl _, List.Subset.refl _, List.Subset.refl _, rfl, rfl, rfl, rfl,
    [], (List.append_nil _).symm, by simp⟩

theorem Leads.trans (hab : Leads a b) (hbc : Leads b c) : Leads a c := by
  obtain ⟨new, hnew, htalk⟩ := hab.acts
  obtain ⟨new', hnew', htalk'⟩ := hbc.acts
  refine ⟨List.Subset.trans hbc.outgoing hab.outgoing, List.Subset.trans hbc.drains hab.drains,
    List.Subset.trans hbc.arriving hab.arriving, hbc.negotiated.trans hab.negotiated,
    hbc.verifyFault.trans hab.verifyFault, hbc.shutdownFault.trans hab.shutdownFault,
    hbc.closeFault.trans hab.closeFault, new ++ new', ?_, ?_⟩
  · rw [hnew', hnew, List.append_assoc]
  · intro x hx
    exact (List.mem_append.mp hx).elim (htalk x) (htalk' x)

/-- What talk leaves of genuine scripts is genuine. -/
theorem Genuine.of_leads (ha : Genuine a) (h : Leads a b) : Genuine b where
  speaking f hf := ha.speaking f (h.outgoing hf)
  draining f hf := ha.draining f (h.drains hf)
  reading f hf := ha.reading f (h.arriving hf)
  verifying := h.verifyFault ▸ ha.verifying
  shuttingDown := h.shutdownFault ▸ ha.shuttingDown
  closing := h.closeFault ▸ ha.closing

end Wire

end Tls

namespace Run

open TimeProbe.Tls

variable {α β : Type} {x : Run α} {s : Stream} {a : Wire}

/-- However a step ends, it only talks: what a wire leads to before the step it leads to behind
it. -/
def Talks (x : Run α) : Prop :=
  ∀ a : Wire, Keeps (fun _ => True) (fun w => a.Leads w.wire) x

/-- Where a wire leads is no matter of time. -/
theorem timeless_leads (a : Wire) : World.Timeless fun w => a.Leads w.wire :=
  fun _ _ _ _ _ _ _ hw => hw

/-- A step that only talks leads the wire on. -/
theorem Talks.leads (hx : Talks x) (w : World) : w.wire.Leads (x w).2.wire :=
  (hx w.wire w (.refl _)).1

/-- A row of steps that only talk does so. -/
theorem Talks.bind {next : α → Run β} (hx : Talks x) (hnext : ∀ b, Talks (next b)) :
    Talks (x >>= next) := fun a => (hx a).bind fun b => hnext b a

/-- Telling a fault in other words keeps what the step keeps. -/
theorem keeps_explaining {inv : World → Prop} {words : Fault → Fault}
    (hx : Keeps (fun _ => True) inv x) : Keeps (fun _ => True) inv (explaining words x) :=
  hx.attempt_bind (fun _ => keeps_pure _) fun _ _ => keeps_fail trivial

/-- That a timeout passed may be a fault where the step keeps what is timeless. -/
theorem keeps_withinOr {inv : World → Prop} {timeout : Binary64} {late : Fault}
    (hinv : World.Timeless inv) (hx : Keeps (fun _ => True) inv x) :
    Keeps (fun _ => True) inv (withinOr timeout late x) :=
  (hx.within hinv hinv (fun _ => id) timeout).bind fun r => by
    cases r with
    | none => exact keeps_fail trivial
    | some b => exact keeps_pure b

/-- A step that looks at the wire only talks if what follows does so. -/
theorem talks_read {f : World → α} {next : α → Run β}
    (hnext : ∀ (a : Wire) (w : World), a.Leads w.wire →
      Keeps (fun _ => True) (fun w => a.Leads w.wire) (next (f w))) : Talks (read f >>= next) :=
  fun a w hw => hnext a w hw w hw

/-- The end that a script prescribes is no talk. -/
theorem talks_suffer (cause : Option Fault) : Talks (suffer cause) :=
  fun _ => keeps_suffer fun _ _ => trivial

/-- Raising a fault is no talk. -/
theorem talks_fail (f : Fault) : Talks (fail f : Run α) := fun _ => keeps_fail trivial

/-- Something is done that is talk. -/
theorem talks_act {act : Act} (hact : act.isTalk = true) : Talks (Run.act act) := fun _ =>
  ensures_update fun w hw => hw.trans
    { Wire.Leads.refl w.wire with acts := ⟨[act], rfl, by simpa using hact⟩ }

/-- The wire is changed in a way that is talk. -/
theorem talks_rewire {f : Wire → Wire} (hf : ∀ wire : Wire, wire.Leads (f wire)) :
    Talks (rewire f) := fun _ => ensures_update fun w hw => hw.trans (hf w.wire)

/-- Hearing the engine uses up its answers. -/
theorem keeps_gather {answers : List (Answer Bytes)} (hanswers : answers ⊆ a.outgoing)
    (gathered : Bytes) :
    Keeps (fun _ => True) (fun w => a.Leads w.wire) (gather answers gathered) := by
  have hleft {left : List (Answer Bytes)} (hleft : left ⊆ a.outgoing) :
      Keeps (fun _ => True) (fun w => a.Leads w.wire)
        (rewire fun wire => { wire with outgoing := left }) :=
    ensures_update fun _ hw => { hw with outgoing := hleft }
  induction answers generalizing gathered with
  | nil => exact (hleft (List.nil_subset _)).bind fun _ => keeps_pure _
  | cons answer rest ih =>
    have hrest : rest ⊆ a.outgoing := fun _ h => hanswers (List.mem_cons_of_mem _ h)
    match answer with
    | .value (b :: bs) => exact ih hrest (gathered ++ b :: bs)
    | .value [] => exact (hleft hrest).bind fun _ => keeps_pure _
    | .wantRead => exact (hleft hrest).bind fun _ => keeps_pure _
    | .fault f => exact (hleft hrest).bind fun _ => keeps_fail trivial

/-- Reading uses up what arrives. -/
theorem keeps_readOctets {chunks : List Chunk} (hchunks : chunks ⊆ a.arriving) :
    Keeps (fun _ => True) (fun w => a.Leads w.wire) (readOctets chunks) := by
  have hleft {left : List Chunk} (hleft : left ⊆ a.arriving) :
      Keeps (fun _ => True) (fun w => a.Leads w.wire)
        (rewire fun wire => { wire with arriving := left }) :=
    ensures_update fun _ hw => { hw with arriving := hleft }
  induction chunks with
  | nil => exact (hleft (List.nil_subset _)).bind fun _ _ hw => ⟨hw, trivial⟩
  | cons chunk rest ih =>
    have hrest : rest ⊆ a.arriving := fun _ h => hchunks (List.mem_cons_of_mem _ h)
    cases chunk with
    | octets data => exact (hleft hrest).bind fun _ => keeps_pure _
    | fault f => exact (hleft hrest).bind fun _ => keeps_fail trivial
    | pause ticks =>
      exact (hleft hrest).bind fun _ => (keeps_pause (timeless_leads a) ticks).bind fun _ =>
        ih hrest

/-- Waiting for a write to end uses up a script. -/
theorem talks_drain : Talks drain := by
  have htail : Talks (rewire fun wire => { wire with drains := wire.drains.tail }) :=
    talks_rewire fun wire =>
      { Wire.Leads.refl wire with drains := fun _ h => List.mem_of_mem_tail h }
  exact fun a => (keeps_read _).bind fun cause => (htail a).bind fun _ =>
    (keeps_awaitDrained (timeless_leads a)).bind fun _ => talks_suffer cause.join a

/-- Writing what the engine says is talk. -/
theorem talks_flush (s : Stream) : Talks (flush s) := by
  refine talks_read fun a w hw => (keeps_gather hw.outgoing []).bind fun outgoing => ?_
  cases outgoing with
  | nil => exact keeps_pure ()
  | cons b bs => exact (talks_act rfl a).bind fun _ => keeps_explaining (talks_drain a)

/-- Giving to the engine what arrives is talk. -/
theorem talks_refillEngine (s : Stream) : Talks (refillEngine s) := by
  refine fun a => (keeps_read _).bind fun ended => ?_
  have harrived (arriving : List Chunk) (harriving : arriving ⊆ a.arriving) :
      Keeps (fun _ => True) (fun w => a.Leads w.wire)
        (explaining s.readFault (withinOr s.timeout lateness (readOctets arriving))) :=
    keeps_explaining (keeps_withinOr (timeless_leads a) (keeps_readOctets harriving))
  split
  · exact keeps_pure false
  refine fun w hw => ((harrived _ hw.arriving).bind fun data => ?_) w hw
  cases data with
  | nil =>
    have hended : Talks (rewire fun wire => { wire with ended := true }) :=
      talks_rewire fun wire => { Wire.Leads.refl wire with }
    exact (hended a).bind fun _ => keeps_pure _
  | cons b bs => exact (talks_act rfl a).bind fun _ => keeps_pure _

/-- Shaking hands is talk. -/
theorem talks_shakeHands (s : Stream) (answers : List (Answer Unit)) :
    Talks (shakeHands s answers) := by
  have hcall : Talks (act .shakeHands) := talks_act rfl
  have hleft (rest : List (Answer Unit)) :
      Talks (rewire fun wire => { wire with handshake := rest }) :=
    talks_rewire fun wire => { Wire.Leads.refl wire with }
  induction answers with
  | nil => exact hcall
  | cons answer rest ih =>
    match answer with
    | .value () => exact hcall.bind fun _ => hleft rest
    | .fault f => exact hcall.bind fun _ => (hleft rest).bind fun _ => talks_fail _
    | .wantRead =>
      refine hcall.bind fun _ => (hleft rest).bind fun _ => (talks_flush s).bind fun _ =>
        (talks_refillEngine s).bind fun more => ?_
      cases more with
      | true => exact ih
      | false => exact talks_fail _

/-- The handshake is talk. -/
theorem talks_agree (s : Stream) : Talks (agree s) := by
  refine talks_read fun a w _ => (talks_shakeHands s _ a).bind fun _ => (talks_flush s a).bind
    fun _ => (keeps_read _).bind fun negotiated => ?_
  split
  · exact keeps_fail trivial
  · exact keeps_pure ()

end Run

end TimeProbe

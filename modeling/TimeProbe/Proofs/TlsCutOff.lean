import TimeProbe.Proofs.TlsOpening

/-!
# TLS streams that are cut off

Only a fault makes an opening give its connection up, and a closing waits for the last output to
drain before it closes anything. So neither of them closes the connection if a limit around it cuts
it off: a connection that was made by then stays open, like the stream of a key establishment that
is cut off in its handshake or while its output drains.
-/

namespace TimeProbe

namespace Tls.Wire

/-- A wire became another one without closing the connection. -/
def StaysOpen (a b : Wire) : Prop := ∃ new, b.acts = a.acts ++ new ∧ .close ∉ new

variable {a b c : Wire}

theorem StaysOpen.refl (a : Wire) : StaysOpen a a := ⟨[], (List.append_nil _).symm, nofun⟩

theorem StaysOpen.trans (hab : StaysOpen a b) (hbc : StaysOpen b c) : StaysOpen a c := by
  obtain ⟨new, hnew, hopen⟩ := hab
  obtain ⟨new', hnew', hopen'⟩ := hbc
  refine ⟨new ++ new', ?_, fun hclose => (List.mem_append.mp hclose).elim hopen hopen'⟩
  rw [hnew', hnew, List.append_assoc]

/-- Talk closes nothing. -/
theorem Leads.staysOpen (h : Leads a b) : StaysOpen a b := by
  obtain ⟨new, hnew, htalk⟩ := h.acts
  exact ⟨new, hnew, fun hclose => Bool.noConfusion (htalk .close hclose)⟩

end Tls.Wire

namespace Run

open TimeProbe.Tls

variable {α β : Type} {x : Run α}

/-- A step that does not close the connection, however it ends. -/
def Spares (x : Run α) : Prop :=
  ∀ a : Wire, Keeps (fun _ => True) (fun w => a.StaysOpen w.wire) x

/-- A step that does not close the connection if it is cut off. -/
def SparesCutOff (x : Run α) : Prop :=
  ∀ w, (x w).1.isCutOff = true → w.wire.StaysOpen (x w).2.wire

/-- Talk closes nothing. -/
theorem Talks.spares (hx : Talks x) : Spares x := fun _ w hw =>
  ⟨hw.trans (hx.leads w).staysOpen, (hx w.wire w (.refl _)).2⟩

/-- A step that is never cut off. -/
theorem sparesCutOff_of_ended (hx : ∀ w, (x w).1.isCutOff = false) : SparesCutOff x := by
  intro w hcut
  rw [hx w] at hcut
  cases hcut

/-- What may close the connection at its end does not do so if it is cut off. -/
theorem Spares.bind {next : α → Run β} (hx : Spares x) (hnext : ∀ b, SparesCutOff (next b)) :
    SparesCutOff (x >>= next) := by
  intro w hcut
  have hopen := (hx w.wire w (.refl _)).1
  rcases hrun : x w with ⟨ending, v⟩
  rw [hrun] at hopen
  cases ending with
  | done b =>
    rw [bind_done hrun] at hcut ⊢
    exact hopen.trans (hnext b v hcut)
  | failed f =>
    rw [bind_failed hrun]
    exact hopen
  | cutOff =>
    rw [bind_cutOff hrun]
    exact hopen

/-- Closing the connection takes no time. -/
theorem closeConnection_ended (w : World) : (closeConnection w).1.isCutOff = false := by
  rw [closeConnection, act_bind, act_bind, read_bind]
  cases ((w.recording .close).recording .awaitClosed).wire.closeFault with
  | none => rfl
  | some cause =>
    dsimp only
    split <;> rfl

/-- A closing that is cut off does not close the connection. -/
theorem sparesCutOff_closeTls (s : Stream) : SparesCutOff (closeTls s) := by
  refine Spares.bind (fun a => ((talks_shutDown s).spares a).attempt) fun result => ?_
  have hclose : SparesCutOff closeConnection := sparesCutOff_of_ended closeConnection_ended
  cases result with
  | ok _ => exact hclose
  | error cause =>
    dsimp only
    split
    · exact hclose
    · exact sparesCutOff_of_ended fun _ => rfl

/-- Naming the server closes nothing. -/
theorem spares_announceHost (host : String) : Spares (announceHost host) := by
  intro a
  rw [announceHost]
  split
  · exact keeps_pure ()
  · refine (keeps_read _).bind fun preparation => ?_
    cases Host.announced preparation host with
    | ok name =>
      have htalk : Talks (act (.announce name)) := talks_act rfl
      exact htalk.spares a
    | error e => exact keeps_fail trivial

/-- Checking an identity closes nothing. -/
theorem spares_verifyIdentity (s : Stream) : Spares (verifyIdentity s) := by
  intro a
  have hcheck : Keeps (fun _ => True) (fun w : World => a.StaysOpen w.wire) (act s.check) :=
    ensures_update fun w hw => hw.trans ⟨[s.check], rfl, fun hclose =>
      check_ne_close s (List.mem_singleton.mp hclose).symm⟩
  exact hcheck.bind fun _ => keeps_explaining <| (keeps_read _).bind fun _ =>
    keeps_suffer fun _ _ => trivial

/-- The handshake and the identity check close nothing. -/
theorem spares_secure (s : Stream) : Spares (secure s) := fun a =>
  (keeps_withinOr (fun _ _ _ _ _ _ _ hw => hw) ((talks_agree s).spares a)).bind fun _ =>
    spares_verifyIdentity s a

/-- An opening that is given up does not close the connection if that is cut off. -/
theorem sparesCutOff_giveUp (s : Stream) (cause : Fault) : SparesCutOff (giveUp s cause) := by
  rw [giveUp]
  split
  · intro w hcut
    rcases hrun : closeTls s w with ⟨ending, v⟩
    have hclose := sparesCutOff_closeTls s w
    rw [hrun] at hclose
    cases ending with
    | done _ =>
      rw [bind_done hrun] at hcut
      cases hcut
    | failed f =>
      rw [bind_failed hrun] at hcut
      cases hcut
    | cutOff =>
      rw [bind_cutOff hrun]
      exact hclose rfl
  · exact sparesCutOff_of_ended fun _ => rfl

/-- An opening that is cut off does not close the connection: one that was made by then stays
open. -/
theorem sparesCutOff_openTls (s : Stream) : SparesCutOff (openTls s) :=
  (talks_connectTcp s).spares.bind fun _ => (spares_announceHost _).bind fun _ =>
    (talks_act rfl).spares.bind fun _ => Spares.bind (fun a => (spares_secure s a).attempt)
      fun result => by
        cases result with
        | ok _ => exact sparesCutOff_of_ended fun _ => rfl
        | error cause => exact sparesCutOff_giveUp s cause

/-- The connection was made, the server says nothing, and a limit cuts the handshake off. -/
example :
    let s : Stream := { address := ⟨"192.0.2.1", 4460⟩, timeout := Binary64.ofInt 1 }
    let w := openTls s { limits := [⟨(Binary64.ofRatio false 1 2).magnitude, 0⟩],
                         wire := { handshake := [.wantRead] } }
    w.1.isCutOff = true ∧
      w.2.wire.acts = [.connect "192.0.2.1" 4460, .becomeClient, .shakeHands] := by
  decide +kernel

end Run

end TimeProbe

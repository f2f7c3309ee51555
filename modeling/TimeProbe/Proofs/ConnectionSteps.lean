import TimeProbe.Catalog.All
import TimeProbe.Proofs.BuiltSteps

/-!
# What a body may do

A confined case only sends, receives and exchanges on the connection that it is given. Its body is
built of steps on that connection and of steps that no connection has a part in, so that the whole
case is built of elementary steps. All cases of the catalog are confined, and beside the faults of
these steps they raise no other than the prober's own.
-/

namespace TimeProbe

/-- Cases whose bodies keep to the connection that they are given, and raise no other than allowed
faults beside those of the connection. They wait without end only where `endless` says so. -/
inductive TestCase.ConfinedWith (allowed : Fault → Prop) (endless : Prop) : TestCase → Prop
  | plain (name summary : String) {body : Nat → Run Unit}
      (hbody : ∀ i, Run.BuiltWith allowed (Run.OrAmbient endless (Run.OnEndpoint i)) (body i)) :
      ConfinedWith allowed endless (.plain name summary body)
  | guarded (name summary : String) {body : Nat → Run Unit}
      (hbody : ∀ i, Run.BuiltWith allowed (Run.OrAmbient endless (Run.OnSession i)) (body i)) :
      ConfinedWith allowed endless (.guarded name summary body)
  | onStream (name summary : String) {body : Nat → Run Unit}
      (hbody : ∀ i, Run.BuiltWith allowed (Run.OrAmbient endless (Run.OnStream i)) (body i)) :
      ConfinedWith allowed endless (.onStream name summary body)

/-- Cases whose bodies keep to the connection that they are given, whatever they raise and however
long they wait. -/
abbrev TestCase.Confined (case : TestCase) : Prop := case.ConfinedWith (fun _ => True) True

namespace Run

variable {α : Type} {allowed : Fault → Prop} {endless : Prop} {x : Run α}

/-- What a protected connection takes once there is a session for it: a fresh endpoint to the
time server of the session, and a place among the sessions. -/
def connectSession (c : RunConfig) (out : HandedOut) : Run Nat := do
  let endpoint ← openEndpoint out.address c.timeout
  let place ← read (·.sessions.length)
  update fun w => { w with sessions := w.sessions ++ [(endpoint, out.session)] }
  return place

variable {c : RunConfig}

/-- With time security a protected connection takes a session first. -/
theorem connectProtected_of_on (hon : c.ntsEnabled = true) :
    connectProtected c = takeSession >>= connectSession c := by
  rw [connectProtected, hon]
  rfl

/-- Without time security there is no protected connection, and nothing else happens. -/
theorem connectProtected_of_off (hoff : c.ntsEnabled = false) (w : World) :
    connectProtected c w = (.failed (Fault.skipped ntsDisabled), w) := by
  rw [connectProtected, hoff]
  rfl

/-- With time security a key establishment stream is opened. -/
theorem connectKe_of_on (hon : c.ntsEnabled = true) :
    connectKe c = openStream ⟨c.target, c.kePort⟩ c.caFile none := by
  rw [connectKe, hon]
  rfl

/-- Without time security there is no key establishment stream, and nothing else happens. -/
theorem connectKe_of_off (hoff : c.ntsEnabled = false) (w : World) :
    connectKe c w = (.failed (Fault.skipped ntsDisabled), w) := by
  rw [connectKe, hoff]
  rfl

/-- Resolving a name looks it up and does nothing else, whatever comes of it. -/
theorem resolve_eq (address : Address) (w : World) :
    resolve address w =
      (match w.resolver with
        | .error cause => .failed (lookupFault address.host cause)
        | .ok [] => .failed (noAddress address.host)
        | .ok found => .done found,
      { w with lookups := w.lookups ++ [address] }) := by
  rcases hresolver : w.resolver with cause | _ | ⟨name, names⟩ <;>
    simp only [resolve, Bind.bind, Run.bind, update, read, hresolver] <;> rfl

/-- What happens on a plain connection is built of steps below a session. -/
theorem BuiltWith.onPlain {i : Nat} (hx : BuiltWith allowed (OrAmbient endless (OnEndpoint i)) x) :
    BuiltWith allowed (BelowSession endless) x :=
  hx.trans fun _ _ h => h.elim (fun h => .step (.onEndpoint i h)) fun h => .step (.ambient h)

/-- What happens on a stream is elementary. -/
theorem BuiltWith.onKe {i : Nat} (hx : BuiltWith allowed (OrAmbient endless (OnStream i)) x) :
    BuiltWith allowed (Elementary endless) x :=
  hx.trans fun _ _ h => h.elim (fun h => .step (.onTarget (.onStream i h)))
    fun h => .step (.below (.ambient h))

/-- What is built of steps below a session is elementary. -/
theorem BuiltWith.belowElementary (hx : BuiltWith allowed (BelowSession endless) x) :
    BuiltWith allowed (Elementary endless) x := hx.trans fun _ _ h => .step (.below h)

end Run

namespace TestCase

open Run

variable {allowed : Fault → Prop} {endless : Prop} (hmade : ∀ f : Fault, f.Homemade → allowed f)
include hmade

/-- A confined case is built of elementary steps. A protected one may exhaust the pool of its
session. -/
theorem ConfinedWith.built {case : TestCase}
    (hpool : case.requirement = .nts → allowed CookiePool.exhausted)
    (hcase : case.ConfinedWith allowed endless) (c : RunConfig) :
    BuiltWith allowed (Elementary endless) (case.run c) := by
  cases hcase with
  | plain name summary hbody =>
    exact .bind (built_connectPlain c) fun i =>
      .ensuring (BuiltWith.bind (hbody i) fun _ => built_probe hmade i).onPlain.belowElementary
        (.step (.closeEndpoint i))
  | guarded name summary hbody =>
    exact .bind (built_connectProtected hmade c) fun i =>
      .ensuring ((BuiltWith.bind (hbody i) fun _ =>
        built_probeProtected hmade i).belowSession hmade (hpool rfl)).belowElementary
        (built_closeProtected hmade i)
  | onStream name summary hbody =>
    exact .bind (built_connectKe hmade c).elementary fun i =>
      .ensuring (hbody i).onKe (.step (.onTarget (.closeStream i)))

end TestCase

namespace Catalog

open Run Expect

/-! ## What the cases of the catalog expect -/

/-- What a plain poll expects raises homemade faults only. -/
theorem homemade_basic (version : Int) (identifier : Identifier) (p : Packet) :
    Expect.Homemade (Basic.judge version identifier p) :=
  (homemade_version _ _).bind fun _ => (homemade_equal _ _ _ _).bind fun _ =>
    (homemade_greater _ _ _ _).bind fun _ => homemade_equal _ _ _ _

/-- What is expected of a reply to an unknown field raises homemade faults only. -/
theorem homemade_unknown (p : Packet) : Expect.Homemade (Extensions.judgeUnknown p) := by
  rw [Extensions.judgeUnknown]
  split
  · exact homemade_ok ()
  · exact homemade_error (Fault.homemade_failure _ _)

/-- What is expected of a reply to an identifier raises homemade faults only. -/
theorem homemade_uid (uid : ExtensionField) (p : Packet) :
    Expect.Homemade (Extensions.judgeUid uid p) := by
  refine (homemade_that _ _ _).bind fun _ => (homemade_less _ _ _ _).bind fun _ => ?_
  split
  · exact homemade_equal _ _ _ _
  · exact homemade_ok ()

/-- What an ordinary protected poll expects raises homemade faults only. -/
theorem homemade_happy (reply : NtsReply) : Expect.Homemade (Nts.judgeHappy reply) :=
  (homemade_that _ _ _).bind fun _ => homemade_equal _ _ _ _

/-- What is expected of a reply to a forged cookie raises homemade faults only. -/
theorem homemade_refusal (reply : NtsReply) : Expect.Homemade (Nts.judgeRefusal reply) :=
  (homemade_that _ _ _).bind fun _ => homemade_equal _ _ _ _

/-- What is expected of an ordinary key establishment raises homemade faults only. -/
theorem homemade_keyExchange (r : KeResponse) : Expect.Homemade (KeyExchange.judgeHappy r) :=
  (homemade_equal _ _ _ _).bind fun _ => (homemade_equal _ _ _ _).bind fun _ =>
    (homemade_that _ _ _).bind fun _ => (homemade_that _ _ _).bind fun _ => homemade_equal _ _ _ _

/-! ## What the cases of the catalog do -/

section Homemade

variable {allowed : Fault → Prop} {endless : Prop} (hmade : ∀ f : Fault, f.Homemade → allowed f)
include hmade

/-- An expectation is built of nothing. -/
theorem built_check {kind : StepKind} {e : Except Fault Unit} (he : Expect.Homemade e) :
    BuiltWith allowed kind (check e) := .ofExcept fun f hf => hmade f (he f hf)

/-- The plain polls are confined. -/
theorem confined_basic : ∀ case ∈ Basic.all, case.ConfinedWith allowed endless := by
  have hpoll (version : Int) (i : Nat) :
      BuiltWith allowed (OrAmbient endless (OnEndpoint i)) (Basic.poll version i) :=
    .bind (.ambient (.drawing _)) fun request =>
      .bind (.reply hmade (.own (.exchange _ _ _))) fun reply =>
        built_check hmade (homemade_basic _ _ reply)
  simp only [Basic.all, List.forall_mem_cons]
  refine ⟨.plain _ _ (hpoll 4), .plain _ _ (hpoll 3), .plain _ _ fun i => ?_, nofun⟩
  exact .bind (.ambient (.drawing _)) fun request =>
    .bind (.own (.send _)) fun _ => .silence hmade (.own (.anything none)) _

/-- The cases on extension fields are confined. -/
theorem confined_extensions : ∀ case ∈ Extensions.all, case.ConfinedWith allowed endless := by
  have hpoll (field : ExtensionField) {judge : Packet → Except Fault Unit}
      (hjudge : ∀ p, Expect.Homemade (judge p)) (i : Nat) :
      BuiltWith allowed (OrAmbient endless (OnEndpoint i)) (Extensions.pollWith field judge i) :=
    .bind (.ambient (.drawing _)) fun request =>
      .bind (.reply hmade (.own (.exchange _ _ _))) fun reply => built_check hmade (hjudge reply)
  simp only [Extensions.all, List.forall_mem_cons]
  refine ⟨.plain _ _ (hpoll _ homemade_unknown), .plain _ _ (hpoll _ (homemade_uid _)),
    .plain _ _ fun i => ?_, nofun⟩
  exact .bind (.ambient (.drawing _)) fun request =>
    .bind (.own (.send _)) fun _ => .silence hmade (.own (.anything none)) _

/-- The protected polls are confined. -/
theorem confined_nts : ∀ case ∈ Nts.all, case.ConfinedWith allowed endless := by
  simp only [Nts.all, List.forall_mem_cons]
  refine ⟨.guarded _ _ fun i => ?_, .guarded _ _ fun i => ?_, nofun⟩
  · exact .bind (.ambient (.drawing _)) fun request =>
      .bind (.reply hmade (.own (.exchange _ _ _ _))) fun reply =>
        built_check hmade (homemade_happy reply)
  · refine .bind (.own .look) fun found => .bind (.ambient (.drawing _)) fun request =>
      .bind (.ambient (.draw _)) fun cookie =>
      .attempt (.reply hmade (.own (.exchange _ _ _ _)))
        (fun reply => built_check hmade (homemade_refusal reply)) fun f hf => ?_
    dsimp only
    split
    · exact .pure ()
    · exact .fail hf

/-- The cases on key establishment are confined. -/
theorem confined_keyExchange : ∀ case ∈ KeyExchange.all, case.ConfinedWith allowed endless := by
  have hask (q : KeRequest) {judge : KeResponse → Except Fault Unit}
      (hjudge : ∀ r, Expect.Homemade (judge r)) (i : Nat) :
      BuiltWith allowed (OrAmbient endless (OnStream i)) (KeyExchange.ask q judge i) :=
    .bind (built_exchangeRequest hmade i q).orAmbient fun response =>
      built_check hmade (hjudge response)
  simp only [KeyExchange.all, List.forall_mem_cons]
  refine ⟨.onStream _ _ (hask _ homemade_keyExchange),
    .onStream _ _ (hask _ fun _ => homemade_equal _ _ _ _),
    .onStream _ _ (hask _ fun _ => homemade_equal _ _ _ _),
    .onStream _ _ (hask _ fun _ => homemade_equal _ _ _ _),
    .onStream _ _ (hask _ fun _ => homemade_equal _ _ _ _), .onStream _ _ fun i => ?_, nofun⟩
  exact .bind (built_exchangeRecords (fun f hf => hmade f hf.toHomemade) i _).orAmbient
    fun response => built_check hmade (homemade_equal _ _ _ _)

/-- All cases of the catalog are confined. -/
theorem confined_cases : ∀ case ∈ cases, case.ConfinedWith allowed endless := by
  intro case hcase
  simp only [cases, List.mem_append] at hcase
  rcases hcase with ((h | h) | h) | h
  · exact confined_basic hmade case h
  · exact confined_extensions hmade case h
  · exact confined_nts hmade case h
  · exact confined_keyExchange hmade case h

end Homemade

end Catalog

end TimeProbe

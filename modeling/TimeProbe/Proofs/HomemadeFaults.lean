import TimeProbe.Expect
import TimeProbe.Nts.Liveness
import TimeProbe.Nts.SessionSource
import TimeProbe.Target

/-!
# The faults that the prober makes

What the prober complains about by itself is an exception without arguments: a reply that is no
packet, an answer that settles on nothing, an expectation that is not met. Only an empty pool of
cookies is a matter of its own.
-/

namespace TimeProbe

namespace Fault

/-- A fault that a network or a computation raises: not the user's interrupt, and no verdict
with arguments of its own. -/
structure Ordinary (f : Fault) : Prop where
  kind : f.kind.isA .other = true
  arguments : f.arguments = []

/-- A fault other than that a pool is exhausted. -/
def Sparing (f : Fault) : Prop := f.kind ≠ .cookiePoolExhausted

/-- A fault of another kind is sparing. -/
theorem Sparing.of_kind {f : Fault} (h : (f.kind == .cookiePoolExhausted) = false) : f.Sparing :=
  beq_eq_false_iff_ne.mp h

/-- A fault that the prober makes by itself, other than for an empty pool. -/
structure Homemade (f : Fault) : Prop extends f.Ordinary where
  sparing : f.Sparing

/-- A fault without arguments is homemade if its kind is right, which can be computed. -/
theorem Homemade.of_kind {f : Fault} (harguments : f.arguments = [])
    (hkind : (f.kind.isA .other && f.kind != .cookiePoolExhausted) = true) : f.Homemade := by
  rw [Bool.and_eq_true, bne_iff_ne] at hkind
  exact ⟨⟨hkind.1, harguments⟩, hkind.2⟩

/-- A failed test is homemade. -/
theorem homemade_failure (reason : String) (response : Value) :
    (failure reason response).Homemade := .of_kind rfl rfl

/-- A skipped test is homemade. -/
theorem homemade_skipped (reason : String) : (skipped reason).Homemade := .of_kind rfl rfl

/-- The fault of a datagram that is no packet is homemade. -/
theorem homemade_ofPacketError (e : PacketError) : (ofPacketError e).Homemade := by
  cases e <;> exact .of_kind rfl rfl

/-- The fault of a datagram that is no valid reply is homemade. -/
theorem homemade_ofReplyError (e : ReplyError) : (ofReplyError e).Homemade := by
  cases e with
  | packet e => exact homemade_ofPacketError e
  | authenticator e => exact .of_kind rfl rfl
  | cipher e => cases e <;> exact .of_kind rfl rfl
  | encrypted e => exact .of_kind rfl rfl

/-- The fault of values from which no record is built is homemade. -/
theorem homemade_ofRecordBuildError (e : RecordBuildError) : (ofRecordBuildError e).Homemade := by
  cases e <;> exact .of_kind rfl rfl

/-- A fault of the prober's own that it makes by itself. -/
structure Own (f : Fault) : Prop extends f.Homemade where
  own : f.kind.isA .own = true

/-- A fault without arguments is the prober's own if its kind is right, which can be computed. -/
theorem Own.of_kind {f : Fault} (harguments : f.arguments = [])
    (hkind : (f.kind.isA .own && f.kind.isA .other && f.kind != .cookiePoolExhausted) = true) :
    f.Own := by
  rw [Bool.and_assoc, Bool.and_eq_true] at hkind
  exact ⟨.of_kind harguments hkind.2, hkind.1⟩

/-- The fault of records that make no response is the prober's own. -/
theorem own_ofKeResponseError (e : KeResponseError) : (ofKeResponseError e).Own := by
  cases e <;> exact .of_kind rfl rfl

end Fault

/-- What a negotiation complains about is the prober's own. -/
theorem own_of_negotiate {proposed : List Int} {r : KeResponse} {f : Fault}
    (h : negotiate proposed r = .error f) : f.Own := by
  unfold negotiate at h
  dsimp only at h
  split at h
  next cause hcause =>
    obtain rfl := Except.error.inj h
    rw [KeResponse.failure?] at hcause
    split at hcause
    · cases hcause
    · cases hcause
      exact .of_kind rfl rfl
  next =>
    repeat' split at h
    all_goals first
      | exact Except.error.inj h ▸ .of_kind rfl rfl
      | cases h

namespace Run

/-- The fault of an exchange that nothing answered is homemade. -/
theorem homemade_noReply (address : Address) (timeout : Binary64)
    (last : Option (ReplyError × Bytes)) : (noReply address timeout last).Homemade := by
  rcases last with _ | ⟨e, data⟩
  · exact .of_kind rfl rfl
  · obtain ⟨⟨hkind, harguments⟩, hsparing⟩ := Fault.homemade_ofReplyError e
    exact ⟨⟨hkind, harguments⟩, hsparing⟩

/-- An answer that ended too early makes a fault of the prober's own. -/
theorem own_endedEarly (rs : List Record) : (endedEarly rs).Own := by
  rw [endedEarly]
  split <;> exact .of_kind rfl rfl

end Run

/-- The fault of a probe is a failed test, or else that of its exchange. -/
theorem probeFault_cases (isInvalid : FaultKind → Bool) (f : Fault) :
    (probeFault isInvalid f).Homemade ∨ probeFault isInvalid f = f := by
  rw [probeFault]
  split
  · exact .inl (Fault.homemade_failure _ _)
  split
  · exact .inl (Fault.homemade_failure _ _)
  · exact .inr rfl

/-- A refill whose jar is not put back raises a fault of the prober's own. -/
theorem SessionSource.own_of_refilled {s : SessionSource} {m : KeyMaterial} {f : Fault}
    (h : s.refilled m = .error f) : f.Own := by
  rw [refilled] at h
  split at h
  · cases h
  · cases h
    exact .of_kind rfl rfl

namespace Expect

variable {α β : Type}

/-- An expectation that raises homemade faults only. -/
def Homemade (r : Except Fault α) : Prop := ∀ f, r = .error f → f.Homemade

/-- A result is no fault. -/
theorem homemade_ok (a : α) : Homemade (.ok a : Except Fault α) := nofun

/-- A homemade fault is one. -/
theorem homemade_error {f : Fault} (hf : f.Homemade) : Homemade (.error f : Except Fault α) := by
  rintro _ ⟨⟩
  exact hf

/-- Two expectations in a row. -/
theorem Homemade.bind {r : Except Fault α} {next : α → Except Fault β} (hr : Homemade r)
    (hnext : ∀ a, Homemade (next a)) : Homemade (r >>= next) := by
  cases r with
  | ok a => exact hnext a
  | error f => exact homemade_error (hr f rfl)

/-- An expectation that does not hold fails the test. -/
theorem homemade_that (condition : Bool) (reason : String) (response : Value) :
    Homemade (that condition reason response) := by
  rw [that]
  split
  · exact homemade_ok ()
  · exact homemade_error (Fault.homemade_failure reason response)

/-- Values that differ fail the test. -/
theorem homemade_equal (actual expected : Value) (reason : String) (response : Value) :
    Homemade (equal actual expected reason response) := homemade_that _ _ _

/-- A value that is not greater fails the test. -/
theorem homemade_greater (actual bound : Value) (reason : String) (response : Value) :
    Homemade (greater actual bound reason response) := by
  rw [greater]
  split
  · exact homemade_error (.of_kind rfl rfl)
  · exact homemade_that _ _ _

/-- A value that is not less fails the test. -/
theorem homemade_less (actual bound : Value) (reason : String) (response : Value) :
    Homemade (less actual bound reason response) := by
  rw [less]
  split
  · exact homemade_error (.of_kind rfl rfl)
  · exact homemade_that _ _ _

/-- A packet of another version fails the test. -/
theorem homemade_version (packet version : Value) :
    Homemade (Expect.version packet version) := by
  unfold Expect.version
  split
  · exact homemade_that _ _ _
  · exact homemade_error (.of_kind rfl rfl)

end Expect

end TimeProbe

import TimeProbe.Proofs.CaseOutcomes
import TimeProbe.Proofs.CookieReserve
import TimeProbe.Proofs.OneServer

/-!
# The catalog never runs out of cookies

Plain cases and key establishment cases use no cookies. A protected case starts with one in its
session, and its body ends well only if there is one left for the poll behind it: either it used
none, or a reply brought as many as it had asked for. So no case of a run exhausts a pool.
-/

namespace TimeProbe

namespace Expect

/-- An expectation without fault was met. -/
theorem of_that_eq_ok {condition : Bool} {reason : String} {response : Value}
    (h : that condition reason response = .ok ()) : condition = true := by
  cases condition with
  | true => rfl
  | false => cases h

/-- An expectation in front of others was met if all of them were. -/
theorem of_that_bind {α : Type} {condition : Bool} {reason : String} {response : Value} {a : α}
    {next : Unit → Except Fault α} (h : (that condition reason response >>= next) = .ok a) :
    condition = true ∧ next () = .ok a := by
  cases condition with
  | true => exact ⟨rfl, h⟩
  | false => cases h

/-- Numbers that are expected to be equal are. -/
theorem eq_of_equal_int {actual expected : Int} {reason : String} {response : Value}
    (h : equal (.int actual) (.int expected) reason response = .ok ()) : actual = expected := by
  have hsame : (actual * Binary64.ticksPerUnit == expected * Binary64.ticksPerUnit) = true :=
    of_that_eq_ok h
  have hunit : (Binary64.ticksPerUnit : Int) ≠ 0 := by
    have hpos : 0 < Binary64.ticksPerUnit := by
      rw [Binary64.ticksPerUnit, Nat.one_shiftLeft]
      exact Nat.two_pow_pos 1074
    omega
  exact Int.eq_of_mul_eq_mul_right hunit (beq_iff_eq.mp hsame)

/-- The reply of an exchange under test is the one that the exchange has. -/
theorem eq_done_of_reply {α : Type} {x : Run α} {a : α} {w w' : World}
    (h : reply x w = (.done a, w')) : x w = (.done a, w') := by
  rcases Run.exists_of_attempt_bind_done h with ⟨b, w₁, hrun, hreply⟩ | ⟨f, w₁, hrun, hreply⟩
  · cases hreply
    exact hrun
  · dsimp only at hreply
    split at hreply <;> cases hreply

end Expect

namespace World

/-- What is printed makes no difference to a sparing world. -/
theorem Sparing.printing {w : World} (hw : w.Sparing) (lines : List String) :
    (w.printing lines).Sparing := { hw with }

end World

namespace TestCase

open Run

/-- A case that does not exhaust a pool, under any configuration. -/
def Sparing (case : TestCase) : Prop := ∀ c, Keeps Fault.Sparing World.Sparing (case.run c)

/-- A body that does not exhaust the pool of its session, and ends well only if the session still
has a cookie. -/
structure Thrifty (i : Nat) (body : Run Unit) : Prop where
  sparing : Ensures Fault.Sparing (World.Supplied i) World.Sparing body
  cookie : ∀ w w', w.Supplied i → body w = (.done (), w') → w'.HasCookie i

/-- A body that leaves a cookie however it ends is thrifty. -/
theorem Thrifty.of_keeps {i : Nat} {body : Run Unit}
    (hbody : Keeps Fault.Sparing (World.Supplied i) body) : Thrifty i body where
  sparing := hbody.imp (fun _ => id) (fun _ hw => hw.sparing) fun _ => id
  cookie w w' hw h := by
    have hleft := (hbody w hw).1.cookie
    rwa [h] at hleft

variable {c : RunConfig} {i : Nat} {w w' : World} {body : Nat → Run Unit}

/-- Opening a protected connection is sparing. -/
theorem sparing_connectProtected (c : RunConfig) :
    Keeps Fault.Sparing World.Sparing (connectProtected c) :=
  BuiltWith.sparing (built_connectProtected (fun _ => Fault.Homemade.sparing) c :
    BuiltWith Fault.Sparing (Elementary True) _)

/-- A protected connection starts with a cookie in its session. -/
theorem hasCookie_of_connectProtected (hcount : 1 ≤ w.settings.ntsSessionCookies)
    (h : connectProtected c w = (.done i, w')) : w'.HasCookie i := by
  cases hon : c.ntsEnabled with
  | true =>
    rw [connectProtected_of_on hon] at h
    obtain ⟨out, w₁, htake, h⟩ := exists_of_bind_done h
    obtain ⟨endpoint, w₂, hopen, h⟩ := exists_of_bind_done h
    cases h
    exact ⟨endpoint, out.session, List.getElem?_concat_length,
      cookies_ne_nil_of_takeSession hcount htake⟩
  | false =>
    rw [connectProtected_of_off hon] at h
    cases h

/-- A protected case with a thrifty body is sparing. -/
theorem sparing_guarded (name summary : String) (hbody : ∀ i, Thrifty i (body i)) :
    (guarded name summary body).Sparing := by
  intro c
  have hclose (i : Nat) : BuiltWith Fault.Sparing (Elementary True) (closeProtected i) :=
    built_closeProtected (fun _ => Fault.Homemade.sparing) i
  have hprobed (i : Nat) : Ensures Fault.Sparing (World.Supplied i) World.Sparing (do
      body i
      probeProtected i) := by
    refine (hbody i).sparing.follow fun w _ w₁ hw hrun => ?_
    have hleft := ((hbody i).sparing w hw).1
    rw [hrun] at hleft
    exact sparing_probeProtected i w₁ ⟨hleft, (hbody i).cookie w w₁ hw hrun⟩
  refine (sparing_connectProtected c).follow fun w i w₁ hw hconnect => ?_
  have hleft := (sparing_connectProtected c w hw).1
  rw [hconnect] at hleft
  exact (hprobed i).ensuring World.timeless_sparing (hclose i).sparing w₁
    ⟨hleft, hasCookie_of_connectProtected hw.count hconnect⟩

end TestCase

namespace Catalog

open Run Expect TestCase

/-- A reply that passes an ordinary protected poll was authenticated and brought cookies. -/
theorem of_judgeHappy_eq_ok {reply : NtsReply} (h : Nts.judgeHappy reply = .ok ()) :
    reply.opened.authenticated = true ∧ reply.opened.newCookies ≠ [] := by
  obtain ⟨hauth, hcount⟩ := of_that_bind h
  refine ⟨hauth, fun hnil => ?_⟩
  have hlength := eq_of_equal_int hcount
  rw [hnil] at hlength
  cases hlength

/-- The protected polls are thrifty. -/
theorem thrifty_nts : ∀ case ∈ Nts.all, ∃ name summary body,
    case = .guarded name summary body ∧ ∀ i, Thrifty i (body i) := by
  have hdraw {α : Type} (i : Nat) (draws : Entropy → α × Entropy) :
      Keeps Fault.Sparing (World.Supplied i) (drawing draws) :=
    (Ambient.drawing draws : Ambient True _ _).keeps (World.timeless_supplied i)
  have hreply {α : Type} {pre inv : World → Prop} {x : Run α}
      (hx : Ensures Fault.Sparing pre inv x) : Ensures Fault.Sparing pre inv (Expect.reply x) := by
    refine hx.attempt_bind (fun a => keeps_pure a) fun f hf => ?_
    dsimp only
    split
    · exact keeps_fail (.of_kind rfl)
    · exact keeps_fail hf
  simp only [Nts.all, List.forall_mem_cons]
  refine ⟨⟨_, _, _, rfl, fun i => ⟨?_, ?_⟩⟩, ⟨_, _, _, rfl, fun i => ?_⟩, List.forall_mem_nil _⟩
  · have hexchange (packet : Packet) : Ensures Fault.Sparing (World.Supplied i) World.Sparing
        (exchangeProtected i packet Nts.placeholders none none) := fun w hw =>
      have h := sparing_exchange_own { packet, placeholders := Nts.placeholders } rfl hw
      ⟨h.1, h.2.1⟩
    exact (hdraw i _).seq (fun _ hw => hw.sparing) fun drawn =>
      (hreply (hexchange drawn.1)).bind fun reply =>
        keeps_ofExcept fun f hf => (homemade_happy reply f hf).sparing
  · intro w w' hw h
    obtain ⟨drawn, w₁, hdrawn, h⟩ := exists_of_bind_done h
    obtain ⟨reply, w₂, hreply, h⟩ := exists_of_bind_done h
    obtain ⟨hjudged, rfl⟩ := eq_ok_of_ofExcept h
    obtain ⟨hauth, hnew⟩ := of_judgeHappy_eq_ok hjudged
    have hsupplied := (hdraw i (fun e => Packet.freshPoll e) w hw).1
    rw [hdrawn] at hsupplied
    have hcookie := (sparing_exchange_own { packet := drawn.1, placeholders := Nts.placeholders }
      rfl hsupplied).2.2 reply
    rw [Call.run, eq_done_of_reply hreply] at hcookie
    exact hcookie rfl hauth hnew
  · have hsession : Keeps Fault.Sparing (World.Supplied i) (session i) := by
      refine (keeps_read _).bind fun found => ?_
      cases found with
      | none => exact keeps_fail (.of_kind rfl)
      | some s => exact keeps_pure s
    refine .of_keeps (hsession.bind fun found => (hdraw i _).bind fun drawn =>
      (hdraw i fun e => e.draw _).bind fun cookie => (hreply
        (sparing_exchange_brought { packet := drawn.1, cookie := some cookie } rfl)).attempt_bind
        (fun reply => keeps_ofExcept fun f hf => (homemade_refusal reply f hf).sparing)
        fun f hf => ?_)
    dsimp only
    split
    · exact keeps_pure ()
    · exact keeps_fail hf

/-- **Every case of the catalog is sparing.** -/
theorem sparing_cases : ∀ case ∈ cases, case.Sparing := by
  have hmade (f : Fault) (hf : f.Homemade) : f.Sparing := hf.sparing
  have hconfined {case : TestCase} (hcase : case.ConfinedWith Fault.Sparing True)
      (hplain : case.requirement ≠ .nts) : case.Sparing :=
    fun c => (hcase.built hmade (absurd · hplain) c).sparing
  intro case hcase
  simp only [cases, List.mem_append] at hcase
  rcases hcase with ((hcase | hcase) | hcase) | hcase
  · refine hconfined (confined_basic hmade case hcase) ?_
    simp only [Basic.all, List.mem_cons, List.not_mem_nil, or_false] at hcase
    rcases hcase with rfl | rfl | rfl <;> rintro ⟨⟩
  · refine hconfined (confined_extensions hmade case hcase) ?_
    simp only [Extensions.all, List.mem_cons, List.not_mem_nil, or_false] at hcase
    rcases hcase with rfl | rfl | rfl <;> rintro ⟨⟩
  · obtain ⟨name, summary, body, rfl, hbody⟩ := thrifty_nts case hcase
    exact sparing_guarded name summary hbody
  · refine hconfined (confined_keyExchange hmade case hcase) ?_
    simp only [KeyExchange.all, List.mem_cons, List.not_mem_nil, or_false] at hcase
    rcases hcase with rfl | rfl | rfl | rfl | rfl | rfl <;> rintro ⟨⟩

end Catalog

/-- What is selected of a registry belongs to it. -/
theorem Registry.mem_of_mem_select {registry : Registry} {starts : List String} {case : TestCase}
    (h : case ∈ (registry.select starts).cases) : case ∈ registry.cases :=
  (List.mem_filter.mp h).1

/-- An error that is put down to a fault of a kind. -/
def Outcome.Blames (outcome : Outcome) (kind : FaultKind) : Prop :=
  outcome.kind = .errored ∧ ∃ message, outcome.reason = some (kind.name ++ ": " ++ message)

/-- The name of a kind is what a reason has in front of its first colon. -/
theorem FaultKind.takeWhile_name (kind : FaultKind) (message : String) :
    (kind.name ++ ": " ++ message).toList.takeWhile (· != ':') = kind.name.toList := by
  have hname : kind.name.toList.all (· != ':') = true := by
    cases kind <;> rfl
  rw [String.toList_append, String.toList_append, List.append_assoc,
    List.takeWhile_append_of_pos (List.all_eq_true.mp hname)]
  exact List.append_nil _

/-- A kind is known by its name in front of a message. -/
theorem FaultKind.eq_of_name_append {kind : FaultKind} {message other : String}
    (h : kind.name ++ ": " ++ message = cookiePoolExhausted.name ++ ": " ++ other) :
    kind = .cookiePoolExhausted := by
  have hname := congrArg (fun s => s.toList.takeWhile (· != ':')) h
  simp only [takeWhile_name, String.toList_inj] at hname
  revert hname
  cases kind <;> decide

/-- A case that was not done in time is put down to no fault. -/
theorem Outcome.not_blames_unfinished (limit : Binary64) :
    ¬ (unfinished limit).Blames .cookiePoolExhausted := by
  rintro ⟨-, message, hreason⟩
  have hfirst := congrArg (fun reason => reason.map fun s => s.toList.head?) hreason
  simp only [unfinished, errored, Option.map_some, String.toList_append] at hfirst
  cases hfirst

/-- An outcome is put down to an exhausted pool only if its fault says so. -/
theorem Fault.Sparing.not_blames {f : Fault} (hf : f.Sparing) {limit : Binary64}
    {outcome : Outcome} (h : Outcome.ofFault limit f = .ok outcome) :
    ¬ outcome.Blames .cookiePoolExhausted := by
  rcases Outcome.cases_of_ofFault h with hkind | hkind | rfl | rfl
  · simp [Outcome.Blames, hkind]
  · simp [Outcome.Blames, hkind]
  · exact Outcome.not_blames_unfinished limit
  · rintro ⟨-, message, hreason⟩
    exact hf (FaultKind.eq_of_name_append (Option.some.inj hreason))

namespace Run

/-- A sparing case leaves a sparing world, and its outcome is put down to no exhausted pool. -/
theorem sparing_runCase (c : RunConfig) (limit : Binary64) {case : TestCase} (hcase : case.Sparing)
    {w : World} (hw : w.Sparing) :
    (runCase c limit case w).2.Sparing ∧ ∀ outcome, (runCase c limit case w).1 = .done outcome →
      ¬ outcome.Blames .cookiePoolExhausted := by
  obtain ⟨hleft, hending⟩ :=
    (hcase c).within World.timeless_sparing World.timeless_sparing (fun _ => id) limit w hw
  rw [runCase_snd]
  refine ⟨hleft, fun outcome houtcome => ?_⟩
  rcases hrun : within limit (case.run c) w with ⟨ending, w₁⟩
  rw [hrun] at hending
  cases ending with
  | done finished =>
    rw [runCase, bind_done (attempt_done hrun)] at houtcome
    cases finished with
    | none =>
      cases houtcome
      exact Outcome.not_blames_unfinished limit
    | some _ =>
      cases houtcome
      rintro ⟨hkind, -⟩
      cases hkind
  | failed f =>
    rw [runCase, bind_done (attempt_failed hrun)] at houtcome
    cases hjudged : Outcome.ofFault limit f with
    | error e =>
      simp only [hjudged] at houtcome
      cases houtcome
    | ok judged =>
      simp only [hjudged] at houtcome
      cases houtcome
      exact Fault.Sparing.not_blames hending hjudged
  | cutOff =>
    rw [runCase, bind_cutOff (attempt_cutOff hrun)] at houtcome
    cases houtcome

variable {c : RunConfig} {limit : Binary64} {onResult : Entry → Run Unit}

/-- Every case of a run over sparing cases starts in a sparing world. -/
theorem CaseStarts.sparing {w v : World} {cases : List TestCase} {case : TestCase}
    (hstarts : CaseStarts c limit onResult w cases case v)
    (hcases : ∀ case ∈ cases, case.Sparing) (hshow : OnlyPrints onResult) (hw : w.Sparing) :
    v.Sparing := by
  induction hstarts with
  | first w case cases => exact hw
  | @later w w₁ w₂ v case next cases outcome ran shown rest ih =>
    have hran := (sparing_runCase c limit (hcases case List.mem_cons_self) hw).1
    obtain ⟨ending, lines, hprints⟩ := hshow ⟨case.name, outcome⟩
    rw [hprints] at shown
    rw [ran] at hran
    cases shown
    exact ih (fun k hk => hcases k (List.mem_cons_of_mem _ hk)) (hran.printing lines)

/-- No entry that a run over sparing cases adds to a report is put down to an exhausted pool. -/
theorem sparing_runCases {cases : List TestCase} (hcases : ∀ case ∈ cases, case.Sparing)
    (hshow : OnlyPrints onResult) {w w' : World} (hw : w.Sparing) {earlier report : Report}
    (hrun : runCases c limit onResult cases earlier w = (.done report, w')) :
    ∀ entry ∈ report.entries, entry ∈ earlier.entries ∨
      ¬ entry.outcome.Blames .cookiePoolExhausted := by
  induction cases generalizing w earlier with
  | nil =>
    cases hrun
    exact fun entry hentry => .inl hentry
  | cons case cases ih =>
    obtain ⟨outcome, w₁, hcase, hrun⟩ := exists_of_bind_done hrun
    obtain ⟨extended, w₂, hadd, hrun⟩ := exists_of_bind_done hrun
    obtain ⟨_, w₃, hshown, hrun⟩ := exists_of_bind_done hrun
    obtain ⟨hadd, rfl⟩ := eq_ok_of_ofExcept hadd
    obtain ⟨hleft, hblames⟩ :=
      sparing_runCase c limit (hcases case List.mem_cons_self) hw
    rw [hcase] at hleft hblames
    obtain ⟨ending, lines, hprints⟩ := hshow ⟨case.name, outcome⟩
    rw [hprints] at hshown
    cases hshown
    rw [Report.add] at hadd
    split at hadd
    next => cases hadd
    next =>
      cases hadd
      intro entry hentry
      rcases ih (fun k hk => hcases k (List.mem_cons_of_mem _ hk)) (hleft.printing lines) hrun
        entry hentry with hmem | hother
      · rcases List.mem_append.mp hmem with hearlier | hlast
        · exact .inl hearlier
        · rw [List.mem_singleton.mp hlast]
          exact .inr (hblames outcome rfl)
      · exact .inr hother

/-- Preparing a target leaves a sparing world, however it ends. -/
theorem sparing_prepareTarget (c : RunConfig) {w : World} (hw : w.Sparing) :
    (prepareTarget c w).2.Sparing :=
  have hkeeps : Keeps (fun _ => True) World.Sparing (prepareTarget c) :=
    BuiltWith.keeps World.timeless_sparing (built_prepareTarget c : Built (Elementary True) _)
      fun _ _ h => (BuiltWith.step h).sparing.imp (fun _ => id) (fun _ => id) fun _ _ => trivial
  (hkeeps w hw).1

/-- **The catalog never runs out of cookies.** Let a session take one cookie or more, and let no
script name an exhausted pool, which neither a key establishment server nor a time server can; apart
from this they may do anything. Preparing a target leaves such a world. In a run over cases of the
catalog every case starts in such a world and does not end because a pool is exhausted, and no entry
of the report is put down to that. Every session of a protected case starts with a cookie, and
wherever its body ends well the session has one for the poll behind it. -/
theorem runRegistry_never_exhausts (c : RunConfig) (choice : Option Binary64)
    {registry : Registry} {onResult : Entry → Run Unit} {w : World}
    (hcases : ∀ case ∈ registry.cases, case ∈ Catalog.cases) (hshow : OnlyPrints onResult)
    (hw : w.Sparing) :
    (prepareTarget c w).2.Sparing ∧
    (∀ case v, CaseStarts c (caseTimeout c choice) onResult w registry.cases case v →
      v.Sparing ∧ ∀ f v', within (caseTimeout c choice) (case.run c) v = (.failed f, v') →
        f.kind ≠ .cookiePoolExhausted) ∧
    (∀ report w', runRegistry c choice registry onResult w = (.done report, w') →
      ∀ entry ∈ report.entries, ¬ entry.outcome.Blames .cookiePoolExhausted) ∧
    ∀ case ∈ Catalog.Nts.all, ∃ name summary body, case = .guarded name summary body ∧
      ∀ v i v₁, v.Sparing → connectProtected c v = (.done i, v₁) → v₁.HasCookie i ∧
        ∀ v₂, body i v₁ = (.done (), v₂) → v₂.HasCookie i := by
  have hsparing : ∀ case ∈ registry.cases, case.Sparing := fun case hcase =>
    Catalog.sparing_cases case (hcases case hcase)
  refine ⟨sparing_prepareTarget c hw, fun case v hstarts => ?_,
    fun report w' hrun entry hentry => ?_, fun case hcase => ?_⟩
  · have hv := hstarts.sparing hsparing hshow hw
    refine ⟨hv, fun f v' hended => ?_⟩
    have hending := ((hsparing case hstarts.mem c).within World.timeless_sparing
      World.timeless_sparing (fun _ => id) (caseTimeout c choice) v hv).2
    rw [hended] at hending
    exact hending
  · exact (sparing_runCases hsparing hshow hw hrun entry hentry).resolve_left List.not_mem_nil
  · obtain ⟨name, summary, body, rfl, hbody⟩ := Catalog.thrifty_nts case hcase
    refine ⟨name, summary, body, rfl, fun v i v₁ hv hconnect => ?_⟩
    have hcookie := TestCase.hasCookie_of_connectProtected hv.count hconnect
    have hleft := (TestCase.sparing_connectProtected c v hv).1
    rw [hconnect] at hleft
    exact ⟨hcookie, fun v₂ => (hbody i).cookie v₁ v₂ ⟨hleft, hcookie⟩⟩

/-- Servers that supply a single cookie, for sessions of one cookie: the first protected case has
it, and no entry of the run is put down to an exhausted pool. -/
theorem runRegistry_never_exhausts_single :
    let c : RunConfig := { (default : RunConfig) with target := "192.0.2.1", ntsEnabled := true }
    let answer : Bytes := [128, 1, 0, 2, 0, 0, 128, 4, 0, 2, 0, 15, 0, 5, 0, 1, 9, 128, 0, 0, 0]
    let w : World :=
      { settings := { ntsSessionCookies := 1 }
        keScripts := [{ chunks := [.octets answer] }, { chunks := [.octets answer] }]
        exporter := fun _ x => List.replicate x.length 7 }
    let registry := Catalog.all.select ["nts."]
    let onResult : Entry → Run Unit := fun entry => printAll [entry.name]
    let v := (prepareTarget c w).2
    registry.names = ["nts.happy", "nts.test_invalid_cookie_is_rejected"] ∧ w.Sparing ∧ v.Sparing ∧
    (∃ v₁, connectProtected c v = (.done 0, v₁) ∧ v₁.HasCookie 0) ∧
    ∀ report w', runRegistry c none registry onResult v = (.done report, w') →
      ∀ entry ∈ report.entries, ¬ entry.outcome.Blames .cookiePoolExhausted := by
  intro c answer w registry onResult v
  obtain ⟨hnames, hconnected⟩ : registry.names =
      ["nts.happy", "nts.test_invalid_cookie_is_rejected"] ∧
      (connectProtected c v).1.results = [0] := by
    decide +kernel +revert
  have hcases : ∀ case ∈ registry.cases, case ∈ Catalog.cases :=
    fun case => Registry.mem_of_mem_select
  have hshow : OnlyPrints onResult := fun entry => ⟨_, [entry.name], printAll_eq [entry.name]⟩
  have hw : w.Sparing := by
    refine ⟨Int.le_refl 1, List.forall_mem_nil _, List.forall_mem_nil _, List.forall_mem_nil _,
      fun s hs => ?_, List.forall_mem_nil _⟩
    have hchunks : s.openFault = none ∧ s.chunks = [.octets answer] ∧ s.sendFault = none := by
      simp only [w, List.mem_cons, List.not_mem_nil, or_false, or_self] at hs
      rw [hs]
      exact ⟨rfl, rfl, rfl⟩
    obtain ⟨hopen, hanswer, hsend⟩ := hchunks
    exact ⟨by simp [hopen], by simp [hanswer, Chunk.RaisesOnly], by simp [hsend]⟩
  have hv : v.Sparing := (runRegistry_never_exhausts c none hcases hshow hw).1
  have hrun := (runRegistry_never_exhausts c none hcases hshow hv).2.2
  refine ⟨hnames, hw, hv, ?_, hrun.1⟩
  rcases hconnect : connectProtected c v with ⟨ending, v₁⟩
  rw [hconnect] at hconnected
  cases ending with
  | done i =>
    cases hconnected
    obtain ⟨name, summary, body, -, hbody⟩ := hrun.2 Catalog.Nts.happy List.mem_cons_self
    exact ⟨v₁, rfl, (hbody v 0 v₁ hv hconnect).1⟩
  | failed f => cases hconnected
  | cutOff => cases hconnected

end Run

end TimeProbe

import TimeProbe.Case.Basic
import TimeProbe.Proofs.HomemadeFaults
import TimeProbe.Proofs.KeptProperties

/-!
# What steps are built of

Everything that a case does is built of a few kinds of steps: steps on an endpoint and on a stream,
steps that open and close them, bookkeeping about sessions and the jar, and steps that no
connection has a part in. They are put into rows, their faults are caught, they get a clean-up or a
timeout. How the operations of the prober are built is told here once; what holds of everything
that is built of some kinds of steps then only has to be shown for these kinds.
-/

namespace TimeProbe.Run

/-- A kind of steps. -/
abbrev StepKind : Type 1 := (α : Type) → Run α → Prop

/-- Steps that no connection has a part in: random octets are drawn, time passes, and the clock and
the settings are looked at. A wait without end is one of them where `endless` says so. -/
inductive Ambient (endless : Prop) : StepKind
  | drawing {α : Type} (draws : Entropy → α × Entropy) : Ambient endless α (drawing draws)
  | pause (ticks : Nat) : Ambient endless Unit (pause ticks)
  | awaiting (ticks : Nat) : Ambient endless Unit (awaiting ticks)
  | drain : Ambient endless Unit awaitDrained
  | opening : Ambient endless Opening nextOpening
  | waitForever {α : Type} (h : endless) : Ambient endless α waitForever
  | look {α : Type} (f : Moment → Settings → α) :
      Ambient endless α (read fun w => f w.now w.settings)

variable {endless : Prop}

/-- Drawing octets is ambient. -/
theorem Ambient.draw (n : Nat) : Ambient endless Bytes (draw n) := .drawing fun e => e.draw n

/-- Steps on an endpoint. -/
inductive OnEndpoint (i : Nat) : StepKind
  | send (data : Bytes) : OnEndpoint i Unit (sendDatagram i data)
  | receive (timeout : Option Binary64) :
      OnEndpoint i (Address × Arrival) (receiveArrival i timeout)
  | anything (timeout : Option Binary64) : OnEndpoint i Value (receiveAnything i timeout)
  | exchange {α : Type} (data : Bytes) (accept : Bytes → Except ReplyError (Option α))
      (timeout : Option Binary64) : OnEndpoint i α (exchangeRaw i data accept timeout)
  | look {α : Type} (f : Address → α) : OnEndpoint i α (read fun w => f (w.endpoint i).address)

/-- Steps on a protected connection: steps under protection, and plain ones on the endpoint below
it. -/
inductive OnSession (i : Nat) : StepKind
  | look : OnSession i (Nat × NtsSession) (session i)
  | protect (packet : Packet) (placeholders : Nat) (cookie : Option Bytes) :
      OnSession i Protected (protectPacket i packet placeholders cookie)
  | exchange (packet : Packet) (placeholders : Nat) (cookie : Option Bytes)
      (timeout : Option Binary64) :
      OnSession i NtsReply (exchangeProtected i packet placeholders cookie timeout)
  | below {α : Type} (x : Nat → Run α) (hx : ∀ endpoint, OnEndpoint endpoint α (x endpoint)) :
      OnSession i α (session i >>= fun found => x found.1)

/-- Steps on a key establishment stream. -/
inductive OnStream (i : Nat) : StepKind
  | send (data : Bytes) : OnStream i Unit (sendOctets i data)
  | receive : OnStream i (Option Record) (receiveRecord i)
  | exportKey (use : Export) : OnStream i Bytes (exportKey i use)
  | derive (aead : Aead.Algorithm) (direction : Nat) :
      OnStream i Aead.Cipher (deriveKey i aead direction)
  | look {α : Type} (f : Address → Int → Settings → α) :
      OnStream i α (read fun w => f (w.stream i).address (w.stream i).maxRecords w.settings)

/-- Steps that answers are read with: a record is received, and the stream is looked at. -/
inductive Receiving (i : Nat) : StepKind
  | receive : Receiving i (Option Record) (receiveRecord i)
  | look {α : Type} (f : Address → Int → Settings → α) :
      Receiving i α (read fun w => f (w.stream i).address (w.stream i).maxRecords w.settings)

/-- Answers are read on a stream. -/
theorem Receiving.onStream {α : Type} {i : Nat} {x : Run α} (h : Receiving i α x) :
    OnStream i α x := by
  cases h with
  | receive => exact .receive
  | look f => exact .look f

/-- Steps of a kind, and ambient ones. -/
def OrAmbient (endless : Prop) (kind : StepKind) : StepKind :=
  fun α x => kind α x ∨ Ambient endless α x

/-- What is built of steps of a kind, and raises no other than allowed faults beside the faults of
these steps. -/
inductive BuiltWith (allowed : Fault → Prop) (kind : StepKind) : {α : Type} → Run α → Prop
  | step {α : Type} {x : Run α} (h : kind α x) : BuiltWith allowed kind x
  | pure {α : Type} (a : α) : BuiltWith allowed kind (pure a : Run α)
  | fail {α : Type} {f : Fault} (hf : allowed f) : BuiltWith allowed kind (fail f : Run α)
  | bind {α β : Type} {x : Run α} {next : α → Run β} (hx : BuiltWith allowed kind x)
      (hnext : ∀ a, BuiltWith allowed kind (next a)) : BuiltWith allowed kind (x >>= next)
  | attempt {α β : Type} {x : Run α} {next : Except Fault α → Run β}
      (hx : BuiltWith allowed kind x) (hdone : ∀ a, BuiltWith allowed kind (next (.ok a)))
      (hfailed : ∀ f, allowed f → BuiltWith allowed kind (next (.error f))) :
      BuiltWith allowed kind (attempt x >>= next)
  | ensuring {α : Type} {x : Run α} {cleanup : Run Unit} (hx : BuiltWith allowed kind x)
      (hcleanup : BuiltWith allowed kind cleanup) : BuiltWith allowed kind (ensuring x cleanup)
  | within {α : Type} {x : Run α} (timeout : Binary64) (hx : BuiltWith allowed kind x) :
      BuiltWith allowed kind (within timeout x)

/-- What is built of steps of a kind, whatever else it raises. -/
abbrev Built (kind : StepKind) {α : Type} (x : Run α) : Prop := BuiltWith (fun _ => True) kind x

variable {α β : Type} {allowed : Fault → Prop} {kind wider : StepKind} {x : Run α}

/-- A computation is built of nothing. -/
theorem BuiltWith.ofExcept {r : Except Fault α} (hr : ∀ f, r = .error f → allowed f) :
    BuiltWith allowed kind (ofExcept r) := by
  cases r with
  | ok a => exact .pure a
  | error f => exact .fail (hr f rfl)

/-- A computation with errors of its own, for which there are faults, is built of nothing. -/
theorem BuiltWith.mapError {ε : Type} {r : Except ε α} {toFault : ε → Fault}
    (hfault : ∀ e, allowed (toFault e)) :
    BuiltWith allowed kind (Run.ofExcept (r.mapError toFault)) := by
  cases r with
  | ok a => exact .pure a
  | error e => exact .fail (hfault e)

/-- What is built of steps of a kind is built of whatever these are built of. -/
theorem BuiltWith.trans (hx : BuiltWith allowed kind x)
    (hkind : ∀ α x, kind α x → BuiltWith allowed wider x) : BuiltWith allowed wider x := by
  induction hx with
  | step h => exact hkind _ _ h
  | pure a => exact .pure a
  | fail hf => exact .fail hf
  | bind _ _ ihx ihnext => exact .bind ihx ihnext
  | attempt _ _ _ ihx ihdone ihfailed => exact .attempt ihx ihdone ihfailed
  | ensuring _ _ ihx ihcleanup => exact .ensuring ihx ihcleanup
  | within timeout _ ih => exact .within timeout ih

/-- Ambient steps may come in between. -/
theorem BuiltWith.orAmbient (hx : BuiltWith allowed kind x) :
    BuiltWith allowed (OrAmbient endless kind) x := hx.trans fun _ _ h => .step (.inl h)

/-- A step on the connection. -/
theorem BuiltWith.own (h : kind α x) : BuiltWith allowed (OrAmbient endless kind) x :=
  .step (.inl h)

/-- An ambient step. -/
theorem BuiltWith.ambient (h : Ambient endless α x) :
    BuiltWith allowed (OrAmbient endless kind) x :=
  .step (.inr h)

/-- What is built of steps that keep a timeless property keeps it. -/
theorem BuiltWith.keeps {inv : World → Prop} (hinv : World.Timeless inv)
    (hx : BuiltWith allowed kind x) (hkind : ∀ α x, kind α x → Keeps allowed inv x) :
    Keeps allowed inv x := by
  induction hx with
  | step h => exact hkind _ _ h
  | pure a => exact keeps_pure a
  | fail hf => exact keeps_fail hf
  | bind _ _ ihx ihnext => exact ihx.bind ihnext
  | attempt _ _ _ ihx ihdone ihfailed => exact ihx.attempt_bind ihdone ihfailed
  | ensuring _ _ ihx ihcleanup => exact ihx.ensuring hinv ihcleanup
  | within timeout _ ih => exact ih.within hinv hinv (fun _ => id) timeout

/-- What is built of steps that leave a part of the world leaves it. -/
theorem BuiltWith.leaves {γ : Type} {part : World → γ} (hpart : Untimed part) (hx : Built kind x)
    (hkind : ∀ α x, kind α x → Leaves part x) : Leaves part x :=
  leaves_iff_keeps.mpr fun value => hx.keeps (hpart value) fun α x h =>
    leaves_iff_keeps.mp (hkind α x h) value

/-- Ambient steps keep what is timeless, and raise nothing. -/
theorem Ambient.keeps {inv : World → Prop} (hinv : World.Timeless inv) (h : Ambient endless α x) :
    Keeps allowed inv x := by
  cases h with
  | drawing draws => exact fun w hw => ⟨hinv w _ _ _ _ _ _ hw, trivial⟩
  | pause ticks => exact keeps_pause hinv ticks
  | awaiting ticks => exact keeps_awaiting hinv ticks
  | drain => exact keeps_awaitDrained hinv
  | opening => exact fun w hw => ⟨hinv w _ _ _ _ _ _ hw, trivial⟩
  | waitForever _ => exact fun w hw => ⟨hinv.withNow _ hw, trivial⟩
  | look f => exact keeps_read _

/-- Ambient steps leave what has nothing to do with time. -/
theorem Ambient.leaves {γ : Type} {part : World → γ} (hpart : Untimed part)
    (h : Ambient endless α x) : Leaves part x :=
  leaves_iff_keeps.mpr fun value => h.keeps (hpart value)

/-! ## Answers and key establishments -/

/-- One record of an answer: it ends the answer, breaks it off, or more records follow. -/
def collectStep (i : Nat) (rs : List Record) (more : Record → Run (List Record)) :
    Run (List Record) := do
  match ← receiveRecord i with
  | none => fail (endedEarly rs)
  | some r =>
    if r.isEndOfMessage then if rs.isEmpty then fail onlyEnd else return rs
    else if !r.isKnown && r.critical then fail (Fault.unknownCritical r.recordType)
    else more r

/-- Without room another record is one too many. -/
theorem collectFrom_zero (i : Nat) (limit : Int) (rs : List Record) :
    collectFrom i limit 0 rs = collectStep i rs fun _ => fail (tooManyRecords limit) := by
  delta collectFrom
  rfl

/-- With room another record is kept, and the answer goes on. -/
theorem collectFrom_succ (i : Nat) (limit : Int) (room : Nat) (rs : List Record) :
    collectFrom i limit (room + 1) rs =
      collectStep i rs fun r => collectFrom i limit room (rs ++ [r]) := by
  delta collectFrom
  rfl

section Own

variable (hown : ∀ f : Fault, f.Own → allowed f)
include hown

/-- One record of an answer is built of receiving steps if what follows it is. -/
theorem built_collectStep (i : Nat) (rs : List Record) {more : Record → Run (List Record)}
    (hmore : ∀ r, BuiltWith allowed (Receiving i) (more r)) :
    BuiltWith allowed (Receiving i) (collectStep i rs more) := by
  refine .bind (.step .receive) fun received => ?_
  cases received with
  | none => exact .fail (hown _ (own_endedEarly rs))
  | some r =>
    dsimp only
    split
    · split
      · exact .fail (hown _ (.of_kind rfl rfl))
      · exact .pure _
    split
    · exact .fail (hown _ (.of_kind rfl rfl))
    · exact hmore r

/-- Reading an answer is built of receiving steps. -/
theorem built_collect (i : Nat) : BuiltWith allowed (Receiving i) (collect i) := by
  have hfrom (limit : Int) (room : Nat) (rs : List Record) :
      BuiltWith allowed (Receiving i) (collectFrom i limit room rs) := by
    induction room generalizing rs with
    | zero =>
      rw [collectFrom_zero]
      exact built_collectStep hown i rs fun _ => .fail (hown _ (.of_kind rfl rfl))
    | succ room ih =>
      rw [collectFrom_succ]
      exact built_collectStep hown i rs fun _ => ih _
  have hread : BuiltWith allowed (Receiving i) (read (fun w => (w.stream i).maxRecords) >>=
      fun limit => collectFrom i limit limit.toNat []) :=
    .bind (.step (.look fun _ limit _ => limit)) fun limit => hfrom limit _ []
  exact hread

/-- Sending records and reading the answer is built of steps on the stream. -/
theorem built_exchangeRecords (i : Nat) (rs : List Record) :
    BuiltWith allowed (OnStream i) (exchangeRecords i rs) :=
  .bind (.step (.send _)) fun _ =>
    .bind ((built_collect hown i).trans fun _ _ h => .step h.onStream) fun _ =>
    .mapError fun e => hown _ (Fault.own_ofKeResponseError e)

/-- What follows a request is built of steps on the stream. -/
theorem built_establish_of_request {i : Nat} {q : KeRequest}
    (hrequest : BuiltWith allowed (OnStream i) (exchangeRequest i q)) :
    BuiltWith allowed (OnStream i) (establish i q) :=
  .bind hrequest fun _ => .bind (.ofExcept fun _ hf => hown _ (own_of_negotiate hf)) fun aead =>
    .bind (.bind (.step (.derive aead 0)) fun _ => .bind (.step (.derive aead 1)) fun _ => .pure _)
      fun _ => .bind (.step (.look fun address _ _ => address.host)) fun _ =>
    .bind (.step (.look fun _ _ settings => settings.defaultPort)) fun _ => .pure _

/-- A key establishment with the default proposals raises faults of the prober's own only, beside
those of its stream. -/
theorem built_establish_default (i : Nat) : BuiltWith allowed (OnStream i) (establish i {}) := by
  obtain ⟨rs, hrs⟩ : ∃ rs, ({} : KeRequest).records = .ok rs := ⟨_, rfl⟩
  refine built_establish_of_request hown ?_
  rw [exchangeRequest, hrs]
  exact .bind (.pure rs) fun rs => built_exchangeRecords hown i rs

end Own

/-! ## Steps of a run -/

/-- Bookkeeping: sessions and the jar are looked at, and what name resolution gives, and pools are
replaced. -/
inductive Bookkeeping : StepKind
  | look {α : Type}
      (f : List (Nat × NtsSession) → Option SessionSource → Except Fault (List String) → α) :
      Bookkeeping α (read fun w => f w.sessions w.source w.resolver)
  | pool (i : Nat) (pool : CookiePool) : Bookkeeping Unit (update (·.setPool i pool))

/-- Steps that what happens on a protected connection is built of. -/
inductive BelowSession (endless : Prop) : StepKind
  | ambient {α : Type} {x : Run α} (h : Ambient endless α x) : BelowSession endless α x
  | bookkeeping {α : Type} {x : Run α} (h : Bookkeeping α x) : BelowSession endless α x
  | onEndpoint {α : Type} {x : Run α} (i : Nat) (h : OnEndpoint i α x) : BelowSession endless α x

/-- Steps that sessions are handed out with: the jar is looked at and put back, and key
establishments take place. -/
inductive OnTarget : StepKind
  | look {α : Type} (f : Option SessionSource → Settings → α) :
      OnTarget α (read fun w => f w.source w.settings)
  | jar (s : SessionSource) : OnTarget Unit (setSource s)
  | openStream (address : Address) (caFile : Option String) (maxRecords : Option Int) :
      OnTarget Nat (openStream address caFile maxRecords)
  | onStream {α : Type} {x : Run α} (i : Nat) (h : OnStream i α x) : OnTarget α x
  | closeStream (i : Nat) : OnTarget Unit (closeStream i)

/-- Steps that everything is built of which happens between opening and closing a connection, these
two included. -/
inductive Elementary (endless : Prop) : StepKind
  | below {α : Type} {x : Run α} (h : BelowSession endless α x) : Elementary endless α x
  | onTarget {α : Type} {x : Run α} (h : OnTarget α x) : Elementary endless α x
  | openEndpoint (address : Address) (timeout : Binary64) :
      Elementary endless Nat (openEndpoint address timeout)
  | closeEndpoint (i : Nat) : Elementary endless Unit (closeEndpoint i)
  | enter (endpoint : Nat) (s : NtsSession) :
      Elementary endless Unit (update fun w => { w with sessions := w.sessions ++ [(endpoint, s)] })
  | lookUp (address : Address) :
      Elementary endless Unit (update fun w => { w with lookups := w.lookups ++ [address] })

/-- A key establishment opens a stream, works on it, and closes it. It raises faults of the prober's
own only, beside those of its stream. -/
theorem built_establishTarget (hown : ∀ f : Fault, f.Own → allowed f) (c : RunConfig) :
    BuiltWith allowed OnTarget (establishTarget c) :=
  .bind (.step (.openStream _ _ _)) fun i => .ensuring
    ((built_establish_default hown i).trans fun _ _ h => .step (.onStream i h))
    (.step (.closeStream i))

/-- What is done on the target is elementary. -/
theorem BuiltWith.elementary (hx : BuiltWith allowed OnTarget x) :
    BuiltWith allowed (Elementary endless) x := hx.trans fun _ _ h => .step (.onTarget h)

section Homemade

variable (hmade : ∀ f : Fault, f.Homemade → allowed f)
include hmade

/-- Sending a request and reading the answer is built of steps on the stream. -/
theorem built_exchangeRequest (i : Nat) (q : KeRequest) :
    BuiltWith allowed (OnStream i) (exchangeRequest i q) :=
  .bind (.mapError fun e => hmade _ (Fault.homemade_ofRecordBuildError e)) fun rs =>
    built_exchangeRecords (fun f hf => hmade f hf.toHomemade) i rs

/-- Taking the reply under test is built of what the exchange is. -/
theorem BuiltWith.reply (hx : BuiltWith allowed kind x) :
    BuiltWith allowed kind (Expect.reply x) := by
  refine .attempt hx (fun a => .pure a) fun f hf => ?_
  dsimp only
  split
  · exact .fail (hmade _ (Fault.homemade_failure _ _))
  · exact .fail hf

/-- Expecting nothing is built of what the receive is. -/
theorem BuiltWith.silence {x : Run Value} (hx : BuiltWith allowed kind x) (reason : String) :
    BuiltWith allowed kind (Expect.silence x reason) := by
  refine .attempt hx (fun v => .fail (hmade _ (Fault.homemade_failure _ _))) fun f hf => ?_
  dsimp only
  split
  · exact .pure ()
  · exact .fail hf

/-- The poll behind a plain test keeps to the endpoint. -/
theorem built_probe (i : Nat) : BuiltWith allowed (OrAmbient endless (OnEndpoint i)) (probe i) := by
  refine .bind (.ambient (.drawing _)) fun request => .attempt (.own (.exchange _ _ _))
    (fun reply => ?_) fun f hf => ?_
  · dsimp only
    split
    · exact .pure ()
    · exact .fail (hmade _ (Fault.homemade_failure _ _))
  · rcases probeFault_cases (·.isA .decode) f with hfault | hfault
    · exact .fail (hmade _ hfault)
    · exact .fail (by rwa [hfault])

/-- The poll behind a protected test keeps to the protected connection. -/
theorem built_probeProtected (i : Nat) :
    BuiltWith allowed (OrAmbient endless (OnSession i)) (probeProtected i) := by
  refine .bind (.ambient (.drawing _)) fun request => .attempt (.own (.exchange _ _ _ _))
    (fun reply => ?_) fun f hf => ?_
  · dsimp only
    split
    · exact .pure ()
    · exact .fail (hmade _ (Fault.homemade_failure _ _))
  · rcases probeFault_cases (·.isInvalidReply) f with hfault | hfault
    · exact .fail (hmade _ hfault)
    · exact .fail (by rwa [hfault])

/-- Looking for a session is bookkeeping. -/
theorem built_session (i : Nat) : BuiltWith allowed (BelowSession endless) (session i) := by
  refine .bind (.step (.bookkeeping (.look fun sessions _ _ => sessions[i]?))) fun found => ?_
  cases found with
  | some s => exact .pure s
  | none => exact .fail (hmade _ (.of_kind rfl rfl))

/-- A step on a protected connection is built of steps on its endpoint and of bookkeeping. It may
exhaust the pool of its session. -/
theorem OnSession.built {i : Nat} (hpool : allowed CookiePool.exhausted) (h : OnSession i α x) :
    BuiltWith allowed (BelowSession endless) x := by
  have hprotect (packet : Packet) (placeholders : Nat) (cookie : Option Bytes) :
      BuiltWith allowed (BelowSession endless) (protectPacket i packet placeholders cookie) := by
    refine .bind (built_session hmade i) fun found => .bind (.ofExcept fun f hf => ?_) fun chosen =>
      .bind (.step (.bookkeeping (.pool i chosen.2))) fun _ =>
      .bind (.step (.ambient (.drawing _))) fun made => ?_
    · cases cookie with
      | some cookie => cases hf
      | none =>
        rw [NtsSession.chooseCookie, CookiePool.take] at hf
        split at hf
        · cases hf
          exact hpool
        · cases hf
    · cases made with
      | ok made => exact .pure _
      | error e => exact .fail (hmade _ (.of_kind rfl rfl))
  cases h with
  | look => exact built_session hmade i
  | protect packet placeholders cookie => exact hprotect packet placeholders cookie
  | exchange packet placeholders cookie timeout =>
    refine .bind (hprotect packet placeholders cookie) fun request =>
      .bind (built_session hmade i) fun found =>
      .bind (.step (.onEndpoint found.1 (.exchange _ _ _))) fun reply => ?_
    dsimp only
    split
    · exact .bind (.step (.bookkeeping (.pool i _))) fun _ => .pure _
    · exact .pure _
  | below x hx =>
    exact .bind (built_session hmade i) fun found => .step (.onEndpoint found.1 (hx found.1))

/-- What is built on a protected connection is built of steps on its endpoint and of
bookkeeping. -/
theorem BuiltWith.belowSession {i : Nat} (hpool : allowed CookiePool.exhausted)
    (hx : BuiltWith allowed (OrAmbient endless (OnSession i)) x) :
    BuiltWith allowed (BelowSession endless) x :=
  hx.trans fun _ _ h => h.elim (OnSession.built hmade hpool) fun h => .step (.ambient h)

/-- Looking for the jar is done on the target. -/
theorem built_source : BuiltWith allowed OnTarget source := by
  refine .bind (.step (.look fun source _ => source)) fun found => ?_
  cases found with
  | some s => exact .pure s
  | none => exact .fail (hmade _ (.of_kind rfl rfl))

/-- The first key establishment is done on the target. -/
theorem built_bootstrap : BuiltWith allowed OnTarget bootstrap := by
  refine .bind (built_source hmade) fun s =>
    .attempt (built_establishTarget (fun f hf => hmade f hf.toHomemade) s.config)
      (fun m => .step (.jar _)) fun f hf => ?_
  dsimp only
  split
  · exact .step (.jar _)
  · exact .fail hf

/-- Taking a session from a jar that was filled is done on the target. -/
theorem built_takeInstalled (keys : KeyPair) :
    BuiltWith allowed OnTarget (takeInstalled keys) := by
  have hrefill : BuiltWith allowed OnTarget refill :=
    .bind (built_source hmade) fun s =>
      .bind (built_establishTarget (fun f hf => hmade f hf.toHomemade) s.config) fun m =>
        .bind (.ofExcept fun f hf => hmade f (SessionSource.own_of_refilled hf).toHomemade)
          fun s => .step (.jar s)
  refine .bind (.step (.look fun _ settings => settings.ntsSessionCookies)) fun count =>
    .bind (built_source hmade) fun s => ?_
  dsimp only
  split
  -- Both ways end with a session handed out, one of them behind a refill.
  refine .bind hrefill fun _ => ?_
  all_goals
    refine .bind (built_source hmade) fun s => ?_
    split
    · exact .fail (hmade _ (.of_kind rfl rfl))
    · exact .bind (.step (.jar _)) fun _ => .pure _

/-- Taking a session is done on the target. -/
theorem built_takeSession : BuiltWith allowed OnTarget takeSession := by
  refine .bind (built_source hmade) fun s => ?_
  split
  · exact .fail (hmade _ (.of_kind rfl rfl))
  · exact built_takeInstalled hmade _
  · refine .bind (built_bootstrap hmade) fun _ => .bind (built_source hmade) fun s => ?_
    split
    · exact .fail (hmade _ (.of_kind rfl rfl))
    · exact built_takeInstalled hmade _
    · exact .fail (hmade _ (.of_kind rfl rfl))

/-- A protected connection is built of elementary steps. -/
theorem built_connectProtected (c : RunConfig) :
    BuiltWith allowed (Elementary endless) (connectProtected c) := by
  have hconnect : BuiltWith allowed (Elementary endless) (do
      let out ← takeSession
      let endpoint ← openEndpoint out.address c.timeout
      let place ← read (·.sessions.length)
      update fun w => { w with sessions := w.sessions ++ [(endpoint, out.session)] }
      return place) :=
    .bind (built_takeSession hmade).elementary fun out =>
      .bind (.step (.openEndpoint _ _)) fun endpoint =>
      .bind (.step (.below (.bookkeeping (.look fun sessions _ _ => sessions.length)))) fun place =>
      .bind (.step (.enter endpoint out.session)) fun _ => .pure _
  unfold connectProtected
  split
  · exact .bind (.fail (hmade _ (Fault.homemade_skipped _))) fun _ => hconnect
  · exact hconnect

/-- A connection for a key establishment is made on the target. -/
theorem built_connectKe (c : RunConfig) : BuiltWith allowed OnTarget (connectKe c) := by
  unfold connectKe
  split
  · exact .bind (.fail (hmade _ (Fault.homemade_skipped _))) fun _ => .step (.openStream _ _ _)
  · exact .step (.openStream _ _ _)

/-- Closing a protected connection is built of elementary steps. -/
theorem built_closeProtected (i : Nat) :
    BuiltWith allowed (Elementary endless) (closeProtected i) :=
  .bind ((built_session hmade i).trans fun _ _ h => .step (.below h)) fun found =>
    .step (.closeEndpoint found.1)

end Homemade

/-- A plain connection is built of elementary steps. -/
theorem built_connectPlain (c : RunConfig) :
    BuiltWith allowed (Elementary endless) (connectPlain c) :=
  .bind (.bind (.step (.below (.bookkeeping (.look fun _ source _ => source.bind (·.address)))))
    fun _ => .pure _) fun address => .step (.openEndpoint address c.timeout)

/-- Preparing a target is built of elementary steps. -/
theorem built_prepareTarget (c : RunConfig) : Built (Elementary endless) (prepareTarget c) := by
  refine .bind (.bind (.step (.lookUp _)) fun _ =>
    .bind (.step (.below (.bookkeeping (.look fun _ _ resolver => resolver)))) fun found => ?_)
    fun _ => ?_
  · split
    · exact .fail trivial
    · exact .fail trivial
    · exact .pure _
  · split
    · exact .bind (.step (.onTarget (.jar _))) fun _ =>
        (built_bootstrap fun _ _ => trivial).elementary
    · exact .pure _

end TimeProbe.Run

import TimeProbe.Proofs.FinishedExchange
import TimeProbe.Proofs.LiveServer

/-!
# Reliable servers

At a reliable endpoint every send succeeds, and nothing comes but datagrams and errors of the
system. An exchange there brings the first answer that comes in time, or fails. A case on a
connection to such a server that ends within its timeout has the outcome that its body and the poll
behind it decide, since closing the endpoint does not interfere.
-/

namespace TimeProbe

/-- A send succeeds, and what it brings about is nothing but datagrams and errors of the system. -/
def SendScript.Succeeds : SendScript → Prop
  | .deliver events => ∀ event ∈ events, event.arrival.FromSystem
  | .fail _ => False

/-- The endpoint opens, every send succeeds, nothing comes but datagrams and errors of the system,
and closing raises nothing but exceptions. -/
structure UdpScript.Reliable (s : UdpScript) : Prop where
  opens : s.openFault = none
  onOpen : ∀ event ∈ s.onOpen, event.arrival.FromSystem
  sends : ∀ send ∈ s.sends, send.Succeeds
  closing : ∀ f ∈ s.closeFault, f.kind.isA .other = true

/-- An endpoint at which every send succeeds, nothing comes but datagrams and errors of the system,
in the order of the times, and closing raises nothing but exceptions. -/
structure Endpoint.Reliable (e : Endpoint) : Prop where
  sends : ∀ send ∈ e.sends, send.Succeeds
  pending : ∀ x ∈ e.pending, x.2.FromSystem
  ordered : e.EarliestFirst
  closing : ∀ f ∈ e.closeFault, f.kind.isA .other = true

/-- Whether an arrival comes from the system is seen from it. -/
instance (arrival : Arrival) : Decidable arrival.FromSystem :=
  match arrival with
  | .datagram _ => .isTrue nofun
  | .socketError none => .isTrue nofun
  | .socketError (some cause) => decidable_of_iff (cause.kind.isA .os = true)
      ⟨fun h => by rintro _ ⟨⟩; exact h, fun h => h cause rfl⟩

/-- Whether a send succeeds is seen from its script. -/
instance (send : SendScript) : Decidable send.Succeeds :=
  match send with
  | .deliver events =>
    inferInstanceAs (Decidable (∀ event ∈ events, event.arrival.FromSystem))
  | .fail _ => .isFalse id

/-- Whether a server is reliable is seen from its script. -/
instance (s : UdpScript) : Decidable s.Reliable :=
  decidable_of_iff
    (s.openFault.isNone = true ∧ (∀ event ∈ s.onOpen, event.arrival.FromSystem) ∧
      (∀ send ∈ s.sends, send.Succeeds) ∧ ∀ f ∈ s.closeFault, f.kind.isA .other = true)
    ⟨fun ⟨hopens, honOpen, hsends, hclosing⟩ =>
        ⟨Option.isNone_iff_eq_none.mp hopens, honOpen, hsends, hclosing⟩,
      fun ⟨hopens, honOpen, hsends, hclosing⟩ =>
        ⟨Option.isNone_iff_eq_none.mpr hopens, honOpen, hsends, hclosing⟩⟩

/-- A datagram that is cut is a datagram. -/
theorem Arrival.FromSystem.cut {arrival : Arrival} (h : arrival.FromSystem) (limit : Int) :
    (Endpoint.cut limit arrival).FromSystem := by
  cases arrival with
  | datagram data => exact fun _ hcause => by cases hcause
  | socketError cause => exact h

/-- The failure of a test is an ordinary fault. -/
theorem Fault.ordinary_failure (reason : String) (response : Value) :
    (failure reason response).Ordinary := (homemade_failure reason response).toOrdinary

/-- What a poll behind a test reports of an ordinary fault is an ordinary fault. -/
theorem Run.ordinary_probeFault {f : Fault} (hf : f.Ordinary) (isInvalid : FaultKind → Bool) :
    (probeFault isInvalid f).Ordinary := by
  rcases probeFault_cases isInvalid f with hmade | hsame
  · exact hmade.toOrdinary
  · rwa [hsame]

/-- Sending does not change how long a receive waits. -/
theorem Endpoint.timeout_send (now : Nat) (data : Bytes) (e : Endpoint) :
    (e.send now data).2.timeout = e.timeout := by
  rw [send]
  split <;> rfl

namespace Endpoint.Reliable

variable {e : Endpoint}

/-- Scheduling datagrams and errors of the system leaves an endpoint reliable. -/
theorem schedule (h : e.Reliable) {events : List Event}
    (hevents : ∀ event ∈ events, event.arrival.FromSystem) (now : Nat) :
    (e.schedule now events).Reliable := by
  refine ⟨h.sends, ?_, h.ordered.schedule now events, h.closing⟩
  have hpending := h.pending
  rw [Endpoint.schedule]
  dsimp only
  generalize e.pending = pending at hpending ⊢
  induction events generalizing pending with
  | nil => exact hpending
  | cons event events ih =>
    refine ih (fun ev hev => hevents ev (List.mem_cons_of_mem _ hev)) _ fun x hx => ?_
    rcases mem_insertArrival.mp hx with rfl | hx
    · exact (hevents event List.mem_cons_self).cut _
    · exact hpending x hx

/-- At a reliable endpoint a send succeeds and leaves it reliable. -/
theorem send (h : e.Reliable) (now : Nat) (data : Bytes) :
    (e.send now data).1 = none ∧ (e.send now data).2.Reliable := by
  have hsends := h.sends
  rw [Endpoint.send]
  split
  next cause rest heq =>
    rw [heq] at hsends
    exact (hsends _ List.mem_cons_self).elim
  next events rest heq =>
    rw [heq] at hsends
    have hrest : ({ e with sends := rest, sent := e.sent ++ [data] } : Endpoint).Reliable :=
      ⟨fun d hd => hsends d (List.mem_cons_of_mem _ hd), h.pending, h.ordered, h.closing⟩
    exact ⟨rfl, hrest.schedule (hsends _ List.mem_cons_self) now⟩
  next => exact ⟨rfl, h.sends, h.pending, h.ordered, h.closing⟩

/-- What is sent at a reliable endpoint is recorded behind what was sent before. -/
theorem sent_send (h : e.Reliable) (now : Nat) (data : Bytes) :
    (e.send now data).2.sent = e.sent ++ [data] := by
  have hsends := h.sends
  rw [Endpoint.send]
  split
  next cause rest heq =>
    rw [heq] at hsends
    exact (hsends _ List.mem_cons_self).elim
  next => rfl
  next => rfl

/-- An endpoint stays reliable when arrivals are taken. -/
theorem left (h : e.Reliable) {pending : List (Nat × Arrival)} (hleft : pending.Sublist e.pending) :
    ({ e with pending } : Endpoint).Reliable :=
  ⟨h.sends, fun x hx => h.pending x (hleft.subset hx), h.ordered.sublist hleft, h.closing⟩

/-- The endpoint that a reliable script makes is reliable. -/
theorem ofScript {s : UdpScript} (h : s.Reliable) (address : Address) (timeout : Binary64)
    (limit : Int) : (Endpoint.ofScript address timeout limit s).Reliable :=
  ⟨h.sends, List.forall_mem_nil _, .nil, h.closing⟩

end Endpoint.Reliable

/-- A first answer: what is passed over for it, its time, what it is, and what comes later. -/
structure FirstAnswer (α : Type) where
  earlier : List (Nat × Arrival)
  time : Nat
  answer : α
  later : List (Nat × Arrival)

namespace World

variable {w : World} {i : Nat}

/-- An endpoint of the world is there and reliable. -/
structure Reliable (w : World) (i : Nat) : Prop where
  there : i < w.endpoints.length
  endpoint : (w.endpoint i).Reliable

/-- An endpoint of the world with what a datagram brings about that is sent on it. -/
def answering (w : World) (i : Nat) (data : Bytes) : Endpoint :=
  ((w.endpoint i).send w.now.time data).2

/-- The time before which what answers has to be there. -/
def closingAt (w : World) (i : Nat) : Nat := w.now.closing (w.endpoint i).timeout

/-- The world at a later moment, with an endpoint left so. -/
def leaving (w : World) (i : Nat) (e : Endpoint) (m : Moment) : World :=
  { w.setEndpoint i e with now := m }

/-- The endpoint that was left is the one that is there. -/
theorem endpoint_leaving (hi : i < w.endpoints.length) (e : Endpoint) (m : Moment) :
    (w.leaving i e m).endpoint i = e := by
  simp [leaving, setEndpoint, endpoint, hi]

/-- A send at a reliable endpoint succeeds, and it stays reliable. -/
theorem Reliable.send (h : w.Reliable i) (data : Bytes) :
    (w.endpoint i).send w.now.time data = (none, w.answering i data) ∧
      (w.answering i data).Reliable := by
  obtain ⟨hsent, hreliable⟩ := h.endpoint.send w.now.time data
  exact ⟨Prod.ext hsent rfl, hreliable⟩

/-- An endpoint that is left reliable is reliable in the world. -/
theorem Reliable.leaving (h : w.Reliable i) {e : Endpoint} (he : e.Reliable) (m : Moment)
    (limits overlooked : List Moment) :
    World.Reliable { w.leaving i e m with limits, overlooked } i := by
  refine ⟨?_, ?_⟩
  · rw [World.leaving, setEndpoint]
    dsimp only
    rw [List.length_set]
    exact h.there
  · have hleft : World.endpoint { w.leaving i e m with limits, overlooked } i = e :=
      endpoint_leaving h.there e m
    rw [hleft]
    exact he

/-- What comes first of what answers a datagram. -/
def Brings {α : Type} (w : World) (i : Nat) (data : Bytes) (holds : Bytes → Option α)
    (earlier : List (Nat × Arrival)) (time : Nat) (a : α) (later : List (Nat × Arrival)) : Prop :=
  (w.answering i data).Brings holds (w.closingAt i) earlier time a later

/-- The world after the first answer to a datagram was taken. -/
def taking (w : World) (i : Nat) (data : Bytes) (earlier : List (Nat × Arrival)) (time : Nat)
    (later : List (Nat × Arrival)) : World :=
  w.leaving i { w.answering i data with pending := later }
    ((w.now.reachingAll earlier).reaching time)

/-- An endpoint stays reliable when the first answer is taken. -/
theorem Reliable.taking {α : Type} (h : w.Reliable i) {data : Bytes} {holds : Bytes → Option α}
    {earlier later : List (Nat × Arrival)} {time : Nat} {a : α}
    (hbrings : w.Brings i data holds earlier time a later) (limits overlooked : List Moment) :
    World.Reliable { w.taking i data earlier time later with limits, overlooked } i := by
  obtain ⟨octets, hpending, -⟩ := hbrings.arrives
  refine h.leaving ((h.send data).2.left ?_) _ limits overlooked
  rw [hpending]
  exact (List.sublist_cons_self _ _).trans (List.sublist_append_right _ _)

end World

namespace Run

section

variable {α β : Type} {x : Run α} {w : World}

/-- A row that is not cut off does not begin with a step that is. -/
theorem ne_cutOff_of_bind {next : α → Run β} (h : ((x >>= next) w).1 ≠ .cutOff) :
    (x w).1 ≠ .cutOff := by
  intro hcut
  rcases hrun : x w with ⟨ending, w₁⟩
  rw [hrun] at hcut
  cases hcut
  rw [bind_cutOff hrun] at h
  exact h rfl

/-- A caught step is cut off with the step. -/
theorem ne_cutOff_of_attempt (h : (attempt x w).1 ≠ .cutOff) : (x w).1 ≠ .cutOff := by
  intro hcut
  rcases hrun : x w with ⟨ending, w₁⟩
  rw [hrun] at hcut
  cases hcut
  rw [attempt_cutOff hrun] at h
  exact h rfl

/-- Taking a reply is cut off with the step that it is taken of. -/
theorem ne_cutOff_of_reply (h : (Expect.reply x w).1 ≠ .cutOff) : (x w).1 ≠ .cutOff :=
  ne_cutOff_of_attempt (ne_cutOff_of_bind h)

end

variable {α : Type} {i : Nat} {data : Bytes} {accept : Bytes → Except ReplyError (Option α)}
  {holds : Bytes → Option α} {w : World}

/-- **What an exchange with a reliable server comes to** that is not cut off: it ends with the first
answer that comes in time, or it fails. It fails with a receive timeout just if what came in time
was unrelated, and then what comes too late stays. -/
theorem exchangeRaw_of_reliable
    (haccept : ∀ octets a, accept octets = .ok (some a) ↔ holds octets = some a)
    (h : w.Reliable i) (hfinished : (exchangeRaw i data accept none w).1 ≠ .cutOff) :
    (∃ earlier time a later limits overlooked, w.Brings i data holds earlier time a later ∧
      exchangeRaw i data accept none w =
        (.done a, { w.taking i data earlier time later with limits, overlooked })) ∨
    ((∀ earlier time a later, ¬ w.Brings i data holds earlier time a later) ∧
      ∃ f left m limits overlooked, exchangeRaw i data accept none w =
          (.failed f, { w.leaving i { w.answering i data with pending := left } m with
            limits, overlooked }) ∧
        f.Ordinary ∧
        (f.kind.isA .receiveTimeout = true ↔
          ∀ x ∈ (w.answering i data).pending, x.1 < w.closingAt i → x.2.Unrelated accept) ∧
        (f.kind.isA .receiveTimeout = true →
          left = (w.answering i data).pending.dropWhile (·.1 < w.closingAt i) ∧
            m = w.now.deadline (w.endpoint i).timeout)) := by
  obtain ⟨hsend, hreliable⟩ := h.send data
  by_cases hbrings : ∃ earlier time a later, w.Brings i data holds earlier time a later
  · obtain ⟨earlier, time, a, later, hbrings⟩ := hbrings
    obtain ⟨limits, overlooked, hexchange⟩ :=
      exchangeRaw_of_brings haccept h.there rfl hsend hreliable.ordered hfinished hbrings
    exact .inl ⟨earlier, time, a, later, limits, overlooked, hbrings, hexchange⟩
  · have hnothing : ∀ earlier time a later, ¬ w.Brings i data holds earlier time a later :=
      fun earlier time a later hb => hbrings ⟨earlier, time, a, later, hb⟩
    exact .inr ⟨hnothing, exchangeRaw_of_not_brings haccept h.there rfl hsend hreliable.ordered
      hreliable.pending hfinished hnothing⟩

/-- Taking the reply under test of a step that ended well. -/
theorem reply_done {x : Run α} {a : α} {w' : World} (h : x w = (.done a, w')) :
    Expect.reply x w = (.done a, w') := by
  rw [Expect.reply, bind_done (attempt_done h)]
  rfl

/-- Where the step fails, so does taking its reply: with an ordinary fault if that is one, and with
a receive timeout just if that is one. -/
theorem exists_reply_failed {x : Run α} {f : Fault} {w' : World} (h : x w = (.failed f, w'))
    (hf : f.Ordinary) :
    ∃ f', Expect.reply x w = (.failed f', w') ∧ f'.Ordinary ∧
      f'.kind.isA .receiveTimeout = f.kind.isA .receiveTimeout := by
  rw [Expect.reply, bind_done (attempt_failed h)]
  dsimp only
  split
  next hinvalid =>
    have hno : f.kind.isA .receiveTimeout = false := by
      revert hinvalid
      cases f.kind <;> decide
    exact ⟨_, rfl, Fault.ordinary_failure _ _, hno.symm⟩
  next => exact ⟨f, rfl, hf, rfl⟩

/-- Taking a reply leaves the world as the step does. -/
theorem snd_reply (x : Run α) (w : World) : (Expect.reply x w).2 = (x w).2 := by
  rw [Expect.reply, snd_bind_of_still _ (attempt x), snd_attempt]
  intro result v
  cases result with
  | ok a => rfl
  | error f =>
    dsimp only
    split <;> rfl

end Run

namespace World

/-- The endpoint that a connection to the time server gets: it has what its script lets come when it
is opened. -/
def freshEndpoint (c : RunConfig) (address : Address) (w : World) : Endpoint :=
  let script := w.udpScripts.headD {}
  (Endpoint.ofScript address c.timeout w.settings.maxDatagramBytes script).schedule w.now.time
    script.onOpen

/-- The world with a fresh endpoint behind the others. -/
def connected (c : RunConfig) (address : Address) (w : World) : World :=
  { w with
    udpScripts := w.udpScripts.tail
    endpoints := w.endpoints ++ [w.freshEndpoint c address] }

/-- A fresh endpoint to a reliable server is reliable. -/
theorem reliable_connected {w : World} (h : (w.udpScripts.headD {}).Reliable) (c : RunConfig)
    (address : Address) : (w.connected c address).Reliable w.endpoints.length := by
  refine ⟨by simp [connected], ?_⟩
  have hfresh :
      (w.connected c address).endpoint w.endpoints.length = w.freshEndpoint c address := by
    simp [connected, World.endpoint]
  rw [hfresh, freshEndpoint]
  exact (Endpoint.Reliable.ofScript h _ _ _).schedule h.onOpen _

end World

namespace Run

variable {c : RunConfig} {w : World}

/-- Opening an endpoint to a reliable server succeeds. -/
theorem openEndpoint_of_reliable (h : (w.udpScripts.headD {}).Reliable) (address : Address) :
    openEndpoint address c.timeout w = (.done w.endpoints.length, w.connected c address) := by
  simp only [openEndpoint, h.opens]
  rfl

end Run

namespace World

/-- What closing the endpoints raises. -/
def closeFaults (w : World) : List (Option Fault) := w.endpoints.map (·.closeFault)

variable {w w' : World} {i : Nat}

/-- An endpoint may change in other ways than closing it shows. -/
theorem closeFaults_setEndpoint {e : Endpoint} (he : e.closeFault = (w.endpoint i).closeFault) :
    (w.setEndpoint i e).closeFaults = w.closeFaults := by
  refine map_set_eq_map _ _ fun found hfound => ?_
  rw [he, endpoint, hfound]
  rfl

/-- Where closing the endpoints raises the same, closing each of them does. -/
theorem closeFault_eq_of_closeFaults (h : w'.closeFaults = w.closeFaults) (i : Nat) :
    (w'.endpoint i).closeFault = (w.endpoint i).closeFault := by
  have hone (v : World) : (v.endpoint i).closeFault = v.closeFaults[i]?.getD none := by
    rw [closeFaults, List.getElem?_map, endpoint]
    cases v.endpoints[i]? <;> rfl
  rw [hone, hone, h]

end World

namespace Run

section

variable {α : Type} {i : Nat} {x : Run α}

/-- What a body does on an endpoint leaves what closing raises. -/
theorem closeFaults_onEndpoint {endless : Prop} (hx : Built (OrAmbient endless (OnEndpoint i)) x) :
    Leaves World.closeFaults x := by
  have htime : Untimed World.closeFaults := untimed_of_eq fun _ _ _ _ _ _ _ => rfl
  exact hx.leaves htime fun _ _ h =>
    h.elim (·.leaves htime fun _ _ _ hused => World.closeFaults_setEndpoint hused.closeFault)
      (·.leaves htime)

end

end Run

/-- Whether a step within a timeout has no result because the timeout passed. -/
def Ending.isLate {α : Type} : Ending (Option α) → Bool
  | .done result => result.isNone
  | .failed _ => false
  | .cutOff => false

/-- A case ends before its timeout passes. -/
structure TestCase.EndsWithin (case : TestCase) (c : RunConfig) (limit : Binary64) (w : World) :
    Prop where
  finished : (Run.within limit (case.run c) w).1 ≠ .done none
  early : (Run.within limit (case.run c) w).2.now.before (w.now.afterTimeout limit) = true

/-- Whether a case ends before its timeout passes is seen by running it. -/
instance (case : TestCase) (c : RunConfig) (limit : Binary64) (w : World) :
    Decidable (case.EndsWithin c limit w) :=
  decidable_of_iff ((Run.within limit (case.run c) w).1.isLate = false ∧
      (Run.within limit (case.run c) w).2.now.before (w.now.afterTimeout limit) = true) <| by
    have hlate : (Run.within limit (case.run c) w).1.isLate = false ↔
        (Run.within limit (case.run c) w).1 ≠ .done none := by
      rcases (Run.within limit (case.run c) w).1 with (_ | _) | _ | _ <;> simp [Ending.isLate]
    rw [hlate]
    exact ⟨fun ⟨hfinished, hearly⟩ => ⟨hfinished, hearly⟩,
      fun ⟨hfinished, hearly⟩ => ⟨hfinished, hearly⟩⟩

/-- The result of a step that ended well. -/
def Ending.result? {α : Type} : Ending α → Option α
  | .done a => some a
  | .failed _ => none
  | .cutOff => none

/-- How a step that ended in this way ends within a timeout. -/
def Ending.inTime {α : Type} : Ending α → Ending (Option α)
  | .done a => .done (some a)
  | .failed f => .failed f
  | .cutOff => .done none

namespace Run

variable {c : RunConfig} {limit : Binary64} {w w₁ v : World} {i : Nat} {case : TestCase}

/-- A step starts under a timeout in a world that is on the way to it. -/
theorem underway_under (w : World) (timeout : Binary64) :
    (w.under timeout).Underway (w.now.afterTimeout timeout) :=
  ⟨w.timely_under timeout, List.Sublist.refl _, Moment.afterTimeout_time_le⟩

/-- A case that ends within its timeout ends as it does under the limit that the timeout sets, and
before that moment comes. -/
theorem within_of_endsWithin (hw : w.limits = []) (hbounded : Bounded (case.run c))
    (hends : case.EndsWithin c limit w) :
    EndsBefore (w.now.afterTimeout limit) (case.run c) (w.under limit) ∧
      within limit (case.run c) w = ((case.run c (w.under limit)).1.inTime,
        { (case.run c (w.under limit)).2 with limits := [] }) := by
  obtain ⟨hfinished, hearly⟩ := hends
  have hendsIn := endsIn_within limit hbounded hw
  rw [EndsBefore]
  rcases hwithin : within limit (case.run c) w with ⟨ending, v⟩
  rw [hwithin] at hfinished hearly hendsIn
  dsimp only at hfinished hearly hendsIn
  cases hendsIn with
  | inAdvance _ => exact absurd rfl hfinished
  | done _ hrun _ =>
    rw [hrun]
    exact ⟨hearly, rfl⟩
  | failed _ hrun _ =>
    rw [hrun]
    exact ⟨hearly, rfl⟩
  | cutOff _ _ _ => exact absurd rfl hfinished

/-- A case that ends within its timeout, with no other than an ordinary fault, has the outcome that
its end decides. -/
theorem exists_judges_of_endsWithin {ending : Ending Unit} (hw : w.limits = [])
    (hbounded : Bounded (case.run c)) (hends : case.EndsWithin c limit w)
    (hrun : case.run c (w.under limit) = (ending, v))
    (hordinary : ∀ f, ending = .failed f → f.Ordinary) :
    ∃ outcome w', runCase c limit case w = (.done outcome, w') ∧ outcome.Judges ending.inTime := by
  obtain ⟨-, hwithin⟩ := within_of_endsWithin hw hbounded hends
  rw [hrun] at hwithin
  have hraisable : ∀ f, (within limit (case.run c) w).1 = .failed f → f.Raisable := by
    intro f hf
    rw [hwithin] at hf
    have hf : ending = .failed f := by
      cases ending with
      | done a => cases hf
      | failed f =>
        cases hf
        rfl
      | cutOff => cases hf
    obtain ⟨hkind, harguments⟩ := hordinary f hf
    refine ⟨hkind, fun _ argument hargument => ?_⟩
    rw [harguments] at hargument
    cases hargument
  obtain ⟨ending', outcome, w', hended, hjudges, hcase⟩ :=
    exists_judges_runCase limit hraisable (endsIn_within limit hbounded hw).ended.1
  rw [hwithin] at hended
  cases hended
  exact ⟨outcome, _, hcase, hjudges⟩

/-- A case on a connection that can be closed ends as its body does, if this is not cut off. -/
theorem onConnection_of_closing {connect : Run Nat} {body close : Nat → Run Unit}
    (hconnect : connect w = (.done i, w₁)) (hended : (body i w₁).1.isCutOff = false)
    (hclose : close i (body i w₁).2 = (.done (), v)) :
    TestCase.onConnection connect body close w = ((body i w₁).1, v) := by
  rw [TestCase.onConnection, bind_done hconnect]
  exact ensuring_of_ended rfl hended hclose

/-- A step ends well just if something holds, and otherwise with an ordinary fault. -/
def EndsWellIff (x : Run Unit) (w : World) (holds : Prop) : Prop :=
  (holds ∧ ∃ w', x w = (.done (), w')) ∨ (¬ holds ∧ ∃ f w', x w = (.failed f, w') ∧ f.Ordinary)

section

variable {x y : Run Unit} {w' : World}

/-- What follows a step that ended well is cut off with the row. -/
theorem ne_cutOff_of_done (hrun : x w = (.done (), w'))
    (h : ((x >>= fun _ => y) w).1 ≠ .cutOff) : (y w').1 ≠ .cutOff := by
  rwa [bind_done hrun] at h

variable {run : Run Outcome} {w₀ : World}
  (hjudged : (∀ f, ((x >>= fun _ => y) w).1 = .failed f → f.Ordinary) →
    ∃ outcome w₂, run w₀ = (.done outcome, w₂) ∧
      outcome.Judges ((x >>= fun _ => y) w).1.inTime)

include hjudged

/-- A case whose body ended well passes exactly if the poll behind it does. -/
theorem verdict_of_done {alive : Prop} (hrun : x w = (.done (), w'))
    (hprobe : EndsWellIff y w' alive) :
    ∃ outcome w₂, run w₀ = (.done outcome, w₂) ∧ (outcome.kind = .passed ↔ alive) := by
  rw [bind_done hrun] at hjudged
  rcases hprobe with ⟨halive, w₂, hprobe⟩ | ⟨hdead, f, w₂, hprobe, hf⟩
  · rw [hprobe] at hjudged
    obtain ⟨outcome, w₃, hcase, hjudges⟩ := hjudged fun f h => (by cases h)
    exact ⟨outcome, w₃, hcase, hjudges.passed.trans (iff_of_true rfl halive)⟩
  · rw [hprobe] at hjudged
    obtain ⟨outcome, w₃, hcase, hjudges⟩ := hjudged (by rintro _ ⟨⟩; exact hf)
    exact ⟨outcome, w₃, hcase, hjudges.passed.trans (iff_of_false (fun h => by cases h) hdead)⟩

/-- A case whose body failed has the outcome of that fault, and does not pass. -/
theorem verdict_of_failed {f : Fault} (hrun : x w = (.failed f, w')) (hf : f.Ordinary) :
    ∃ outcome w₂, run w₀ = (.done outcome, w₂) ∧ outcome.kind ≠ .passed ∧
      outcome.Judges (.failed f) := by
  rw [bind_failed hrun] at hjudged
  obtain ⟨outcome, w₂, hcase, hjudges⟩ := hjudged (by rintro _ ⟨⟩; exact hf)
  exact ⟨outcome, w₂, hcase, fun hpassed => (by cases hjudges.passed.mp hpassed), hjudges⟩

/-- **The verdict on what comes first.** Let only one thing come first, and let a body end well on
a good one, find fault with another one, and fail with an ordinary fault where nothing comes. Its
case passes exactly if a good one comes and the poll behind it ends well, and it fails and shows
what came if this is not good. -/
theorem verdict_of_first {γ : Type} (hfinished : ((x >>= fun _ => y) w).1 ≠ .cutOff)
    (Comes Good Alive : γ → Prop) (shown : γ → Value)
    (hunique : ∀ a b, Comes a → Comes b → a = b)
    (hbody : (∃ a w', Comes a ∧ Good a ∧ x w = (.done (), w') ∧
        ((y w').1 ≠ .cutOff → EndsWellIff y w' (Alive a))) ∨
      (∃ a reason w', Comes a ∧ ¬ Good a ∧
        x w = (.failed (Fault.failure reason (shown a)), w')) ∨
      ((∀ a, ¬ Comes a) ∧ ∃ f w', x w = (.failed f, w') ∧ f.Ordinary)) :
    ∃ outcome w₂, run w₀ = (.done outcome, w₂) ∧
      (outcome.kind = .passed ↔ ∃ a, Comes a ∧ Good a ∧ Alive a) ∧
      ∀ a, Comes a → ¬ Good a →
        outcome.kind = .failed ∧ outcome.detail = Outcome.describeResponse (shown a) := by
  rcases hbody with ⟨a, w', hcomes, hgood, hrun, hprobe⟩ |
    ⟨a, reason, w', hcomes, hbad, hrun⟩ | ⟨hnothing, f, w', hrun, hf⟩
  · obtain ⟨outcome, w₂, hcase, hpasses⟩ :=
      verdict_of_done hjudged hrun (hprobe (ne_cutOff_of_done hrun hfinished))
    refine ⟨outcome, w₂, hcase, hpasses.trans ⟨fun halive => ⟨a, hcomes, hgood, halive⟩, ?_⟩, ?_⟩
    · rintro ⟨b, hb, -, halive⟩
      rwa [hunique a b hcomes hb]
    · intro b hb hbad
      rw [hunique a b hcomes hb] at hgood
      exact absurd hgood hbad
  · obtain ⟨outcome, w₂, hcase, hno, hjudges⟩ :=
      verdict_of_failed hjudged hrun (Fault.ordinary_failure reason (shown a))
    refine ⟨outcome, w₂, hcase, iff_of_false hno ?_, ?_⟩
    · rintro ⟨b, hb, hgood, -⟩
      rw [← hunique a b hcomes hb] at hgood
      exact hbad hgood
    · intro b hb _
      rw [← hunique a b hcomes hb]
      exact ⟨hjudges.failed.mpr ⟨_, rfl, rfl⟩, hjudges.detail _ rfl rfl⟩
  · obtain ⟨outcome, w₂, hcase, hno, -⟩ := verdict_of_failed hjudged hrun hf
    refine ⟨outcome, w₂, hcase, iff_of_false hno ?_, fun a ha => absurd ha (hnothing a)⟩
    rintro ⟨a, ha, -⟩
    exact hnothing a ha

end

/-- **A case on a connection** that is made, and that can be closed in no time, ends within its
timeout with its body: this is not cut off and ends before that moment, and the outcome of the case
is the one that its end decides, if this is no other than an ordinary fault. -/
theorem exists_judges_onConnection {connect : Run Nat} {body close : Nat → Run Unit}
    (hcase : case.run c = TestCase.onConnection connect body close)
    (hconnects : Heeds False connect) (hbody : ∀ i, Heeds False (body i))
    (hcloses : ∀ i, Heeds False (close i)) (htakes : ∀ i, Leaves (·.now) (close i))
    (hw : w.limits = []) (hends : case.EndsWithin c limit w)
    (hconnect : connect (w.under limit) = (.done i, w₁))
    (hclose : ∃ v, close i (body i w₁).2 = (.done (), v)) :
    w₁.Underway (w.now.afterTimeout limit) ∧ EndsBefore (w.now.afterTimeout limit) (body i) w₁ ∧
      (body i w₁).1 ≠ .cutOff ∧
      ((∀ f, (body i w₁).1 = .failed f → f.Ordinary) →
        ∃ outcome w', runCase c limit case w = (.done outcome, w') ∧
          outcome.Judges (body i w₁).1.inTime) := by
  have hbounded : Bounded (case.run c) := by
    rw [hcase]
    exact (hconnects.bind fun i => (hbody i).ensuring (hcloses i)).bounded
  obtain ⟨hearly, -⟩ := within_of_endsWithin hw hbounded hends
  have hrow : case.run c (w.under limit) = ensuring (body i) (close i) w₁ := by
    rw [hcase]
    exact bind_done hconnect _
  have hbefore : EndsBefore (w.now.afterTimeout limit) (body i) w₁ := by
    rwa [EndsBefore, hrow, now_ensuring (htakes i)] at hearly
  have hconnected : EndsBefore (w.now.afterTimeout limit) connect (w.under limit) := by
    rw [hcase] at hearly
    exact hearly.first hconnects (fun i => (hbody i).ensuring (hcloses i)) (w.timely_under limit)
  obtain ⟨-, hunderway⟩ := hconnects.underway (underway_under w limit) hconnected
  rw [hconnect] at hunderway
  obtain ⟨hended, -⟩ := (hbody i).underway hunderway hbefore
  dsimp only at hended
  obtain ⟨v, hclose⟩ := hclose
  have hrun : case.run c (w.under limit) = ((body i w₁).1, v) := by
    rw [hcase]
    exact onConnection_of_closing hconnect hended hclose
  refine ⟨hunderway, hbefore, fun hcut => ?_, exists_judges_of_endsWithin hw hbounded hends hrun⟩
  rw [hcut] at hended
  cases hended

/-- **A plain case on a reliable server** that ends within its timeout gets a fresh endpoint that is
reliable; its body and the poll behind it end before the timeout passes and are not cut off there,
and the outcome of the case is the one that their end decides, if this is no other than an ordinary
fault. -/
theorem exists_judges_plain {name summary : String} {body : Nat → Run Unit}
    (hw : w.limits = []) (hserver : (w.udpScripts.headD {}).Reliable)
    (hbody : ∀ i, Built (OrAmbient False (OnEndpoint i)) (body i))
    (hends : (TestCase.plain name summary body).EndsWithin c limit w) :
    ∃ i w₁, connectPlain c (w.under limit) = (.done i, w₁) ∧ w₁.Reliable i ∧
      w₁.Underway (w.now.afterTimeout limit) ∧
      EndsBefore (w.now.afterTimeout limit) (body i >>= fun _ => probe i) w₁ ∧
      ((body i >>= fun _ => probe i) w₁).1 ≠ .cutOff ∧
      ((∀ f, ((body i >>= fun _ => probe i) w₁).1 = .failed f → f.Ordinary) →
        ∃ outcome w', runCase c limit (.plain name summary body) w = (.done outcome, w') ∧
          outcome.Judges ((body i >>= fun _ => probe i) w₁).1.inTime) := by
  have hserver : ((w.under limit).udpScripts.headD {}).Reliable := hserver
  obtain ⟨address, haddress⟩ : ∃ address, timeServer c (w.under limit) =
      (.done address, w.under limit) := ⟨_, rfl⟩
  obtain ⟨i, w₁, hconnect, hreliable⟩ :
      ∃ i w₁, connectPlain c (w.under limit) = (.done i, w₁) ∧ w₁.Reliable i :=
    ⟨_, _, (bind_done haddress _).trans (openEndpoint_of_reliable hserver address),
      World.reliable_connected hserver c address⟩
  have hbuilt (i : Nat) : Built (OrAmbient False (OnEndpoint i)) (body i >>= fun _ => probe i) :=
    .bind (hbody i) fun _ => built_probe (fun _ _ => trivial) i
  have hquiet := World.closeFault_eq_of_closeFaults (closeFaults_onEndpoint (hbuilt i) w₁) i
  have hclose := exists_closeEndpoint (hquiet ▸ hreliable.endpoint.closing)
  exact ⟨i, w₁, hconnect, hreliable, exists_judges_onConnection rfl
    ((built_connectPlain c).heeds fun _ _ h => h.heeds)
    (fun i => (hbuilt i).onPlain.heeds fun _ _ h => h.heeds)
    (fun i => (Elementary.closeEndpoint i).heeds) now_closeEndpoint hw hends hconnect hclose⟩

end Run

end TimeProbe

import TimeProbe.Proofs.BuiltSteps

/-!
# What is done on an endpoint

Whatever is sent, received or exchanged on an endpoint, the endpoint keeps its address and how it
will be closed, it goes on with what is left of its script, and only what its script brings about
arrives. The faults that come of it are those of the script and those that the prober makes. A
property that allows for this is kept by everything that is done on endpoints.
-/

namespace TimeProbe

namespace Endpoint

/-- What becomes of an endpoint that is used. Its script is used up from the front, and what is
pending was pending before or is brought about by the script. -/
structure Used (e e' : Endpoint) : Prop where
  address : e'.address = e.address
  closeFault : e'.closeFault = e.closeFault
  closed : e'.closed = e.closed
  sends : e'.sends <:+ e.sends
  pending : ∀ a ∈ e'.pending, a ∈ e.pending ∨
    ∃ events, .deliver events ∈ e.sends ∧ ∃ event ∈ events, a.2 = cut e.datagramLimit event.arrival

/-- An endpoint whose arrivals are partly taken is used. -/
theorem used_of_taken (e : Endpoint) {left : List (Nat × Arrival)} (hleft : left <:+ e.pending) :
    e.Used { e with pending := left } :=
  ⟨rfl, rfl, rfl, List.suffix_refl _, fun _ ha => .inl (hleft.subset ha)⟩

/-- What is put among arrivals joins those that are there. -/
theorem mem_insertArrival {time : Nat} {a : Arrival} {pending : List (Nat × Arrival)}
    {b : Nat × Arrival} : b ∈ insertArrival time a pending ↔ b = (time, a) ∨ b ∈ pending := by
  induction pending with
  | nil => simp [insertArrival]
  | cons c pending ih =>
    obtain ⟨t, c⟩ := c
    rw [insertArrival]
    split
    · simp only [List.mem_cons, ih]
      exact or_left_comm
    · simp only [List.mem_cons]

/-- What is pending behind some events was pending before or comes of them. -/
theorem mem_schedule {e : Endpoint} {now : Nat} {events : List Event} {a : Nat × Arrival}
    (ha : a ∈ (e.schedule now events).pending) :
    a ∈ e.pending ∨ ∃ event ∈ events, a.2 = cut e.datagramLimit event.arrival := by
  rw [schedule] at ha
  dsimp only at ha
  generalize e.pending = pending at ha ⊢
  induction events generalizing pending with
  | nil => exact .inl ha
  | cons event events ih =>
    rcases ih _ ha with hmem | ⟨other, hother, heq⟩
    · rcases mem_insertArrival.mp hmem with rfl | hmem
      · exact .inr ⟨event, List.mem_cons_self, rfl⟩
      · exact .inl hmem
    · exact .inr ⟨other, List.mem_cons_of_mem _ hother, heq⟩

/-- Sending uses an endpoint, and fails only as its script says. -/
theorem used_send (e : Endpoint) (now : Nat) (data : Bytes) :
    e.Used (e.send now data).2 ∧
      ∀ cause, (e.send now data).1 = some cause → .fail cause ∈ e.sends := by
  rw [send]
  split
  next cause rest hsends =>
    have hrest : rest <:+ e.sends := hsends ▸ List.suffix_cons _ _
    refine ⟨⟨rfl, rfl, rfl, hrest, fun _ ha => .inl ha⟩, ?_⟩
    rintro _ ⟨⟩
    exact hsends ▸ List.mem_cons_self
  next events rest hsends =>
    have hrest : rest <:+ e.sends := hsends ▸ List.suffix_cons _ _
    refine ⟨⟨rfl, rfl, rfl, hrest, fun a ha => ?_⟩, nofun⟩
    rcases mem_schedule ha with hmem | ⟨event, hevent, heq⟩
    · exact .inl hmem
    · exact .inr ⟨events, hsends ▸ List.mem_cons_self, event, hevent, heq⟩
  next => exact ⟨⟨rfl, rfl, rfl, List.suffix_refl _, fun _ ha => .inl ha⟩, nofun⟩

end Endpoint

section Wait

variable {α : Type} (accept : Bytes → Except ReplyError (Option α))

/-- A wait for a reply takes arrivals from the front, and a socket error that ends it is one of
them. -/
theorem awaitReply_takes (stop : Moment) (arrivals : List (Nat × Arrival)) (now : Moment)
    (last : Option (ReplyError × Bytes)) :
    (awaitReply accept stop arrivals now last).left <:+ arrivals ∧
      ∀ cause, (awaitReply accept stop arrivals now last).verdict = .broken cause →
        ∃ time, (time, .socketError cause) ∈ arrivals := by
  induction arrivals generalizing now last with
  | nil => exact ⟨List.suffix_refl _, nofun⟩
  | cons first rest ih =>
    obtain ⟨time, arrival⟩ := first
    have hrest : rest <:+ (time, arrival) :: rest := List.suffix_cons _ _
    have hlater (now : Moment) (last : Option (ReplyError × Bytes)) :
        (awaitReply accept stop rest now last).left <:+ (time, arrival) :: rest ∧
          ∀ cause, (awaitReply accept stop rest now last).verdict = .broken cause →
            ∃ t, (t, .socketError cause) ∈ (time, arrival) :: rest := by
      obtain ⟨hleft, hbroken⟩ := ih now last
      refine ⟨hleft.trans hrest, fun cause hcause => ?_⟩
      obtain ⟨t, ht⟩ := hbroken cause hcause
      exact ⟨t, List.mem_cons_of_mem _ ht⟩
    unfold awaitReply
    dsimp only
    split
    · cases arrival with
      | socketError cause =>
        dsimp only
        split
        · exact ⟨hrest, nofun⟩
        · refine ⟨hrest, ?_⟩
          rintro _ ⟨⟩
          exact ⟨time, List.mem_cons_self⟩
      | datagram data =>
        dsimp only
        split
        · exact ⟨hrest, nofun⟩
        · exact hlater _ _
        · exact hlater _ _
    · exact ⟨List.suffix_refl _, nofun⟩

/-- Limits that pass on the way do not change what a wait takes. -/
theorem awaitAmid_takes (deadline : Moment) (limits : List Moment) (arrivals : List (Nat × Arrival))
    (now : Moment) (last : Option (ReplyError × Bytes)) :
    (awaitAmid accept deadline limits arrivals now last).2.left <:+ arrivals ∧
      ∀ cause, (awaitAmid accept deadline limits arrivals now last).2.verdict = .broken cause →
        ∃ time, (time, .socketError cause) ∈ arrivals := by
  induction limits generalizing arrivals now last with
  | nil => exact awaitReply_takes accept deadline arrivals now last
  | cons limit limits ih =>
    rw [awaitAmid]
    split
    · exact awaitReply_takes accept deadline arrivals now last
    obtain ⟨hleft, hbroken⟩ := awaitReply_takes accept ⟨limit.time, 0⟩ arrivals now last
    rcases hwait : awaitReply accept ⟨limit.time, 0⟩ arrivals now last with ⟨verdict, moment, left⟩
    rw [hwait] at hleft hbroken
    cases verdict with
    | answered a => exact ⟨hleft, nofun⟩
    | broken cause => exact ⟨hleft, hbroken⟩
    | abandoned last => exact ⟨hleft, nofun⟩
    | expired last =>
      dsimp only
      split
      · obtain ⟨hleft', hbroken'⟩ := ih left moment last
        refine ⟨hleft'.trans hleft, fun cause hcause => ?_⟩
        obtain ⟨time, htime⟩ := hbroken' cause hcause
        exact ⟨time, hleft.subset htime⟩
      · exact ⟨hleft, nofun⟩

end Wait

/-- What a property and a bound on faults have to allow for, so that everything that is done on
endpoints keeps the property and raises no other faults. -/
structure EndpointLaw (allowed : Fault → Prop) (p : World → Prop) : Prop where
  timeless : World.Timeless p
  used : ∀ (w : World) i e, p w → (w.endpoint i).Used e → p (w.setEndpoint i e)
  unsent : ∀ (w : World) i cause, p w → .fail cause ∈ (w.endpoint i).sends →
    ∀ address data, allowed (Endpoint.sendFault address data cause)
  broken : ∀ (w : World) i time cause, p w → (time, .socketError cause) ∈ (w.endpoint i).pending →
    ∀ address, allowed (Endpoint.receiveFault address cause)
  homemade : ∀ f : Fault, f.Homemade → allowed f

namespace EndpointLaw

open Run

variable {α : Type} {allowed : Fault → Prop} {p : World → Prop}

/-- Sending a datagram keeps what the law allows for. -/
theorem keeps_sendDatagram (law : EndpointLaw allowed p) (i : Nat) (data : Bytes) :
    Keeps allowed p (sendDatagram i data) := by
  intro w hw
  obtain ⟨hused, hfault⟩ := (w.endpoint i).used_send w.now.time data
  have hleft := law.used w i _ hw hused
  rw [sendDatagram]
  dsimp only
  split
  next cause hcause => exact ⟨hleft, law.unsent w i cause hw (hfault cause hcause) _ data⟩
  next => exact ⟨hleft, trivial⟩

/-- An exchange keeps what the law allows for. -/
theorem keeps_exchangeRaw (law : EndpointLaw allowed p) (i : Nat) (data : Bytes)
    (accept : Bytes → Except ReplyError (Option α)) (timeout : Option Binary64) :
    Keeps allowed p (exchangeRaw i data accept timeout) := by
  refine (keeps_read _).bind fun e => (keeps_read _).bind fun deadline =>
    (law.keeps_sendDatagram i data).bind fun _ w hw => ?_
  obtain ⟨hleft, hbroken⟩ :=
    awaitAmid_takes accept deadline w.limits (w.endpoint i).pending w.now none
  dsimp only
  generalize awaitAmid accept deadline w.limits (w.endpoint i).pending w.now none = wait
    at hleft hbroken ⊢
  have hset := law.used w i _ hw ((w.endpoint i).used_of_taken hleft)
  have hend := law.timeless.overlooking wait.1 (law.timeless.withNow wait.2.moment hset)
  have hnone (address : Address) (timeout : Binary64) (last : Option (ReplyError × Bytes)) :=
    law.homemade _ (homemade_noReply address timeout last)
  split
  · exact ⟨hend, trivial⟩
  next cause hcause =>
    obtain ⟨time, htime⟩ := hbroken cause hcause
    exact ⟨hend, law.broken w i time cause hw htime _⟩
  · exact ⟨hend, hnone _ _ _⟩
  · split
    · exact ⟨hend, trivial⟩
    · exact ⟨hend, hnone _ _ _⟩

/-- Taking the next arrival keeps what the law allows for, and raises nothing. -/
theorem keeps_nextArrival (law : EndpointLaw allowed p) (i : Nat) :
    Keeps allowed p (nextArrival i) := by
  intro w hw
  rw [nextArrival]
  split
  · exact ⟨law.timeless.withNow _ hw, trivial⟩
  next time a rest hpending =>
    dsimp only
    split
    · exact ⟨law.timeless.withNow _ hw, trivial⟩
    · have hrest : rest <:+ (w.endpoint i).pending := hpending ▸ List.suffix_cons _ _
      exact ⟨law.timeless.withNow _ (law.used w i _ hw ((w.endpoint i).used_of_taken hrest)),
        trivial⟩

/-- Receiving keeps what the law allows for. -/
theorem keeps_receiveArrival (law : EndpointLaw allowed p) (i : Nat) (timeout : Option Binary64) :
    Keeps allowed p (receiveArrival i timeout) := by
  refine (keeps_read _).bind fun e => ((law.keeps_nextArrival i).within law.timeless law.timeless
    (fun _ => id) _).bind fun taken => ?_
  cases taken with
  | none => exact keeps_fail (law.homemade _ (.of_kind rfl rfl))
  | some a => exact keeps_pure _

/-- What is received was pending. -/
theorem mem_of_receiveArrival {w w' : World} {i : Nat} {timeout : Option Binary64}
    {address : Address} {a : Arrival}
    (h : receiveArrival i timeout w = (.done (address, a), w')) :
    ∃ time, (time, a) ∈ (w.endpoint i).pending := by
  obtain ⟨e, w₁, hread, h⟩ := exists_of_bind_done h
  cases hread
  obtain ⟨taken, w₂, hwithin, h⟩ := exists_of_bind_done h
  cases taken with
  | none => cases h
  | some b =>
    cases h
    obtain ⟨limits, v, hnext⟩ := (exists_of_within _ _ _).1 _ (congrArg Prod.fst hwithin)
    have hendpoint : ({ w with limits } : World).endpoint i = w.endpoint i := rfl
    rw [nextArrival, hendpoint] at hnext
    split at hnext
    · cases hnext
    next time c rest hpending =>
      dsimp only at hnext
      split at hnext
      · cases hnext
      · cases hnext
        exact ⟨time, hpending ▸ List.mem_cons_self⟩

/-- Everything that is done on an endpoint keeps what the law allows for. -/
theorem keeps (law : EndpointLaw allowed p) {i : Nat} {x : Run α} (h : OnEndpoint i α x) :
    Keeps allowed p x := by
  cases h with
  | send data => exact law.keeps_sendDatagram i data
  | receive timeout => exact law.keeps_receiveArrival i timeout
  | exchange data accept timeout => exact law.keeps_exchangeRaw i data accept timeout
  | look f => exact keeps_read _
  | anything timeout =>
    refine (law.keeps_receiveArrival i timeout).follow fun w received w' hw hreceived => ?_
    have hleft := (law.keeps_receiveArrival i timeout w hw).1
    rw [hreceived] at hleft
    obtain ⟨address, arrival⟩ := received
    obtain ⟨time, htime⟩ := mem_of_receiveArrival hreceived
    cases arrival with
    | datagram data => exact ⟨hleft, trivial⟩
    | socketError cause =>
      have hfault := law.broken w i time cause hw htime address
      dsimp only
      cases cause.filter (·.kind.isA .interrupt) with
      | some f => exact ⟨hleft, trivial⟩
      | none => exact ⟨hleft, hfault⟩

end EndpointLaw

namespace Run

variable {α γ : Type} {part : World → γ}

/-- A part of the world that has nothing to do with time, and that is the same for an endpoint that
is used, is left by everything that is done on an endpoint. -/
theorem OnEndpoint.leaves {i : Nat} {x : Run α} (htime : Untimed part)
    (hused : ∀ (w : World) i e, (w.endpoint i).Used e → part (w.setEndpoint i e) = part w)
    (h : OnEndpoint i α x) : Leaves part x := by
  refine leaves_iff_keeps.mpr fun value => EndpointLaw.keeps ?_ h
  exact
    { timeless := htime value
      used := fun w i e hw h => (hused w i e h).trans hw
      unsent := fun _ _ _ _ _ _ _ => trivial
      broken := fun _ _ _ _ _ _ _ => trivial
      homemade := fun _ _ => trivial }

/-- An exchange leaves the sessions. -/
theorem leaves_sessions_exchangeRaw (i : Nat) (data : Bytes)
    (accept : Bytes → Except ReplyError (Option α)) (timeout : Option Binary64) :
    Leaves (·.sessions) (exchangeRaw i data accept timeout) :=
  (OnEndpoint.exchange data accept timeout).leaves (untimed_of_eq fun _ _ _ _ _ _ _ => rfl)
    fun _ _ _ _ => rfl

end Run

end TimeProbe

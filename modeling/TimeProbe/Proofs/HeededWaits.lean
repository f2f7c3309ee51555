import TimeProbe.Proofs.ElementarySteps
import TimeProbe.Proofs.HeededLimits
import TimeProbe.Proofs.ReplyWait

/-!
# Waits that heed limits

A wait for a reply, for a record or for whatever comes next takes what comes before the limits
around it, and what comes at the very time of one. Then that limit is overlooked, and the wait goes
on to the next one.
-/

namespace TimeProbe

section Replies

/-- How a wait ends amid limits of which the first ones were overlooked. These have been reached. A
wait that got what it waited for ends before the next limit, and so does one whose deadline comes
before it. If the next limit comes first it has been reached when the wait expires. -/
structure Wait.EndsAmid {α : Type} (wait : Wait α) (now deadline : Moment)
    (limits : List Moment) (n : Nat) : Prop where
  onward : wait.moment.before now = false
  overlooked : ∀ limit ∈ limits.take n, limit.time ≤ wait.moment.time
  next : ∀ limit ∈ (limits.drop n).head?,
    if wait.verdict.isExpired && !deadline.before limit then
      wait.moment.before limit = false ∧ wait.moment.time ≤ limit.time
    else wait.moment.before limit = true

namespace Wait.EndsAmid

variable {α : Type} {wait : Wait α} {now moment deadline limit : Moment} {limits : List Moment}
  {last : Option (ReplyError × Bytes)} {left : List (Nat × Arrival)}

/-- A wait that got what it waited for before the time of the next limit. -/
theorem of_got (hended : wait.verdict.isExpired = false)
    (hearly : wait.moment.before ⟨limit.time, 0⟩ = true) (hback : wait.moment.before now = false) :
    wait.EndsAmid now deadline (limit :: limits) 0 := by
  refine ⟨hback, List.forall_mem_nil _, fun l hl => ?_⟩
  cases hl
  rw [hended]
  exact Moment.before_of_before hearly limit.before_time

/-- A wait that the next limit cuts off once its time has come. -/
theorem of_cutOff (hdeadline : deadline.before limit = false) (hback : moment.before now = false)
    (htime : moment.time = limit.time) :
    (⟨.expired last, moment.later limit, left⟩ : Wait α).EndsAmid now deadline
      (limit :: limits) 0 := by
  obtain ⟨hfrom, hreached⟩ := Moment.later_not_before moment limit
  refine ⟨Moment.before_eq_false_trans hback hfrom, List.forall_mem_nil _, fun l hl => ?_⟩
  cases hl
  rw [hdeadline]
  refine ⟨hreached, ?_⟩
  rw [Moment.later]
  split
  · exact Nat.le_refl _
  · exact Nat.le_of_eq htime

/-- A wait that goes on past a limit once its time has come. -/
theorem past {n : Nat} (h : wait.EndsAmid moment deadline limits n)
    (hback : moment.before now = false) (htime : moment.time = limit.time) :
    wait.EndsAmid now deadline (limit :: limits) (n + 1) := by
  refine ⟨Moment.before_eq_false_trans hback h.onward, fun l hl => ?_, h.next⟩
  rcases List.mem_cons.mp hl with rfl | hmem
  · exact htime ▸ Moment.time_le_of_before_eq_false h.onward
  · exact h.overlooked l hmem

end Wait.EndsAmid

section

variable {α : Type} (accept : Bytes → Except ReplyError (Option α)) {deadline limit now : Moment}
  {limits : List Moment}

/-- A wait whose deadline comes before the next limit ends before this limit. -/
theorem awaitReply_endsAmid (hnow : now.before limit = true)
    (hdeadline : deadline.before limit = true) (arrivals : List (Nat × Arrival))
    (last : Option (ReplyError × Bytes)) :
    (awaitReply accept deadline arrivals now last).EndsAmid now deadline (limit :: limits) 0 := by
  refine ⟨awaitReply_onward accept deadline arrivals now last, List.forall_mem_nil _,
    fun l hl => ?_⟩
  cases hl
  rw [hdeadline, Bool.not_true, Bool.and_false, if_neg Bool.false_ne_true]
  obtain ⟨hexpired, hended⟩ := awaitReply_moment accept deadline arrivals now last
  cases h : (awaitReply accept deadline arrivals now last).verdict.isExpired with
  | true =>
    rw [hexpired h]
    exact Moment.later_before hnow hdeadline
  | false =>
    exact Moment.before_of_before (hended h).1 (Moment.before_eq_false_of_before hdeadline)

/-- **A wait amid limits.** Where the limits are still to come, a wait ends as it should amid
them. -/
theorem awaitAmid_endsAmid (deadline : Moment) (limits : List Moment)
    (arrivals : List (Nat × Arrival)) (now : Moment) (last : Option (ReplyError × Bytes))
    (hahead : ∀ limit ∈ limits, now.before limit = true)
    (hordered : limits.Pairwise (·.time < ·.time)) :
    let found := awaitAmid accept deadline limits arrivals now last
    found.2.EndsAmid now deadline limits found.1 := by
  induction limits generalizing arrivals now last with
  | nil =>
    refine ⟨awaitReply_onward accept deadline arrivals now last, List.forall_mem_nil _, ?_⟩
    rintro _ ⟨⟩
  | cons limit limits ih =>
    have hnow := hahead limit List.mem_cons_self
    obtain ⟨hfirst, hothers⟩ := List.pairwise_cons.mp hordered
    rw [awaitAmid]
    split
    next hdeadline => exact awaitReply_endsAmid accept hnow hdeadline arrivals last
    next hdeadline =>
      obtain ⟨hexpired, hended⟩ := awaitReply_moment accept ⟨limit.time, 0⟩ arrivals now last
      rcases hwait : awaitReply accept ⟨limit.time, 0⟩ arrivals now last with
        ⟨verdict, moment, left⟩
      rw [hwait] at hexpired hended
      cases verdict with
      | answered a => exact .of_got rfl (hended rfl).1 (hended rfl).2
      | broken cause => exact .of_got rfl (hended rfl).1 (hended rfl).2
      | abandoned last => exact .of_got rfl (hended rfl).1 (hended rfl).2
      | expired last =>
        -- What came until the limit was all passed over. What comes just as it passes may follow.
        have hmoment : moment = now.later ⟨limit.time, 0⟩ := hexpired rfl
        have hback : moment.before now = false := hmoment ▸ (Moment.later_not_before _ _).1
        have htime : moment.time = limit.time := hmoment ▸ Moment.time_later hnow
        dsimp only
        split
        · have hahead' : ∀ l ∈ limits, moment.before l = true :=
            fun l hl => Moment.before_iff.mpr (.inl (htime ▸ hfirst l hl))
          exact (ih left moment last hahead' hothers).past hback htime
        · exact .of_cutOff (Bool.not_eq_true _ ▸ hdeadline) hback htime

end

end Replies

section Records

/-- A moment at which no limit has been felt yet. -/
structure Moment.Unfelt (m : Moment) (limits : List Moment) : Prop where
  ahead : ∀ limit ∈ limits.head?, m.before limit.felt = true
  ordered : limits.Pairwise (·.time < ·.time)

/-- What is left of limits that were overlooked once they had been reached. -/
structure Moment.Outlasts (m : Moment) (limits kept : List Moment) : Prop where
  overlooked : ∃ gone, limits = gone ++ kept ∧ ∀ limit ∈ gone, limit.time ≤ m.time
  ahead : ∀ limit ∈ kept.head?, m.before limit = true

/-- Once something is taken the limits that are left are still to come. -/
theorem Moment.Unfelt.outlasts {m : Moment} {limits : List Moment} (h : m.Unfelt limits) :
    m.Outlasts limits (m.outlasting limits) := by
  rw [outlasting]
  cases limits with
  | nil => exact ⟨⟨[], rfl, nofun⟩, nofun⟩
  | cons limit limits =>
    obtain ⟨hfirst, -⟩ := List.pairwise_cons.mp h.ordered
    have hfelt := before_iff.mp (h.ahead limit rfl)
    rw [time_felt] at hfelt
    rw [List.head?_cons, Option.any_some]
    cases hbefore : m.before limit with
    | true => exact ⟨⟨[], rfl, nofun⟩, fun l hl => by cases hl; exact hbefore⟩
    | false =>
      rw [← Bool.not_eq_true, before_iff] at hbefore
      refine ⟨⟨[limit], rfl, fun l hl => ?_⟩, fun l hl => before_iff.mpr (.inl ?_)⟩
      · rw [List.mem_singleton.mp hl]
        omega
      · have hlater := hfirst l (List.mem_of_head? hl)
        omega

/-- How a wait for a record ends that began at a moment. Limits that were overlooked have been
reached. If it was cut off the next limit has been reached, and else it is still to come. -/
structure RecordWait.EndsAmid (wait : RecordWait) (now : Moment) (limits : List Moment) :
    Prop where
  onward : wait.moment.before now = false
  overlooked : ∃ gone, limits = gone ++ wait.limits ∧ ∀ limit ∈ gone, limit.time ≤ wait.moment.time
  bounded : wait.ending.isCutOff = true → wait.limits ≠ []
  next : ∀ limit ∈ wait.limits.head?,
    if wait.ending.isCutOff then
      wait.moment.before limit = false ∧ wait.moment.time ≤ limit.time
    else wait.moment.before limit = true

section

variable {now : Moment} {limits : List Moment} {ending : Ending (Option Record)}

/-- A record that is there already is taken at once. -/
theorem taken_endsAmid (hahead : ∀ limit ∈ limits.head?, now.before limit = true) (r : Record)
    (chunks : List Chunk) (buffer : RecordBuffer) :
    (⟨.done (some r), now, chunks, buffer, limits⟩ : RecordWait).EndsAmid now limits :=
  ⟨now.before_self, ⟨[], rfl, nofun⟩, nofun, hahead⟩

/-- Once something was taken no limit has been felt. -/
theorem Moment.Unfelt.kept {kept : List Moment} (h : now.Unfelt limits)
    (houtlasts : now.Outlasts limits kept) : now.Unfelt kept := by
  obtain ⟨gone, hlimits, -⟩ := houtlasts.overlooked
  have hordered := h.ordered
  rw [hlimits] at hordered
  exact ⟨fun l hl => Moment.before_felt (houtlasts.ahead l hl),
    (List.pairwise_append.mp hordered).2.1⟩

/-- A wait that goes on once something was taken. -/
theorem Moment.Outlasts.endsAmid {kept : List Moment} {wait : RecordWait}
    (h : now.Outlasts limits kept) (hwait : wait.EndsAmid now kept) :
    wait.EndsAmid now limits := by
  obtain ⟨gone, hlimits, hreached⟩ := h.overlooked
  obtain ⟨honward, ⟨later, hkept, hlater⟩, hbounded, hnext⟩ := hwait
  refine ⟨honward, ⟨gone ++ later, ?_, fun l hl => ?_⟩, hbounded, hnext⟩
  · rw [hlimits, hkept, List.append_assoc]
  · rcases List.mem_append.mp hl with hmem | hmem
    · exact Nat.le_trans (hreached l hmem) (Moment.time_le_of_before_eq_false honward)
    · exact hlater l hmem

/-- A wait that a limit cuts off. -/
theorem Moment.Unfelt.cutOff {limit : Moment} (h : now.Unfelt limits)
    (hlimit : limits.head? = some limit) (rest : List Chunk) (buffer : RecordBuffer) :
    (⟨.cutOff, now.later limit, rest, buffer, limits⟩ : RecordWait).EndsAmid now limits := by
  have hfelt := Moment.before_iff.mp (h.ahead limit hlimit)
  rw [Moment.time_felt] at hfelt
  refine ⟨(Moment.later_not_before now limit).1, ⟨[], rfl, nofun⟩, fun _ hnone => ?_,
    fun l hl => ?_⟩
  · rw [show limits = [] from hnone] at hlimit
    cases hlimit
  · rw [show limits.head? = some l from hl] at hlimit
    cases hlimit
    refine ⟨(Moment.later_not_before now _).2, ?_⟩
    dsimp only
    rw [Moment.later]
    split
    · exact Nat.le_refl _
    · omega

/-- A wait that is over at once. -/
theorem Moment.Unfelt.over (h : now.Unfelt limits) (hending : ending.isCutOff = false)
    (rest : List Chunk) (buffer : RecordBuffer) :
    (⟨ending, now, rest, buffer, now.outlasting limits⟩ : RecordWait).EndsAmid now limits := by
  obtain ⟨hover, hahead⟩ := h.outlasts
  refine ⟨now.before_self, hover, fun hcut => ?_, fun l hl => ?_⟩
  · rw [hending] at hcut
    cases hcut
  · rw [hending]
    exact hahead l hl

end

/-- **A wait for a record.** Where no limit has been felt yet, and none has been reached if a record
is there already, a wait for a record ends as it should amid the limits. -/
theorem awaitRecord_endsAmid (limits : List Moment) (chunks : List Chunk) (now : Moment)
    (buffer : RecordBuffer) (hunfelt : now.Unfelt limits)
    (hready : buffer.next? ≠ none → ∀ limit ∈ limits.head?, now.before limit = true) :
    (awaitRecord limits chunks now buffer).EndsAmid now limits := by
  have hend (buffer : RecordBuffer) : (endOfStream buffer).isCutOff = false := by
    rw [endOfStream]
    split <;> rfl
  induction chunks generalizing limits now buffer with
  | nil =>
    unfold awaitRecord
    split
    next hnext => exact taken_endsAmid (hready (hnext ▸ Option.some_ne_none _)) _ _ _
    next => exact hunfelt.over (hend buffer) [] buffer
  | cons chunk rest ih =>
    unfold awaitRecord
    split
    next hnext => exact taken_endsAmid (hready (hnext ▸ Option.some_ne_none _)) _ _ _
    next hnext =>
      cases chunk with
      | octets data =>
        cases data with
        | nil => exact hunfelt.over (hend buffer) rest buffer
        | cons b bs =>
          have houtlasts := hunfelt.outlasts
          exact houtlasts.endsAmid
            (ih _ _ _ (hunfelt.kept houtlasts) fun _ => houtlasts.ahead)
      | pause ticks =>
        have hback := Moment.before_eq_false_of_before (now.before_afterPause ticks)
        dsimp only
        split
        next limit hlimit =>
          obtain ⟨hhead, -⟩ := Option.filter_eq_some_iff.mp hlimit
          exact hunfelt.cutOff hhead _ _
        next hlimit =>
          have hunfelt' : (now.afterPause ticks).Unfelt limits := by
            refine ⟨fun l hl => ?_, hunfelt.ordered⟩
            rw [hl, Option.filter_some] at hlimit
            simpa using hlimit
          obtain ⟨honward, hover, hbounded, hnext'⟩ :=
            ih limits _ buffer hunfelt' fun h => absurd hnext h
          exact ⟨Moment.before_eq_false_trans hback honward, hover, hbounded, hnext'⟩
      | fault cause => exact hunfelt.over rfl rest buffer

end Records

namespace Run

open World

variable {α : Type} {endless : Prop} {x : Run α} {w : World}

/-- Sending a datagram heeds limits. -/
theorem heeds_sendDatagram (i : Nat) (data : Bytes) : Heeds endless (sendDatagram i data) := by
  refine heeds_of_still fun w => ?_
  rw [sendDatagram]
  dsimp only
  split <;> exact ⟨rfl, rfl, rfl, rfl⟩

/-- An exchange heeds limits. -/
theorem heeds_exchangeRaw (i : Nat) (data : Bytes)
    (accept : Bytes → Except ReplyError (Option α)) (timeout : Option Binary64) :
    Heeds endless (exchangeRaw i data accept timeout) := by
  refine (heeds_read _).bind fun e => (heeds_read _).bind fun deadline =>
    (heeds_sendDatagram i data).bind fun _ w hw => ?_
  obtain ⟨honward, hover, hnext⟩ := awaitAmid_endsAmid accept deadline w.limits
    (w.endpoint i).pending w.now none hw.ahead hw.ordered
  dsimp only [HeedsAt]
  generalize awaitAmid accept deadline w.limits (w.endpoint i).pending w.now none = found
    at honward hover hnext ⊢
  obtain ⟨n, wait⟩ := found
  generalize hv : { w.setEndpoint i { w.endpoint i with pending := wait.left } with
    now := wait.moment } = v
  obtain ⟨hnow, hlimits, hoverlooked⟩ :
      v.now = wait.moment ∧ v.limits = w.limits ∧ v.overlooked = w.overlooked := by
    rw [← hv]
    exact ⟨rfl, rfl, rfl⟩
  have helapses : w.Elapses (v.overlooking n) :=
    elapses_overlooking_later (hnow ▸ honward) hlimits hoverlooked (hnow ▸ hover)
  have hordered := hw.ordered.sublist helapses.limits
  have hhead : (v.overlooking n).limits.head? = (w.limits.drop n).head? := by
    rw [← hlimits]
    rfl
  -- Where no limit passes before the deadline, a wait that expires ends at the deadline.
  have htimely (hended : wait.verdict.isExpired = true → w.now.before deadline = true →
      (v.overlooking n).limitPassesBy deadline = false) : (v.overlooking n).Timely := by
    refine timely_of_head (fun l hl => ?_) hordered
    have hnext := hnext l (hhead ▸ hl)
    split at hnext
    next hcut =>
      rw [Bool.and_eq_true, Bool.not_eq_true'] at hcut
      have hnear := hw.ahead l (List.mem_of_mem_drop (List.mem_of_head? (hhead ▸ hl)))
      have hopen := hended hcut.1 (Moment.before_of_before hnear hcut.2)
      rw [limitPassesBy, World.limit, hl, Option.any_some, hcut.2] at hopen
      cases hopen
    next => exact hnow ▸ hnext
  cases hverdict : wait.verdict with
  | answered a => exact ⟨helapses, htimely (by simp [hverdict, Verdict.isExpired])⟩
  | broken cause => exact ⟨helapses, htimely (by simp [hverdict, Verdict.isExpired])⟩
  | abandoned last => exact ⟨helapses, htimely (by simp [hverdict, Verdict.isExpired])⟩
  | expired last =>
    dsimp only
    split
    next hcut =>
      obtain ⟨-, hpasses⟩ := Bool.and_eq_true_iff.mp hcut
      rw [limitPassesBy] at hpasses
      cases hlimit : (v.overlooking n).limit with
      | none =>
        rw [hlimit] at hpasses
        cases hpasses
      | some limit =>
        rw [hlimit, Option.any_some] at hpasses
        have hreached := hnext limit (hhead ▸ hlimit)
        rw [hverdict, Verdict.isExpired, Bool.true_and, if_pos hpasses, ← hnow] at hreached
        exact ⟨helapses, overdue_of_reached hlimit hreached.1 hreached.2 hordered⟩
    next hcut => exact ⟨helapses, htimely fun _ hwaits => by simpa [hwaits] using hcut⟩

/-- Under a limit, taking the next arrival heeds it. -/
theorem heedsAt_nextArrival (i : Nat) (hw : w.Timely) (hlimits : w.limits ≠ []) :
    HeedsAt endless (nextArrival i) w := by
  have hforever : HeedsAt endless (waitForever : Run Arrival) w :=
    heedsAt_waitForever hw fun hnone => absurd hnone hlimits
  rw [HeedsAt, nextArrival]
  split
  · exact hforever
  next time a rest hpending =>
    dsimp only
    split
    · exact hforever
    next hopen =>
      have hbefore (l : Moment) (hl : l ∈ w.limits.head?) :
          (w.now.reaching time).before l = true := by
        rw [limitPassesBy, World.limit, hl, Option.any_some, Bool.not_eq_true',
          Bool.not_eq_false] at hopen
        exact hopen
      exact ⟨elapses_of_later (w.now.reaching_before_self time) rfl rfl,
        timely_of_head hbefore hw.ordered⟩

/-- Receiving heeds limits. -/
theorem heeds_receiveArrival (i : Nat) (timeout : Option Binary64) :
    Heeds endless (receiveArrival i timeout) := by
  refine (heeds_read _).bind fun e =>
    (heeds_within _ fun w hw hlimits => heedsAt_nextArrival i hw hlimits).bind fun taken => ?_
  cases taken with
  | none => exact heeds_fail _
  | some a => exact heeds_pure _

/-- Everything that is done on an endpoint heeds limits. -/
theorem OnEndpoint.heeds {i : Nat} (h : OnEndpoint i α x) : Heeds endless x := by
  cases h with
  | send data => exact heeds_sendDatagram i data
  | receive timeout => exact heeds_receiveArrival i timeout
  | exchange data accept timeout => exact heeds_exchangeRaw i data accept timeout
  | look f => exact heeds_read _
  | anything timeout =>
    refine (heeds_receiveArrival i timeout).bind fun received => ?_
    obtain ⟨address, arrival⟩ := received
    cases arrival with
    | datagram data => exact heeds_pure _
    | socketError cause =>
      dsimp only
      cases cause.filter (·.kind.isA .interrupt) with
      | some f => exact heeds_pure _
      | none => exact heeds_fail _

/-- Receiving a record heeds limits. -/
theorem heeds_receiveRecord (i : Nat) : Heeds endless (receiveRecord i) := by
  intro w hw
  have hunfelt : w.now.Unfelt w.limits :=
    ⟨fun l hl => Moment.before_felt (hw.ahead l (List.mem_of_mem_head? hl)), hw.ordered⟩
  obtain ⟨honward, ⟨gone, hlimits, hreached⟩, hbounded, hnext⟩ :=
    awaitRecord_endsAmid w.limits (w.stream i).chunks w.now (w.stream i).buffer hunfelt
      fun _ l hl => hw.ahead l (List.mem_of_mem_head? hl)
  rw [HeedsAt, receiveRecord]
  dsimp only
  generalize awaitRecord w.limits (w.stream i).chunks w.now (w.stream i).buffer = wait
    at honward hlimits hreached hbounded hnext ⊢
  generalize hv : { w.setStream i { w.stream i with chunks := wait.chunks, buffer := wait.buffer }
    with now := wait.moment } = v
  obtain ⟨hnow, hlimits', hoverlooked⟩ :
      v.now = wait.moment ∧ v.limits = gone ++ wait.limits ∧ v.overlooked = w.overlooked := by
    rw [← hv]
    exact ⟨rfl, hlimits, rfl⟩
  have hlength : w.limits.length - wait.limits.length = gone.length := by simp [hlimits]
  change w.Elapses (v.overlooking (w.limits.length - wait.limits.length)) ∧
    wait.ending.InTime endless (v.overlooking (w.limits.length - wait.limits.length))
  rw [hlength]
  have hleft : (v.overlooking gone.length).limits = wait.limits := by
    rw [overlooking, hlimits', List.drop_left]
  have helapses : w.Elapses (v.overlooking gone.length) := by
    refine elapses_overlooking_later (hnow ▸ honward) (hlimits'.trans hlimits.symm) hoverlooked
      fun l hl => ?_
    rw [hlimits, List.take_left] at hl
    rw [hnow]
    exact hreached l hl
  have hordered := hw.ordered.sublist helapses.limits
  have htimely (hended : wait.ending.isCutOff = false) : (v.overlooking gone.length).Timely := by
    refine timely_of_head (fun l hl => ?_) hordered
    have hahead := hnext l (hleft ▸ hl)
    rw [hended] at hahead
    exact hnow ▸ hahead
  refine ⟨helapses, ?_⟩
  cases hending : wait.ending with
  | done found => exact htimely (hending ▸ rfl)
  | failed f => exact htimely (hending ▸ rfl)
  | cutOff =>
    rw [hending] at hbounded
    obtain ⟨limit, others, hlimit⟩ := List.exists_cons_of_ne_nil (hbounded rfl)
    have hhead : (v.overlooking gone.length).limit = some limit := by
      rw [World.limit, hleft, hlimit]
      rfl
    have hcut := hnext limit (by rw [hlimit]; rfl)
    rw [hending, ← hnow] at hcut
    exact overdue_of_reached hhead hcut.1 hcut.2 hordered

end Run

end TimeProbe

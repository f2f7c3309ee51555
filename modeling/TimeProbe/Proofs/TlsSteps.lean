import TimeProbe.Proofs.RefusedCases
import TimeProbe.Tls.Stream

/-!
# Steps of a TLS stream

What an engine says is written to the connection, and what arrives there is given to the engine.
Both take time, and both can fail. Here are the worlds in which such a step ends if all goes well,
and the ends that it has otherwise.
-/

namespace TimeProbe

namespace Tls

variable {inTime : Moment → Bool} {chunks later : List Chunk} {m : Moment}

/-- What an engine says until it wants to read or has nothing to say, and its answers after that. -/
def said : List (Answer Bytes) → Bytes × List (Answer Bytes)
  | [] => ([], [])
  | .value (b :: bs) :: rest => (b :: bs ++ (said rest).1, (said rest).2)
  | _ :: rest => ([], rest)

/-- What a read meets first that is not a pause, with what follows and the moment it is met, if
every pause until then ends in time. -/
def firstArrival (inTime : Moment → Bool) :
    List Chunk → Moment → Option (Except Fault Bytes × List Chunk × Moment)
  | [], _ => none
  | .octets data :: rest, m => some (.ok data, rest, m)
  | .fault cause :: rest, m => some (.error cause, rest, m)
  | .pause ticks :: rest, m =>
    if inTime (m.afterPause ticks) then firstArrival inTime rest (m.afterPause ticks) else none

/-- A fault that is met first is one of those that are met. -/
theorem mem_of_firstArrival {f : Fault} {stop : Moment}
    (h : firstArrival inTime chunks m = some (.error f, later, stop)) : .fault f ∈ chunks := by
  induction chunks generalizing m with
  | nil => cases h
  | cons chunk rest ih =>
    cases chunk with
    | octets data => cases h
    | fault cause =>
      cases h
      exact List.mem_cons_self
    | pause ticks =>
      rw [firstArrival] at h
      split at h
      · exact List.mem_cons_of_mem _ (ih h)
      · cases h

/-- What is met first is met at once or in time. -/
theorem inTime_of_firstArrival {r : Except Fault Bytes} {stop : Moment}
    (h : firstArrival inTime chunks m = some (r, later, stop)) : stop = m ∨ inTime stop = true := by
  induction chunks generalizing m with
  | nil => cases h
  | cons chunk rest ih =>
    cases chunk with
    | octets data =>
      cases h
      exact .inl rfl
    | fault cause =>
      cases h
      exact .inl rfl
    | pause ticks =>
      rw [firstArrival] at h
      split at h
      next hpause =>
        obtain rfl | hstop := ih h
        · exact .inr hpause
        · exact .inr hstop
      next => cases h

namespace Wire

/-- The wire after the engine was given what arrived, with what arrives later. -/
def supplied (w : Wire) (data : Bytes) (later : List Chunk) : Wire :=
  { w with arriving := later, acts := w.acts ++ [.deliver data] }

/-- The wire after the engine was heard and what it said was written, if it said something. -/
def heard (w : Wire) : Wire :=
  if (said w.outgoing).1 = [] then { w with outgoing := (said w.outgoing).2 }
  else
    { w with
      outgoing := (said w.outgoing).2
      drains := w.drains.tail
      acts := w.acts ++ [.write (said w.outgoing).1] }

end Wire

end Tls

/-- How the network ends a step that belongs to a handshake: with a fault of a read, a write or an
early end, or because time is up. -/
inductive Ending.Broken {α : Type} : Ending α → Prop
  | failed {f : Fault} (kind : f.kind = .transport ∨ f.kind = .receiveTimeout ∨
      f.kind = .unexpectedClose) : Broken (.failed f)
  | cutOff : Broken .cutOff

namespace World

/-- The world after something was done and recorded. -/
def recording (w : World) (a : Tls.Act) : World :=
  { w with wire := { w.wire with acts := w.wire.acts ++ [a] } }

/-- The moment by which a read with a timeout has to get something: the one at which its own timer
goes off or, if a limit around it passes no later, the one at which that limit is felt. -/
def readsUntil (w : World) (timeout : Binary64) : Moment :=
  match w.limit with
  | some limit =>
    if limit.time ≤ (w.now.afterTimeout timeout).time then limit.felt
    else w.now.afterTimeout timeout
  | none => w.now.afterTimeout timeout

/-- Whether a read with a timeout can still go on at a moment. -/
def readsAt (w : World) (timeout : Binary64) (m : Moment) : Bool := m.before (w.readsUntil timeout)

/-- The moment at which the output has drained. -/
def drainedAt (w : World) : Moment := w.drainTicks.head?.elim w.now w.now.afterPause

/-- The world after what the engine says was written, if it drains in time and without a fault. -/
def written (w : World) : Option World :=
  if (Tls.said w.wire.outgoing).1 = [] then some { w with wire := w.wire.heard }
  else if w.wire.drains.head?.join = none ∧
      (w.drainTicks = [] ∨ w.limitPassesBy w.drainedAt = false) then
    some { w with
      wire := w.wire.heard
      now := w.drainedAt
      drainTicks := w.drainTicks.tail }
  else none

/-- The world after ciphertext was read within a timeout, if there is some in time. A limit that
passes just as it comes is overlooked from then on. -/
def supplied (w : World) (timeout : Binary64) : Option World :=
  match Tls.firstArrival (w.readsAt timeout) w.wire.arriving w.now with
  | some (.ok (b :: bs), later, m) =>
    some { w with now := m, wire := w.wire.supplied (b :: bs) later }.served
  | _ => none

/-- A moment that comes before the limit is not put forward. -/
theorem limitOr_of_not_passed {w : World} {m : Moment} (h : w.limitPassesBy m = false) :
    w.limitOr m = m := by
  rw [limitPassesBy] at h
  rw [limitOr]
  cases hlimit : w.limit with
  | none => rfl
  | some limit =>
    rw [hlimit, Option.any_some, Bool.not_eq_false'] at h
    exact if_pos h

/-- A read goes on as long as no limit passes, if the one that counts is the last one for it. -/
theorem readsAt_eq {w : World} {timeout : Binary64} {stop : Moment} (others : List Moment)
    (h : w.readsUntil timeout = stop) :
    w.readsAt timeout =
      fun m => !({ w with limits := stop :: others } : World).limitPassesBy m := by
  funext m
  rw [readsAt, h, limitPassesBy, limit, List.head?_cons, Option.any_some, Bool.not_not]

end World

namespace Run

open TimeProbe.Tls

variable {α β : Type} {s : Stream} {timeout : Binary64} {w w' : World}

/-- What is read from the world is handed on in the same world. -/
@[simp] theorem read_bind (f : World → α) (next : α → Run β) (w : World) :
    (read f >>= next) w = next (f w) w := rfl

/-- A row goes on with the wire changed. -/
@[simp] theorem rewire_bind (f : Wire → Wire) (next : Unit → Run β) (w : World) :
    (rewire f >>= next) w = next () { w with wire := f w.wire } := rfl

/-- A row goes on with something recorded. -/
@[simp] theorem act_bind (a : Act) (next : Unit → Run β) (w : World) :
    (act a >>= next) w = next () (w.recording a) := rfl

/-- The engine is heard up to the place where it wants to read. -/
theorem gather_eq {answers : List (Answer Bytes)} (hspeaking : ∀ f, .fault f ∉ answers)
    (gathered : Bytes) (w : World) :
    gather answers gathered w = (.done (gathered ++ (said answers).1),
      { w with wire := { w.wire with outgoing := (said answers).2 } }) := by
  induction answers generalizing gathered with
  | nil => simp [gather, said, rewire, Bind.bind, Run.bind, Pure.pure, Run.pure, update]
  | cons answer rest ih =>
    have hrest : ∀ f, .fault f ∉ rest := fun f h => hspeaking f (List.mem_cons_of_mem _ h)
    cases answer with
    | value data =>
      cases data with
      | nil => simp [gather, said, rewire, Bind.bind, Run.bind, Pure.pure, Run.pure, update]
      | cons b bs =>
        rw [gather, ih hrest]
        simp [said]
    | wantRead => simp [gather, said, rewire, Bind.bind, Run.bind, Pure.pure, Run.pure, update]
    | fault f => exact absurd List.mem_cons_self (hspeaking f)

/-- A pause that ends before the limit passes. -/
theorem pause_of_not_passed {ticks : Nat}
    (h : w.limitPassesBy (w.now.afterPause ticks) = false) :
    pause ticks w = (.done (), { w with now := w.now.afterPause ticks }) := by
  rw [pause, h, if_neg Bool.false_ne_true, World.limitOr_of_not_passed h]

/-- A pause that is still going on when the limit passes. -/
theorem pause_of_passed {ticks : Nat} (h : w.limitPassesBy (w.now.afterPause ticks) = true) :
    ∃ w', pause ticks w = (.cutOff, w') := by
  rw [pause, h, if_pos rfl]
  exact ⟨_, rfl⟩

/-- A read meets what arrives first, if it arrives before the limit passes. -/
theorem readOctets_of_arrival {chunks later : List Chunk} {r : Except Fault Bytes} {m : Moment}
    (h : firstArrival (fun m => !w.limitPassesBy m) chunks w.now = some (r, later, m)) :
    readOctets chunks w =
      ofExcept r { w with now := m, wire := { w.wire with arriving := later } } := by
  induction chunks generalizing w with
  | nil => cases h
  | cons chunk rest ih =>
    cases chunk with
    | octets data =>
      cases h
      rfl
    | fault cause =>
      cases h
      rfl
    | pause ticks =>
      rw [firstArrival] at h
      split at h
      next hin =>
        rw [Bool.not_eq_true'] at hin
        have hread := ih (w := { w with
          now := w.now.afterPause ticks, wire := { w.wire with arriving := rest } }) h
        rw [readOctets, rewire_bind]
        refine Eq.trans (bind_done (pause_of_not_passed ?_) _) hread
        exact hin
      next => cases h

/-- A read during which nothing arrives before the limit passes is cut off. -/
theorem readOctets_of_none {chunks : List Chunk}
    (h : firstArrival (fun m => !w.limitPassesBy m) chunks w.now = none) :
    ∃ w', readOctets chunks w = (.cutOff, w') := by
  induction chunks generalizing w with
  | nil => exact ⟨_, rfl⟩
  | cons chunk rest ih =>
    cases chunk with
    | octets data => cases h
    | fault cause => cases h
    | pause ticks =>
      rw [firstArrival] at h
      rw [readOctets, rewire_bind]
      cases hpassed : w.limitPassesBy (w.now.afterPause ticks) with
      | false =>
        rw [hpassed, Bool.not_false, if_pos rfl] at h
        obtain ⟨w', hread⟩ := ih (w := { w with
          now := w.now.afterPause ticks, wire := { w.wire with arriving := rest } }) h
        refine ⟨w', Eq.trans (bind_done (pause_of_not_passed ?_) _) hread⟩
        exact hpassed
      | true =>
        obtain ⟨w', hcut⟩ := pause_of_passed (w := { w with
          wire := { w.wire with arriving := rest } }) hpassed
        exact ⟨w', bind_cutOff hcut _⟩

/-- A step within a timeout runs under the limit that counts for it: the one around it if that
passes no later than the timeout, and is felt then, or else the one that the timeout sets. -/
theorem within_bounds_cases (hstart : timeout.letsStart = true) (x : Run α) (w : World) :
    (∃ limit others, w.limits = limit :: others ∧ w.readsUntil timeout = limit.felt ∧
      within timeout x w = match x { w with limits := limit.felt :: others } with
        | (.done a, v) => (.done (some a), (v.replacingLimit limit.felt limit).served)
        | (.failed f, v) => (.failed f, (v.replacingLimit limit.felt limit).served)
        | (.cutOff, v) => (.cutOff, v.replacingLimit limit.felt limit)) ∨
    w.readsUntil timeout = w.now.afterTimeout timeout ∧
      w.limit.any (·.time ≤ (w.now.afterTimeout timeout).time) = false ∧
      within timeout x w = match x { w with limits := w.now.afterTimeout timeout :: w.limits } with
        | (.done a, v) => (.done (some a), v.replacingLimit (w.now.afterTimeout timeout) none)
        | (.failed f, v) => (.failed f, v.replacingLimit (w.now.afterTimeout timeout) none)
        | (.cutOff, v) =>
          (if v.limit = w.now.afterTimeout timeout then .done none else .cutOff,
            v.replacingLimit (w.now.afterTimeout timeout) none) := by
  rw [Binary64.letsStart_eq, Bool.not_eq_true'] at hstart
  rw [within, hstart, if_neg Bool.false_ne_true]
  dsimp only
  cases hinner : w.limit.any (·.time ≤ (w.now.afterTimeout timeout).time) with
  | true =>
    refine .inl ?_
    cases hlimits : w.limits with
    | nil =>
      rw [World.limit, hlimits] at hinner
      cases hinner
    | cons limit others =>
      have hlimit : w.limit = some limit := by rw [World.limit, hlimits]; rfl
      rw [hlimit, Option.any_some, decide_eq_true_eq] at hinner
      refine ⟨limit, others, rfl, ?_, ?_⟩
      · rw [World.readsUntil, hlimit]
        exact if_pos hinner
      · rw [if_pos rfl, waiting, hlimit, Option.map_some, World.replacingLimit_of_eq hlimits]
        dsimp only [Option.toList_some, List.singleton_append]
        rcases x { w with limits := limit.felt :: others } with ⟨_ | _ | _, v⟩ <;> rfl
  | false =>
    refine .inr ⟨?_, rfl, rfl⟩
    rw [World.readsUntil]
    cases hlimit : w.limit with
    | none => rfl
    | some limit =>
      rw [hlimit, Option.any_some, decide_eq_false_iff_not] at hinner
      exact if_neg hinner

/-- A read within a timeout meets what arrives first, if it arrives in time. A limit that passes
just then is overlooked. -/
theorem within_readOctets_of_arrival {chunks later : List Chunk} {r : Except Fault Bytes}
    {m : Moment} (hstart : timeout.letsStart = true)
    (h : firstArrival (w.readsAt timeout) chunks w.now = some (r, later, m)) :
    within timeout (readOctets chunks) w =
      (ofExcept r >>= fun data v => (.done (some data), v))
        { w with now := m, wire := { w.wire with arriving := later } }.served := by
  rcases within_bounds_cases hstart (readOctets chunks) w with
    ⟨limit, others, hlimits, huntil, hwithin⟩ | ⟨huntil, houter, hwithin⟩
  · rw [World.readsAt_eq others huntil] at h
    rw [hwithin, readOctets_of_arrival h]
    have hback : { w with
          now := m, limits := limit.felt :: others
          wire := { w.wire with arriving := later } }.replacingLimit limit.felt limit =
        { w with now := m, wire := { w.wire with arriving := later } } := by
      rw [World.replacingLimit_of_eq rfl]
      exact congrArg (fun limits => { w with
        now := m, limits, wire := { w.wire with arriving := later } }) hlimits.symm
    cases r with
    | ok data => exact congrArg (fun v => (Ending.done (some data), v.served)) hback
    | error f => exact congrArg (fun v => (Ending.failed f, v.served)) hback
  · have hpassed := inTime_of_firstArrival h
    rw [World.readsAt_eq w.limits huntil] at h
    rw [hwithin, readOctets_of_arrival h]
    -- The limits around the read pass behind its own, so that none of them has been reached.
    have hserved : { w with now := m, wire := { w.wire with arriving := later } }.served =
        { w with now := m, wire := { w.wire with arriving := later } } := by
      have hown := Moment.before_iff.mp (w.now.before_afterTimeout timeout)
      have hnow : m.time ≤ (w.now.afterTimeout timeout).time := by
        rcases hpassed with rfl | hbefore
        · omega
        · rw [World.readsAt, huntil, Moment.before_iff] at hbefore
          omega
      refine World.served_of_open ?_
      cases hlimit : w.limit with
      | none => exact congrArg (Option.any _) hlimit
      | some limit =>
        rw [hlimit, Option.any_some, decide_eq_false_iff_not] at houter
        exact (congrArg (Option.any _) hlimit).trans
          (decide_eq_false fun hle : limit.time ≤ m.time => houter (Nat.le_trans hle hnow))
    rw [hserved]
    cases r with
    | ok data => exact congrArg (Prod.mk _) (World.replacingLimit_of_eq rfl none)
    | error f => exact congrArg (Prod.mk _) (World.replacingLimit_of_eq rfl none)

/-- A read within a timeout during which nothing arrives has no result, or is cut off. -/
theorem within_readOctets_of_none {chunks : List Chunk} (hstart : timeout.letsStart = true)
    (h : firstArrival (w.readsAt timeout) chunks w.now = none) :
    ∃ w', within timeout (readOctets chunks) w = (.done none, w') ∨
      within timeout (readOctets chunks) w = (.cutOff, w') := by
  rcases within_bounds_cases hstart (readOctets chunks) w with
    ⟨limit, others, -, huntil, hwithin⟩ | ⟨huntil, -, hwithin⟩
  · rw [World.readsAt_eq others huntil] at h
    obtain ⟨v, hcut⟩ := readOctets_of_none h
    rw [hwithin, hcut]
    exact ⟨_, .inr rfl⟩
  · rw [World.readsAt_eq w.limits huntil] at h
    obtain ⟨v, hcut⟩ := readOctets_of_none h
    rw [hwithin, hcut]
    dsimp only
    split
    · exact ⟨_, .inl rfl⟩
    · exact ⟨_, .inr rfl⟩

/-- A result needs no other words. -/
theorem explaining_done {words : Fault → Fault} {x : Run α} {a : α} (h : x w = (.done a, w')) :
    explaining words x w = (.done a, w') := bind_done (attempt_done h) _

/-- A fault is told in other words. -/
theorem explaining_failed {words : Fault → Fault} {x : Run α} {f : Fault}
    (h : x w = (.failed f, w')) : explaining words x w = (.failed (words f), w') :=
  bind_done (attempt_failed h) _

/-- A step that is cut off has nothing to tell. -/
theorem explaining_cutOff {words : Fault → Fault} {x : Run α} (h : x w = (.cutOff, w')) :
    explaining words x w = (.cutOff, w') := bind_cutOff (attempt_cutOff h) _

/-- Output that drains before the limit passes. -/
theorem awaitDrained_of_not_passed
    (h : w.drainTicks = [] ∨ w.limitPassesBy w.drainedAt = false) :
    awaitDrained w =
      (.done (), { w with now := w.drainedAt, drainTicks := w.drainTicks.tail }) := by
  rw [awaitDrained, read_bind]
  rw [World.drainedAt] at h ⊢
  cases hticks : w.drainTicks with
  | nil =>
    show (Ending.done (), w) = (Ending.done (), { w with drainTicks := [] })
    rw [← hticks]
  | cons ticks rest =>
    rw [hticks] at h
    have hopen := h.resolve_left (List.cons_ne_nil _ _)
    exact pause_of_not_passed (w := { w with drainTicks := rest }) hopen

/-- Output that is still draining when the limit passes. -/
theorem awaitDrained_of_passed (hticks : w.drainTicks ≠ [])
    (h : w.limitPassesBy w.drainedAt = true) : ∃ w', awaitDrained w = (.cutOff, w') := by
  rw [awaitDrained, read_bind]
  rw [World.drainedAt] at h
  cases hdrain : w.drainTicks with
  | nil => exact absurd hdrain hticks
  | cons ticks rest =>
    rw [hdrain] at h
    exact pause_of_passed (w := { w with drainTicks := rest }) h

/-- An engine that says nothing leaves nothing to write. -/
theorem flush_of_silent (hspeaking : ∀ f, .fault f ∉ w.wire.outgoing)
    (hsilent : (said w.wire.outgoing).1 = []) :
    flush s w = (.done (), { w with wire := w.wire.heard }) := by
  rw [flush, read_bind, bind_done (gather_eq hspeaking [] w), List.nil_append, hsilent,
    Wire.heard, if_pos hsilent]
  rfl

/-- What the engine says is written and has to drain. -/
theorem flush_of_speech (hspeaking : ∀ f, .fault f ∉ w.wire.outgoing)
    (hspeech : (said w.wire.outgoing).1 ≠ []) :
    flush s w = explaining (s.writeFault (said w.wire.outgoing).1.length)
      (awaitDrained >>= fun _ => suffer w.wire.drains.head?.join)
      { w with wire := w.wire.heard } := by
  have hempty : (said w.wire.outgoing).1.isEmpty = false := by
    rwa [List.isEmpty_eq_false_iff]
  rw [flush, read_bind, bind_done (gather_eq hspeaking [] w), List.nil_append, hempty,
    Wire.heard, if_neg hspeech]
  rfl

/-- What the engine says is written if it drains in time and without a fault. -/
theorem flush_of_written (hspeaking : ∀ f, .fault f ∉ w.wire.outgoing)
    (h : w.written = some w') : flush s w = (.done (), w') := by
  rw [World.written] at h
  by_cases hsilent : (said w.wire.outgoing).1 = []
  · rw [if_pos hsilent] at h
    cases h
    exact flush_of_silent hspeaking hsilent
  · rw [if_neg hsilent] at h
    split at h
    next hdrained =>
      cases h
      obtain ⟨hfault, hopen⟩ := hdrained
      rw [flush_of_speech hspeaking hsilent, hfault]
      exact explaining_done (bind_done
        (awaitDrained_of_not_passed (w := { w with wire := w.wire.heard }) hopen) _)
    next => cases h

/-- What the engine says and what does not drain in time, or not without a fault, breaks the step
off. -/
theorem flush_of_not_written (hspeaking : ∀ f, .fault f ∉ w.wire.outgoing)
    (hdraining : ∀ f, some f ∈ w.wire.drains → f.kind.isA .os = true) (h : w.written = none) :
    (∃ f w', flush s w = (.failed f, w') ∧ f.kind = .transport) ∨
      w.limit ≠ none ∧ ∃ w', flush s w = (.cutOff, w') := by
  rw [World.written] at h
  by_cases hsilent : (said w.wire.outgoing).1 = []
  · rw [if_pos hsilent] at h
    cases h
  rw [if_neg hsilent, ite_eq_right_iff] at h
  rw [flush_of_speech hspeaking hsilent]
  by_cases hopen : w.drainTicks = [] ∨ w.limitPassesBy w.drainedAt = false
  · have hdone := awaitDrained_of_not_passed (w := { w with wire := w.wire.heard }) hopen
    cases hfault : w.wire.drains.head?.join with
    | none => exact absurd (h ⟨hfault, hopen⟩) (Option.some_ne_none _)
    | some f =>
      have hmem : some f ∈ w.wire.drains := by
        rw [Option.join_eq_some_iff] at hfault
        exact List.mem_of_head? hfault
      refine .inl ⟨_, _, explaining_failed (bind_done hdone _), ?_⟩
      rw [Stream.writeFault, if_pos (hdraining f hmem)]
  · obtain ⟨hticks, hpassed⟩ := not_or.mp hopen
    rw [Bool.not_eq_false] at hpassed
    obtain ⟨w', hcut⟩ := awaitDrained_of_passed (w := { w with wire := w.wire.heard })
      hticks hpassed
    refine .inr ⟨?_, w', explaining_cutOff (bind_cutOff hcut _)⟩
    intro hnone
    simp [World.limitPassesBy, hnone] at hpassed

/-- A step that has its result within the timeout. -/
theorem withinOr_some {late : Fault} {x : Run α} {a : α}
    (h : within timeout x w = (.done (some a), w')) :
    withinOr timeout late x w = (.done a, w') := bind_done h _

/-- A step whose timeout passes ends with a fault. -/
theorem withinOr_none {late : Fault} {x : Run α} (h : within timeout x w = (.done none, w')) :
    withinOr timeout late x w = (.failed late, w') := bind_done h _

/-- A step that fails before its timeout passes. -/
theorem withinOr_failed {late f : Fault} {x : Run α} (h : within timeout x w = (.failed f, w')) :
    withinOr timeout late x w = (.failed f, w') := bind_failed h _

/-- A step that is cut off before its timeout passes. -/
theorem withinOr_cutOff {late : Fault} {x : Run α} (h : within timeout x w = (.cutOff, w')) :
    withinOr timeout late x w = (.cutOff, w') := bind_cutOff h _

/-- The engine is given what was read; there is nothing to give it at the end. -/
theorem refillEngine_of_read {data : Bytes} (hunread : w.wire.ended = false)
    (hread : within s.timeout (readOctets w.wire.arriving) w = (.done (some data), w')) :
    refillEngine s w =
      if data = [] then (.done false, { w' with wire := { w'.wire with ended := true } })
      else (.done true, { w' with wire := { w'.wire with
        acts := w'.wire.acts ++ [.deliver data] } }) := by
  rw [refillEngine, read_bind, hunread, if_neg Bool.false_ne_true, read_bind]
  refine Eq.trans (bind_done (explaining_done (withinOr_some hread)) _) ?_
  cases data with
  | nil => rfl
  | cons b bs => rfl

/-- A read that fails breaks off the step that gives ciphertext to the engine. -/
theorem refillEngine_of_failed {f : Fault} (hunread : w.wire.ended = false)
    (hread : withinOr s.timeout lateness (readOctets w.wire.arriving) w = (.failed f, w')) :
    refillEngine s w = (.failed (s.readFault f), w') := by
  rw [refillEngine, read_bind, hunread, if_neg Bool.false_ne_true, read_bind]
  exact bind_failed (explaining_failed hread) _

/-- A fault of a read is one of the transport, or a timeout. -/
theorem broken_readFault (s : Stream) {f : Fault} (hos : f.kind.isA .os = true) :
    (Ending.failed (s.readFault f) : Ending α).Broken := by
  rw [Stream.readFault]
  by_cases htimeout : f.kind.isA .timeout = true
  · rw [if_pos htimeout]
    exact .failed (.inr (.inl rfl))
  · rw [if_neg htimeout, if_pos hos]
    exact .failed (.inl rfl)

/-- Ciphertext that arrives in time is given to the engine. -/
theorem refillEngine_of_supplied (hstart : s.timeout.letsStart = true)
    (hunread : w.wire.ended = false) (h : w.supplied s.timeout = some w') :
    refillEngine s w = (.done true, w') := by
  rw [World.supplied] at h
  split at h
  next b bs later m harrival =>
    cases h
    have hread := within_readOctets_of_arrival hstart harrival
    rw [refillEngine_of_read hunread hread, if_neg (List.cons_ne_nil b bs)]
    rfl
  next => cases h

/-- If no ciphertext arrives in time, the engine is not given any. -/
theorem refillEngine_of_not_supplied (hstart : s.timeout.letsStart = true)
    (hunread : w.wire.ended = false)
    (hreading : ∀ f, .fault f ∈ w.wire.arriving → f.kind.isA .os = true)
    (h : w.supplied s.timeout = none) :
    ∃ ending w', refillEngine s w = (ending, w') ∧ (ending = .done false ∨ ending.Broken) := by
  rw [World.supplied] at h
  split at h
  next => cases h
  next hnone =>
    rcases harrival : firstArrival (w.readsAt s.timeout) w.wire.arriving w.now
      with - | ⟨r, later, m⟩
    · obtain ⟨w', hlate | hcut⟩ := within_readOctets_of_none hstart harrival
      · exact ⟨_, w', refillEngine_of_failed hunread (withinOr_none hlate),
          .inr (broken_readFault s rfl)⟩
      · refine ⟨.cutOff, w', ?_, .inr .cutOff⟩
        rw [refillEngine, read_bind, hunread, if_neg Bool.false_ne_true, read_bind]
        exact bind_cutOff (explaining_cutOff (withinOr_cutOff hcut)) _
    · have hread := within_readOctets_of_arrival hstart harrival
      match r with
      | .ok [] =>
        exact ⟨_, _, refillEngine_of_read hunread hread, .inl rfl⟩
      | .ok (b :: bs) => exact absurd harrival (hnone b bs later m)
      | .error f =>
        exact ⟨_, _, refillEngine_of_failed hunread (withinOr_failed hread),
          .inr (broken_readFault s (hreading f (mem_of_firstArrival harrival)))⟩

end Run

end TimeProbe

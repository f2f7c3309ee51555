import TimeProbe.Proofs.PieceDraws
import TimeProbe.Proofs.BuiltSteps

/-!
# The scan of an answer

However a stream is cut into chunks, reading an answer comes to a scan over the records of the
octets that it carries. The scan stops at the first record that ends the message, that is unknown
and critical, or that is one too many. Chunks are drawn only while no further record is complete,
so that nothing behind the record that stops the scan has any effect, and on a stream that goes
on for ever there is such a record.
-/

namespace TimeProbe

/-- A record that is kept: it does not end the message, and it is known or not critical. -/
structure Record.Kept (r : Record) : Prop where
  goesOn : r.isEndOfMessage = false
  harmless : r.isKnown = true ∨ r.critical = false

/-- The record at which the scan of an answer stops, and those in front of it: the first one that
is not kept, or the one behind as many as there may be. -/
structure StopsScan (limit : Nat) (rs earlier : List Record) (r : Record) : Prop where
  found : earlier ++ [r] <+: rs
  kept : ∀ s ∈ earlier, s.Kept
  room : earlier.length ≤ limit
  stops : r.Kept → earlier.length = limit

/-- What an answer comes to at the record at which its scan stops. -/
inductive StoppedBy (limit : Nat) (earlier : List Record) (r : Record) :
    Ending (List Record) → Prop
  | onlyEnd (ends : r.isEndOfMessage = true) (first : earlier = []) :
      StoppedBy limit earlier r (.failed Run.onlyEnd)
  | complete (ends : r.isEndOfMessage = true) (later : earlier ≠ []) :
      StoppedBy limit earlier r (.done earlier)
  | critical (goesOn : r.isEndOfMessage = false) (unknown : r.isKnown = false)
      (critical : r.critical = true) :
      StoppedBy limit earlier r (.failed (Fault.unknownCritical r.recordType))
  | tooMany (kept : r.Kept) : StoppedBy limit earlier r (.failed (Run.tooManyRecords limit))

/-- A record at which the scan stops decides the answer. -/
theorem exists_stoppedBy (limit : Nat) (earlier : List Record) (r : Record) :
    ∃ ending, StoppedBy limit earlier r ending := by
  by_cases hkept : r.Kept
  · exact ⟨_, .tooMany hkept⟩
  · cases hends : r.isEndOfMessage with
    | true =>
      by_cases hfirst : earlier = []
      · exact ⟨_, .onlyEnd hends hfirst⟩
      · exact ⟨_, .complete hends hfirst⟩
    | false =>
      have hharmful : ¬ (r.isKnown = true ∨ r.critical = false) := fun h => hkept ⟨hends, h⟩
      obtain ⟨hunknown, hcritical⟩ := not_or.mp hharmful
      exact ⟨_, .critical hends (Bool.eq_false_iff.mpr hunknown)
        (Bool.not_eq_false _ ▸ hcritical)⟩

/-- The fault of a stream that ended inside a record. -/
def Fault.closedInside (pending : Nat) : Fault :=
  { kind := .unexpectedClose
    message := "NTS-KE stream closed inside a record"
    details := [("pending", Fault.count pending)] }

/-- What an answer comes to if its stream ends and no record stops the scan. -/
inductive ClosedAfter : List Record → Bytes → Fault → Prop
  | inside {rs : List Record} {left : Bytes} (cut : left ≠ []) :
      ClosedAfter rs left (Fault.closedInside left.length)
  | between {rs : List Record} : ClosedAfter rs [] (Run.endedEarly rs)

/-- A stream that ends without a stop makes a fault. -/
theorem exists_closedAfter (rs : List Record) (left : Bytes) : ∃ f, ClosedAfter rs left f := by
  cases left with
  | nil => exact ⟨_, .between⟩
  | cons b bs => exact ⟨_, .inside (List.cons_ne_nil b bs)⟩

/-- A stream without any octet was no answer, and any other one ended unexpectedly. -/
theorem ClosedAfter.kind_eq {rs : List Record} {left : Bytes} {f : Fault}
    (h : ClosedAfter rs left f) :
    f.kind = if rs = [] ∧ left = [] then .emptyMessage else .unexpectedClose := by
  cases h with
  | inside cut =>
    rw [if_neg fun hboth => cut hboth.2]
    rfl
  | between => cases rs <;> rfl

/-- Either all records are kept and there is room for them, or one of them stops the scan. -/
theorem exists_stopsScan_or_kept (limit : Nat) (rs : List Record) :
    (∃ earlier r, StopsScan limit rs earlier r) ∨ (∀ r ∈ rs, r.Kept) ∧ rs.length ≤ limit := by
  induction rs generalizing limit with
  | nil => exact .inr ⟨List.forall_mem_nil _, Nat.zero_le _⟩
  | cons r rs ih =>
    by_cases hkept : r.Kept
    · cases limit with
      | zero =>
        exact .inl ⟨[], r, ⟨rs, rfl⟩, List.forall_mem_nil _, Nat.le_refl 0, fun _ => rfl⟩
      | succ limit =>
        rcases ih limit with ⟨earlier, s, hstop⟩ | ⟨hall, hroom⟩
        · refine .inl ⟨r :: earlier, s, ?_, ?_, Nat.succ_le_succ hstop.room, ?_⟩
          · exact List.cons_prefix_cons.mpr ⟨rfl, hstop.found⟩
          · exact List.forall_mem_cons.mpr ⟨hkept, hstop.kept⟩
          · exact fun hs => congrArg Nat.succ (hstop.stops hs)
        · exact .inr ⟨List.forall_mem_cons.mpr ⟨hkept, hall⟩, Nat.succ_le_succ hroom⟩
    · exact .inl ⟨[], r, ⟨rs, rfl⟩, List.forall_mem_nil _, Nat.zero_le limit,
        fun h => absurd h hkept⟩

namespace World

variable {w : World} {i : Nat}

/-- The world with other chunks ahead on a stream, and other octets in its buffer. -/
def reading (w : World) (i : Nat) (chunks : List Chunk) (buffered : Bytes) : World :=
  w.setStream i { w.stream i with chunks, buffer := ⟨buffered⟩ }

/-- What is ahead on a stream, and what its buffer holds. -/
theorem stream_reading (hi : i < w.streams.length) (chunks : List Chunk) (buffered : Bytes) :
    (w.reading i chunks buffered).stream i =
      { w.stream i with chunks, buffer := ⟨buffered⟩ } := by
  simp [reading, setStream, stream, hi]

/-- Only what is ahead last counts. -/
theorem reading_reading (hi : i < w.streams.length) (chunks chunks' : List Chunk)
    (buffered buffered' : Bytes) :
    (w.reading i chunks buffered).reading i chunks' buffered' = w.reading i chunks' buffered' := by
  conv => lhs; rw [reading, stream_reading hi]
  simp only [reading, setStream, List.set_set]

/-- A stream as it is. -/
theorem reading_self (hi : i < w.streams.length) :
    w.reading i (w.stream i).chunks (w.stream i).buffer.octets = w := by
  have hstream : w.stream i = w.streams[i] := by
    rw [stream, List.getElem?_eq_getElem hi, Option.getD_some]
  rw [reading, setStream, hstream, List.set_getElem_self hi]

/-- A world in which some limits were overlooked, all of which had been reached. -/
def PassesOver (w v : World) : Prop :=
  ∃ gone kept, w.limits = gone ++ kept ∧ (∀ limit ∈ gone, w.now.before limit = false) ∧
    v = { w with limits := kept, overlooked := w.overlooked ++ gone }

/-- No limit has to be overlooked. -/
theorem PassesOver.refl (w : World) : w.PassesOver w :=
  ⟨[], w.limits, rfl, nofun, by rw [List.append_nil]⟩

/-- What is overlooked first and what is overlooked next. -/
theorem PassesOver.trans {v u : World} (h : w.PassesOver v) (h' : v.PassesOver u) :
    w.PassesOver u := by
  obtain ⟨gone, kept, hlimits, hgone, rfl⟩ := h
  obtain ⟨next, left, rfl, hnext, rfl⟩ := h'
  exact ⟨gone ++ next, left, by rw [hlimits, List.append_assoc],
    List.forall_mem_append.mpr ⟨hgone, hnext⟩, by simp only [List.append_assoc]⟩

/-- Where the next limit is still to come, no limit is overlooked. -/
theorem PassesOver.eq {v : World} (h : w.PassesOver v) (hopen : w.limitPassesBy w.now = false) :
    v = w := by
  obtain ⟨gone, kept, hlimits, hgone, rfl⟩ := h
  cases gone with
  | nil => rw [List.append_nil, ← List.nil_append kept, ← hlimits]
  | cons limit gone =>
    have hreached := hgone limit List.mem_cons_self
    simp [limitPassesBy, World.limit, hlimits, hreached] at hopen

/-- Limits that had been reached are overlooked. -/
theorem passesOver_overlooking {kept : List Moment} (h : w.now.PassesOver w.limits kept) :
    w.PassesOver (w.overlooking (w.limits.length - kept.length)) := by
  obtain ⟨gone, hlimits, hgone⟩ := h
  have hlength : w.limits.length - kept.length = gone.length := by
    rw [hlimits, List.length_append, Nat.add_sub_cancel]
  refine ⟨gone, kept, hlimits, hgone, ?_⟩
  rw [hlength, overlooking, hlimits, List.drop_left, List.take_left]

/-- The streams are the same. -/
theorem PassesOver.streams {v : World} (h : w.PassesOver v) : v.streams = w.streams := by
  obtain ⟨gone, kept, -, -, rfl⟩ := h
  rfl

end World

namespace Run

variable {w : World} {i : Nat} {pieces : List Bytes} {tail : List Chunk} {buffered : Bytes}

/-- Receiving a record on a stream that is read. -/
theorem receiveRecord_reading {chunks chunks' : List Chunk} {buffered' : Bytes}
    {ending : Ending (Option Record)} {kept : List Moment} (hi : i < w.streams.length)
    (hkept : w.now.PassesOver w.limits kept)
    (h : awaitRecord w.limits chunks w.now ⟨buffered⟩ =
      ⟨ending, w.now, chunks', ⟨buffered'⟩, kept⟩) :
    ∃ v, w.PassesOver v ∧
      receiveRecord i (w.reading i chunks buffered) = (ending, v.reading i chunks' buffered') := by
  have hwait : awaitRecord (w.reading i chunks buffered).limits chunks
      (w.reading i chunks buffered).now ⟨buffered⟩ =
        ⟨ending, w.now, chunks', ⟨buffered'⟩, kept⟩ := h
  refine ⟨_, World.passesOver_overlooking hkept, ?_⟩
  rw [receiveRecord, World.stream_reading hi]
  dsimp only
  rw [hwait]
  change (ending, World.overlooking _ (w.limits.length - kept.length)) =
    (ending, (w.reading i chunks' buffered').overlooking (w.limits.length - kept.length))
  rw [← World.reading_reading hi chunks chunks' buffered buffered']
  conv => rhs; rw [World.reading, World.stream_reading hi]
  rfl

/-- A record that the buffer holds is received without drawing a piece. -/
theorem receiveRecord_of_buffered {front rest : Bytes} {r : Record}
    (hrecord : WireRecord front r) (hbuffer : (w.stream i).buffer.octets = front ++ rest) :
    receiveRecord i w = (.done (some r), w.reading i (w.stream i).chunks rest) := by
  have hwait : awaitRecord w.limits (w.stream i).chunks w.now (w.stream i).buffer =
      ⟨.done (some r), w.now, (w.stream i).chunks, ⟨rest⟩, w.limits⟩ :=
    (congrArg (awaitRecord w.limits _ w.now ⟨·⟩) hbuffer).trans
      (awaitRecord_of_record hrecord _ rest)
  rw [receiveRecord]
  dsimp only
  rw [hwait]
  change (_, World.overlooking _ (w.limits.length - w.limits.length)) = _
  rw [Nat.sub_self, World.overlooking_zero]
  rfl

/-- A record that is kept makes room for one fewer. -/
theorem collectStep_kept {r : Record} {rs : List Record} {w' : World}
    {more : Record → Run (List Record)} (h : receiveRecord i w = (.done (some r), w'))
    (hkept : r.Kept) : collectStep i rs more w = more r w' := by
  have hharmless : (!r.isKnown && r.critical) = false := by
    rcases hkept.harmless with hknown | hcritical
    · rw [hknown]
      rfl
    · rw [hcritical, Bool.and_false]
  rw [collectStep, bind_done h]
  simp only [hkept.goesOn, hharmless, Bool.false_eq_true, if_false]

/-- A record that is not kept decides an answer. -/
theorem collectStep_stopped {limit : Nat} {r : Record} {rs : List Record} {w' : World}
    {more : Record → Run (List Record)} {ending : Ending (List Record)}
    (h : receiveRecord i w = (.done (some r), w')) (hkept : ¬ r.Kept)
    (hstop : StoppedBy limit rs r ending) : collectStep i rs more w = (ending, w') := by
  rw [collectStep, bind_done h]
  cases hstop with
  | onlyEnd ends first =>
    simp only [ends, first, if_true, List.isEmpty_nil]
    rfl
  | complete ends later =>
    have hnonempty : rs.isEmpty = false := List.isEmpty_eq_false_iff.mpr later
    simp only [ends, hnonempty, if_true, Bool.false_eq_true, if_false]
    rfl
  | critical goesOn unknown critical =>
    simp only [goesOn, unknown, critical, Bool.false_eq_true, if_false, Bool.not_false,
      Bool.and_self, if_true]
    rfl
  | tooMany kept => exact absurd kept hkept

/-- A stream that ends decides an answer. -/
theorem collectStep_closed {rs : List Record} {left : Bytes} {w' : World}
    {more : Record → Run (List Record)} {f : Fault} (hclosed : ClosedAfter rs left f)
    (h : receiveRecord i w = (endOfStream ⟨left⟩, w')) :
    collectStep i rs more w = (.failed f, w') := by
  cases hclosed with
  | inside cut =>
    have hpending : ¬ (RecordBuffer.mk left).pending = 0 := fun hzero =>
      cut (List.eq_nil_of_length_eq_zero hzero)
    rw [endOfStream, if_neg hpending] at h
    exact bind_failed h _
  | between =>
    rw [collectStep, bind_done h]
    rfl

/-- Receiving the record that the pieces hold next. -/
theorem receiveRecord_of_wireRecord {front behind : Bytes} {r : Record}
    (hi : i < w.streams.length) (hpieces : ∀ piece ∈ pieces, piece ≠ [])
    (hrecord : WireRecord front r) (hoctets : buffered ++ pieces.flatten = front ++ behind) :
    ∃ used unused rest v, Draws buffered pieces front used unused rest ∧
      rest ++ unused.flatten = behind ∧ w.PassesOver v ∧
      receiveRecord i (w.reading i (pieces.map .octets ++ tail) buffered) =
        (.done (some r), v.reading i (unused.map .octets ++ tail) rest) := by
  obtain ⟨used, unused, rest, hdraws, hrest⟩ := Draws.exists_of_append hoctets
  obtain ⟨kept, hkept, hwait⟩ := awaitRecord_of_draws hrecord hdraws hpieces
  obtain ⟨v, hv, hreceive⟩ := receiveRecord_reading hi hkept hwait
  exact ⟨used, unused, rest, v, hdraws, hrest, hv, hreceive⟩

/-- Records that are kept are read one by one, as long as there is room. -/
theorem collectFrom_kept {front behind : Bytes} {earlier : List Record}
    (hi : i < w.streams.length) (hpieces : ∀ piece ∈ pieces, piece ≠ [])
    (hrecords : WireRecords front earlier) (hkept : ∀ r ∈ earlier, r.Kept)
    (hoctets : buffered ++ pieces.flatten = front ++ behind) (tail : List Chunk) (limit : Int)
    (room : Nat) (rs : List Record) :
    ∃ used unused rest v, Draws buffered pieces front used unused rest ∧
      rest ++ unused.flatten = behind ∧ w.PassesOver v ∧
      collectFrom i limit (room + earlier.length) rs
          (w.reading i (pieces.map .octets ++ tail) buffered) =
        collectFrom i limit room (rs ++ earlier)
          (v.reading i (unused.map .octets ++ tail) rest) := by
  induction hrecords generalizing w buffered pieces rs with
  | nil =>
    refine ⟨[], pieces, buffered, w, Draws.none, hoctets, .refl w, ?_⟩
    rw [List.append_nil]
    rfl
  | @cons first others r earlier record records ih =>
    rw [List.append_assoc] at hoctets
    obtain ⟨used, unused, rest, v, hdraws, hrest, hv, hreceive⟩ :=
      receiveRecord_of_wireRecord hi hpieces record hoctets
    obtain ⟨used', unused', rest', u, hdraws', hrest', hu, hcollect⟩ :=
      ih (hv.streams ▸ hi) (hdraws.unused_ne_nil hpieces)
        (fun s hs => hkept s (List.mem_cons_of_mem r hs)) hrest (rs ++ [r])
    refine ⟨used ++ used', unused', rest', u, hdraws.append hdraws', hrest', hv.trans hu, ?_⟩
    rw [List.length_cons, ← Nat.add_assoc, collectFrom_succ,
      collectStep_kept hreceive (hkept r List.mem_cons_self), hcollect, List.append_assoc]
    rfl

/-- Reading on starts with one record, whatever room there is. -/
theorem exists_collectStep (i : Nat) (limit : Int) (room : Nat) (rs : List Record) :
    ∃ more, collectFrom i limit room rs = collectStep i rs more := by
  cases room with
  | zero => exact ⟨_, collectFrom_zero i limit rs⟩
  | succ room => exact ⟨_, collectFrom_succ i limit room rs⟩

/-- The record that stops a scan decides the answer. -/
theorem collectFrom_stop {limit room : Nat} {rs : List Record} {r : Record} {w' : World}
    {ending : Ending (List Record)} (h : receiveRecord i w = (.done (some r), w'))
    (hstop : r.Kept → room = 0) (hend : StoppedBy limit rs r ending) :
    collectFrom i limit room rs w = (ending, w') := by
  by_cases hkept : r.Kept
  · rw [hstop hkept, collectFrom_zero, collectStep_kept h hkept]
    cases hend with
    | onlyEnd ends first => simp [hkept.goesOn] at ends
    | complete ends later => simp [hkept.goesOn] at ends
    | critical goesOn unknown critical => simpa [unknown, critical] using hkept.harmless
    | tooMany kept => rfl
  · obtain ⟨more, hstep⟩ := exists_collectStep i limit room rs
    rw [hstep]
    exact collectStep_stopped h hkept hend

/-- The end of the stream decides the answer. -/
theorem collectFrom_closed {limit room : Nat} {rs : List Record} {left : Bytes} {w' : World}
    {f : Fault} (h : receiveRecord i w = (endOfStream ⟨left⟩, w'))
    (hclosed : ClosedAfter rs left f) : collectFrom i limit room rs w = (.failed f, w') := by
  obtain ⟨more, hstep⟩ := exists_collectStep i limit room rs
  rw [hstep]
  exact collectStep_closed hclosed h

/-- Reading an answer on a stream that arrives in pieces. -/
theorem collect_eq_collectFrom {limit : Nat} (hi : i < w.streams.length)
    (hlimit : (w.stream i).maxRecords = limit)
    (hchunks : (w.stream i).chunks = pieces.map .octets ++ tail) :
    collect i w = collectFrom i limit limit []
      (w.reading i (pieces.map .octets ++ tail) (w.stream i).buffer.octets) := by
  rw [← hchunks, World.reading_self hi]
  have hstream : read (·.stream i) w = (.done (w.stream i), w) := rfl
  rw [collect, bind_done hstream, hlimit, Int.toNat_natCast]

/-- The scan of an answer that a record stops. -/
theorem collect_stopped {limit : Nat} {rs earlier : List Record} {r : Record}
    {front behind : Bytes} {ending : Ending (List Record)} (hi : i < w.streams.length)
    (hlimit : (w.stream i).maxRecords = limit)
    (hchunks : (w.stream i).chunks = pieces.map .octets ++ tail)
    (hpieces : ∀ piece ∈ pieces, piece ≠ []) (hstop : StopsScan limit rs earlier r)
    (hend : StoppedBy limit earlier r ending) (hrecords : WireRecords front (earlier ++ [r]))
    (hoctets : (w.stream i).buffer.octets ++ pieces.flatten = front ++ behind) :
    ∃ used unused rest v, Draws (w.stream i).buffer.octets pieces front used unused rest ∧
      w.PassesOver v ∧ collect i w = (ending, v.reading i (unused.map .octets ++ tail) rest) := by
  obtain ⟨first, last, hfirst, hlast, rfl⟩ := hrecords.exists_append
  rw [List.append_assoc] at hoctets
  obtain ⟨used, unused, rest, v, hdraws, hrest, hv, hcollect⟩ :=
    collectFrom_kept hi hpieces hfirst hstop.kept hoctets tail limit (limit - earlier.length) []
  have hunused := hdraws.unused_ne_nil hpieces
  obtain ⟨used', unused', rest', u, hdraws', -, hu, hreceive⟩ :=
    receiveRecord_of_wireRecord (hv.streams ▸ hi) hunused hlast.wireRecord_of_singleton hrest
  refine ⟨used ++ used', unused', rest', u, hdraws.append hdraws', hv.trans hu, ?_⟩
  have hroom : limit = limit - earlier.length + earlier.length :=
    (Nat.sub_add_cancel hstop.room).symm
  have hlast : r.Kept → limit - earlier.length = 0 := fun hkept => by
    rw [hstop.stops hkept, Nat.sub_self]
  rw [collect_eq_collectFrom hi hlimit hchunks]
  conv => lhs; arg 3; rw [hroom]
  rw [hcollect, List.nil_append]
  exact collectFrom_stop hreceive hlast hend

/-- The scan of an answer that no record stops before the stream ends. -/
theorem collect_closed {limit : Nat} {rs : List Record} {left : Bytes} {behind : List Chunk}
    {f : Fault} (hi : i < w.streams.length) (hlimit : (w.stream i).maxRecords = limit)
    (hchunks : (w.stream i).chunks = pieces.map .octets ++ tail)
    (hpieces : ∀ piece ∈ pieces, piece ≠ [])
    (hsplit : RecordSplit ((w.stream i).buffer.octets ++ pieces.flatten) rs left)
    (hkept : ∀ r ∈ rs, r.Kept) (hroom : rs.length ≤ limit) (htail : StreamEnd tail behind)
    (hclosed : ClosedAfter rs left f) :
    ∃ v, w.PassesOver v ∧ collect i w = (.failed f, v.reading i behind left) := by
  obtain ⟨⟨front, hrecords, hoctets⟩, hincomplete⟩ := hsplit
  obtain ⟨used, unused, rest, v, hdraws, rfl, hv, hcollect⟩ :=
    collectFrom_kept hi hpieces hrecords hkept hoctets tail limit (limit - rs.length) []
  have hunused := hdraws.unused_ne_nil hpieces
  obtain ⟨kept, hlimits, hwait⟩ := awaitRecord_of_incomplete htail hincomplete hunused
  obtain ⟨u, hu, hreceive⟩ := receiveRecord_reading (hv.streams ▸ hi) hlimits hwait
  refine ⟨u, hv.trans hu, ?_⟩
  rw [collect_eq_collectFrom hi hlimit hchunks]
  conv => lhs; arg 3; rw [← Nat.sub_add_cancel hroom]
  rw [hcollect, List.nil_append]
  exact collectFrom_closed hreceive hclosed

end Run

/-- As many octets as fill one record more than there may be hold a record that stops the scan. -/
theorem RecordSplit.exists_stopsScan {limit : Nat} {octets left : Bytes} {rs : List Record}
    (h : RecordSplit octets rs left) (hlong : (limit + 1) * 65539 ≤ octets.length) :
    ∃ earlier r, StopsScan limit rs earlier r := by
  rcases exists_stopsScan_or_kept limit rs with hstop | ⟨-, hroom⟩
  · exact hstop
  · obtain ⟨⟨front, hrecords, rfl⟩, hincomplete⟩ := h
    have hfront := hrecords.length_le
    have hleft := hincomplete.length_le
    have hall : rs.length * 65539 ≤ limit * 65539 := Nat.mul_le_mul_right _ hroom
    rw [List.length_append] at hlong
    omega

/-- Pieces that are not empty have at least one octet each. -/
theorem length_le_length_flatten {pieces : List Bytes} (h : ∀ piece ∈ pieces, piece ≠ []) :
    pieces.length ≤ pieces.flatten.length := by
  induction pieces with
  | nil => exact Nat.le_refl 0
  | cons piece pieces ih =>
    have hpiece := List.length_pos_iff.mpr (h piece List.mem_cons_self)
    have hpieces := ih fun p hp => h p (List.mem_cons_of_mem _ hp)
    rw [List.flatten_cons, List.length_append, List.length_cons]
    omega

/-- **How an answer is read, however its stream is cut.** The octets in the buffer and in the
pieces ahead are in one way records and a rest. If one of the records stops the scan, this record
and those in front of it decide the answer, and only as many pieces are drawn as hold them; so
nothing behind them has any effect. If none does and the stream ends, then all was drawn, and the
records and the rest decide the fault. Enough pieces, as on a stream that never ends, hold a record
that stops the scan. No piece is drawn as long as a record is complete. Limits around the reading
that have been reached when a piece is drawn are overlooked; nothing else changes. -/
theorem collect_scan {w : World} {i limit : Nat} {pieces : List Bytes} {tail : List Chunk}
    (hi : i < w.streams.length) (hlimit : (w.stream i).maxRecords = limit)
    (hchunks : (w.stream i).chunks = pieces.map .octets ++ tail)
    (hpieces : ∀ piece ∈ pieces, piece ≠ []) :
    ∃ rs left, RecordSplit ((w.stream i).buffer.octets ++ pieces.flatten) rs left ∧
      (∀ rs' left', RecordSplit ((w.stream i).buffer.octets ++ pieces.flatten) rs' left' →
        rs' = rs ∧ left' = left) ∧
      (∀ earlier r, StopsScan limit rs earlier r → ∃ front used unused rest ending v,
        WireRecords front (earlier ++ [r]) ∧
        Draws (w.stream i).buffer.octets pieces front used unused rest ∧
        StoppedBy limit earlier r ending ∧ w.PassesOver v ∧
        Run.collect i w = (ending, v.reading i (unused.map .octets ++ tail) rest)) ∧
      ((¬ ∃ earlier r, StopsScan limit rs earlier r) → ∀ behind, StreamEnd tail behind → ∃ f v,
        ClosedAfter rs left f ∧
        f.kind = (if rs = [] ∧ left = [] then .emptyMessage else .unexpectedClose) ∧
        w.PassesOver v ∧ Run.collect i w = (.failed f, v.reading i behind left)) ∧
      ((limit + 1) * 65539 ≤ pieces.length → ∃ earlier r, StopsScan limit rs earlier r) ∧
      (∀ front r rest, WireRecord front r → (w.stream i).buffer.octets = front ++ rest →
        Run.receiveRecord i w = (.done (some r), w.reading i (w.stream i).chunks rest)) ∧
      (∀ v, w.PassesOver v → w.limitPassesBy w.now = false → v = w) := by
  have hsplit := recordSplit_takeAll ((w.stream i).buffer.octets ++ pieces.flatten)
  refine ⟨_, _, hsplit, ?_, ?_, ?_, ?_, ?_, fun v hv hopen => hv.eq hopen⟩
  · intro rs' left' hother
    rw [hother.takeAll_eq]
    exact ⟨rfl, rfl⟩
  · intro earlier r hstop
    obtain ⟨⟨whole, hwhole, hoctets⟩, -⟩ := hsplit
    obtain ⟨later, hlater⟩ := hstop.found
    rw [← hlater] at hwhole
    obtain ⟨front, behind, hfront, -, hpart⟩ := hwhole.exists_append
    obtain ⟨ending, hend⟩ := exists_stoppedBy limit earlier r
    rw [hpart, List.append_assoc] at hoctets
    obtain ⟨used, unused, rest, v, hdraws, hv, hcollect⟩ :=
      Run.collect_stopped hi hlimit hchunks hpieces hstop hend hfront hoctets
    exact ⟨front, used, unused, rest, ending, v, hfront, hdraws, hend, hv, hcollect⟩
  · intro hnone behind htail
    obtain ⟨hkept, hroom⟩ := (exists_stopsScan_or_kept limit _).resolve_left hnone
    obtain ⟨f, hclosed⟩ := exists_closedAfter _ _
    obtain ⟨v, hv, hcollect⟩ :=
      Run.collect_closed hi hlimit hchunks hpieces hsplit hkept hroom htail hclosed
    exact ⟨f, v, hclosed, hclosed.kind_eq, hv, hcollect⟩
  · intro hlong
    refine hsplit.exists_stopsScan (Nat.le_trans hlong ?_)
    rw [List.length_append]
    exact Nat.le_trans (length_le_length_flatten hpieces) (Nat.le_add_left _ _)
  · intro front r rest hrecord hbuffer
    exact Run.receiveRecord_of_buffered hrecord hbuffer

/-- Two records cut inside both headers, an octet behind them, and a stream that breaks. -/
theorem collect_scan_cut :
    let pieces : List Bytes := [[128, 1], [0, 2, 0], [0, 128, 0, 0], [0, 7], [9]]
    let tail : List Chunk := [.fault { kind := .connectionReset }]
    let w : World :=
      { streams := [{ address := ⟨"192.0.2.1", 4460⟩, chunks := pieces.map .octets ++ tail,
                      maxRecords := 1 }] }
    0 < w.streams.length ∧ (w.stream 0).maxRecords = (1 : Nat) ∧
      (w.stream 0).chunks = pieces.map .octets ++ tail ∧ (∀ piece ∈ pieces, piece ≠ []) ∧
      ∃ front used unused rest, Draws [] pieces front used unused rest ∧
        Run.collect 0 w =
          (.done [.nextProtocol [0]], w.reading 0 (unused.map .octets ++ tail) rest) := by
  intro pieces tail w
  have hi : 0 < w.streams.length := Nat.zero_lt_one
  have hlimit : (w.stream 0).maxRecords = (1 : Nat) := rfl
  have hchunks : (w.stream 0).chunks = pieces.map .octets ++ tail := rfl
  have hpieces : ∀ piece ∈ pieces, piece ≠ [] := by decide
  have hfirst : Record.next? pieces.flatten =
      some (.nextProtocol [0], [128, 0, 0, 0, 7, 9]) := by decide
  have hend : Record.next? [128, 0, 0, 0, 7, 9] = some (.endOfMessage, [7, 9]) := by decide
  have hnone : Record.next? [7, 9] = none := rfl
  have hsplit : RecordSplit pieces.flatten [.nextProtocol [0], .endOfMessage] [7, 9] := by
    have htaken := recordSplit_takeAll pieces.flatten
    rwa [Record.takeAll_of_some hfirst, Record.takeAll_of_some hend, Record.takeAll_of_none hnone]
      at htaken
  have hkept : (Record.nextProtocol [0]).Kept := ⟨by decide, .inl (by decide)⟩
  have hstop : StopsScan 1 [.nextProtocol [0], .endOfMessage] [.nextProtocol [0]] .endOfMessage :=
    ⟨List.prefix_rfl, List.forall_mem_singleton.mpr hkept, Nat.le_refl 1, fun _ => rfl⟩
  obtain ⟨rs, left, -, hunique, hstopped, -, -, -, hsame⟩ :=
    collect_scan hi hlimit hchunks hpieces
  obtain ⟨rfl, rfl⟩ := hunique _ _ hsplit
  obtain ⟨front, used, unused, rest, ending, v, -, hdraws, hverdict, hv, hcollect⟩ :=
    hstopped _ _ hstop
  rw [hsame v hv rfl] at hcollect
  refine ⟨hi, hlimit, hchunks, hpieces, front, used, unused, rest, hdraws, ?_⟩
  cases hverdict with
  | onlyEnd ends first => cases first
  | complete ends later => exact hcollect
  | critical goesOn unknown critical => cases goesOn
  | tooMany kept => cases kept.goesOn

end TimeProbe

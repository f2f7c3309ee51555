import TimeProbe.Proofs.RecordCodec

/-!
# Records from a buffer

A buffer is fed octets and asked for records in any order. Whatever the order, the records that
it returned stand in front of the octets that it still holds, and together they are all it was
fed. Once it has no further record it has returned the longest sequence of records that these
octets begin with. So it makes no difference where the octets are cut between the feeds, nor
whether records are taken in between.
-/

namespace TimeProbe

/-- A call on a buffer. -/
inductive RecordCall
  /-- Octets that came are put behind those in the buffer. -/
  | feed (octets : Bytes)
  /-- The next complete record is asked for. -/
  | next
deriving DecidableEq

/-- The octets that a call feeds. -/
def RecordCall.fed : RecordCall → Bytes
  | feed octets => octets
  | next => []

/-- The front of a string is the longest prefix that is a concatenation of records. Every other
such prefix is a part of it, with a part of its records. -/
structure LongestRecords (octets front : Bytes) (rs : List Record) : Prop where
  isPrefix : front <+: octets
  records : WireRecords front rs
  longest : ∀ other ss, WireRecords other ss → other <+: octets → other <+: front ∧ ss <+: rs

/-- What stands in front of octets without a complete record is the longest sequence of records. -/
theorem longestRecords_of_incomplete {front left : Bytes} {rs : List Record}
    (hfront : WireRecords front rs) (hleft : Incomplete left) :
    LongestRecords (front ++ left) front rs := by
  refine ⟨List.prefix_append _ _, hfront, ?_⟩
  rintro other ss hother ⟨rest, hrest⟩
  -- The records of the rest continue those of the other prefix, and there is one split only.
  obtain ⟨⟨behind, hbehind, hsplit⟩, hincomplete⟩ := recordSplit_takeAll rest
  have hothers : RecordSplit (front ++ left) (ss ++ (Record.takeAll rest).1)
      (Record.takeAll rest).2 := by
    refine ⟨⟨other ++ behind, hother.append hbehind, ?_⟩, hincomplete⟩
    rw [List.append_assoc, ← hsplit, hrest]
  have hone : RecordSplit (front ++ left) rs left := ⟨⟨front, hfront, rfl⟩, hleft⟩
  obtain ⟨hrecords, hrests⟩ := Prod.mk.inj (hone.takeAll_eq.symm.trans hothers.takeAll_eq)
  have hoctets : front ++ left = (other ++ behind) ++ left := by
    rw [hrests, List.append_assoc, ← hsplit, hrest, ← hrests]
  have hwhole : front = other ++ behind := List.append_cancel_right hoctets
  exact ⟨hwhole ▸ List.prefix_append _ _, hrecords ▸ List.prefix_append _ _⟩

namespace RecordBuffer

/-- What a call returns, and the buffer behind it. -/
def call (b : RecordBuffer) : RecordCall → Option Record × RecordBuffer
  | .feed octets => (none, b.feed octets)
  | .next =>
    match b.next? with
    | none => (none, b)
    | some (r, behind) => (some r, behind)

/-- The records that calls one behind the other return, and the buffer behind them. -/
def run (b : RecordBuffer) : List RecordCall → List Record × RecordBuffer
  | [] => ([], b)
  | c :: calls =>
    let (r?, behind) := b.call c
    let (rs, last) := behind.run calls
    (r?.toList ++ rs, last)

/-- The records returned so far and the octets in the buffer are all that was fed. -/
def Accounts (b : RecordBuffer) (fed : Bytes) (returned : List Record) : Prop :=
  ∃ front, WireRecords front returned ∧ front ++ b.octets = fed

/-- Where there is no further record, asking for one changes nothing. -/
theorem call_next_of_none {b : RecordBuffer} (h : b.next? = none) : b.call .next = (none, b) := by
  simp only [call, h]

/-- A further record is returned and leaves the buffer. -/
theorem call_next_of_some {b behind : RecordBuffer} {r : Record}
    (h : b.next? = some (r, behind)) : b.call .next = (some r, behind) := by
  simp only [call, h]

section

variable {b : RecordBuffer} {r : Record}

/-- What asking for a record returns. -/
theorem fst_call_next (b : RecordBuffer) : (b.call .next).1 = b.next?.map Prod.fst := by
  cases hnext : b.next? with
  | none => rw [call_next_of_none hnext, Option.map_none]
  | some found => rw [call_next_of_some hnext, Option.map_some]

/-- Asking for a record returns none exactly if none is complete at the front of the buffer. -/
theorem fst_call_next_eq_none_iff : (b.call .next).1 = none ↔ Incomplete b.octets := by
  rw [fst_call_next, Option.map_eq_none_iff, next?_eq_none_iff]

/-- Asking for a record returns the one that stands at the front of the buffer. -/
theorem fst_call_next_eq_some_iff :
    (b.call .next).1 = some r ↔ ∃ front, WireRecord front r ∧ front <+: b.octets := by
  rw [fst_call_next, Option.map_eq_some_iff]
  constructor
  · rintro ⟨⟨s, behind⟩, hnext, rfl⟩
    obtain ⟨front, hrecord, hoctets⟩ := next?_eq_some_iff.mp hnext
    exact ⟨front, hrecord, hoctets ▸ List.prefix_append _ _⟩
  · rintro ⟨front, hrecord, rest, hoctets⟩
    exact ⟨(r, ⟨rest⟩), next?_eq_some_iff.mpr ⟨front, hrecord, hoctets.symm⟩, rfl⟩

end

section Accounts

variable {b : RecordBuffer} {fed : Bytes} {returned : List Record}

/-- A call keeps the account, with what it feeds and what it returns. -/
theorem Accounts.call (h : b.Accounts fed returned) (c : RecordCall) :
    (b.call c).2.Accounts (fed ++ c.fed) (returned ++ (b.call c).1.toList) := by
  obtain ⟨front, hfront, rfl⟩ := h
  cases c with
  | feed octets =>
    refine ⟨front, ?_, ?_⟩
    · exact (List.append_nil returned).symm ▸ hfront
    · exact (List.append_assoc front b.octets octets).symm
  | next =>
    rw [show RecordCall.next.fed = [] from rfl, List.append_nil]
    cases hnext : b.next? with
    | none =>
      rw [call_next_of_none hnext]
      exact ⟨front, (List.append_nil returned).symm ▸ hfront, rfl⟩
    | some found =>
      obtain ⟨record, hrecord, hoctets⟩ := next?_eq_some_iff.mp hnext
      rw [call_next_of_some hnext]
      refine ⟨front ++ record, ?_, ?_⟩
      · have hone : WireRecords record [found.1] := by
          rw [← List.append_nil record]
          exact .cons hrecord .nil
        exact hfront.append hone
      · rw [hoctets, List.append_assoc]

/-- Calls one behind the other keep the account. -/
theorem Accounts.run (h : b.Accounts fed returned) (calls : List RecordCall) :
    (b.run calls).2.Accounts (fed ++ calls.flatMap (·.fed)) (returned ++ (b.run calls).1) := by
  induction calls generalizing b fed returned with
  | nil =>
    rw [List.flatMap_nil, List.append_nil]
    exact (List.append_nil returned).symm ▸ h
  | cons c calls ih =>
    have hrest := ih (h.call c)
    rwa [List.append_assoc, List.append_assoc, ← List.flatMap_cons] at hrest

/-- The encodings of the records returned and the octets in the buffer are what was fed. -/
theorem Accounts.encodeAll_eq (h : b.Accounts fed returned) :
    Record.encodeAll returned ++ b.octets = fed := by
  obtain ⟨front, hfront, rfl⟩ := h
  rw [hfront.encodeAll_eq]

/-- A drained buffer has split what it was fed. -/
theorem Accounts.recordSplit (h : b.Accounts fed returned) (hdrained : b.next? = none) :
    RecordSplit fed returned b.octets := by
  obtain ⟨front, hfront, rfl⟩ := h
  exact ⟨⟨front, hfront, rfl⟩, next?_eq_none_iff.mp hdrained⟩

/-- A drained buffer has returned the longest sequence of records, and holds the rest. -/
theorem Accounts.exists_longestRecords (h : b.Accounts fed returned)
    (hdrained : b.next? = none) :
    ∃ front, LongestRecords fed front returned ∧ fed = front ++ b.octets ∧
      b.pending = fed.length - front.length := by
  obtain ⟨front, hfront, rfl⟩ := h
  refine ⟨front, longestRecords_of_incomplete hfront (next?_eq_none_iff.mp hdrained), rfl, ?_⟩
  rw [pending, List.length_append, Nat.add_sub_cancel_left]

end Accounts

/-- The account of a fresh buffer behind any calls. -/
theorem accounts_run (calls : List RecordCall) :
    (run {} calls).2.Accounts (calls.flatMap (·.fed)) (run {} calls).1 := by
  have hfresh : Accounts {} [] [] := ⟨[], .nil, rfl⟩
  simpa only [List.nil_append] using hfresh.run calls

/-- Calls that feed the same octets and drain the buffer return the same records. -/
theorem run_eq_of_drained {calls others : List RecordCall}
    (hfed : others.flatMap (·.fed) = calls.flatMap (·.fed))
    (hothers : (run {} others).2.next? = none) (hcalls : (run {} calls).2.next? = none) :
    run {} others = run {} calls := by
  have hother := ((accounts_run others).recordSplit hothers).takeAll_eq
  have hcall := ((accounts_run calls).recordSplit hcalls).takeAll_eq
  rw [hfed, hcall] at hother
  obtain ⟨hrecords, hoctets⟩ := Prod.mk.inj hother
  exact Prod.ext hrecords.symm (congrArg RecordBuffer.mk hoctets.symm)

/-- A record takes its header at least from the buffer. -/
theorem length_behind {b behind : RecordBuffer} {r : Record} (h : b.next? = some (r, behind)) :
    behind.pending + 4 ≤ b.pending := by
  obtain ⟨front, ⟨length⟩, hoctets⟩ := next?_eq_some_iff.mp h
  rw [pending, pending, hoctets]
  simp only [List.length_append, List.length_cons]
  omega

/-- Asking a drained buffer for records again and again changes nothing. -/
theorem run_next_of_none {b : RecordBuffer} (h : b.next? = none) (n : Nat) :
    b.run (List.replicate n .next) = ([], b) := by
  induction n with
  | zero => rfl
  | succ n ih =>
    simp only [List.replicate_succ, run, call_next_of_none h, ih, Option.toList_none,
      List.nil_append]

/-- A buffer is drained by asking it once for every four octets that it holds. -/
theorem drained_of_pending_lt {b : RecordBuffer} {n : Nat} (h : b.pending < 4 * (n + 1)) :
    (b.run (List.replicate n .next)).2.next? = none := by
  induction n generalizing b with
  | zero =>
    cases hnext : b.next? with
    | none => exact hnext
    | some found =>
      have := length_behind hnext
      omega
  | succ n ih =>
    cases hnext : b.next? with
    | none => rw [run_next_of_none hnext, hnext]
    | some found =>
      have hbehind := length_behind hnext
      have hrest := ih (b := found.2) (by omega)
      simpa only [List.replicate_succ, run, call_next_of_some hnext] using hrest

/-- **Records come from a buffer as they come from all octets at once.** After any calls on a
fresh buffer the encodings of the records returned and the octets held are what was fed, and
there is no further record exactly if none is complete at the front of the octets held. A drained
buffer has returned the records of the longest prefix of the octets fed that is a concatenation
of records, and holds the rest; that is what decoding these octets at once comes to, and what any
other calls come to that feed the same octets and drain the buffer. A buffer is drained by asking
it once for every four octets that it holds. -/
theorem run_exact (calls : List RecordCall) :
    let fed := calls.flatMap (·.fed)
    let returned := (run {} calls).1
    let b := (run {} calls).2
    Record.encodeAll returned ++ b.octets = fed ∧
    ((b.call .next).1 = none ↔ Incomplete b.octets) ∧
    (∀ r, (b.call .next).1 = some r ↔ ∃ front, WireRecord front r ∧ front <+: b.octets) ∧
    (b.next? = none →
      (∃ front, LongestRecords fed front returned ∧ fed = front ++ b.octets ∧
        b.pending = fed.length - front.length) ∧
      Record.decodeAll fed =
        (if b.pending = 0 then .ok returned else .error (.trailing b.pending)) ∧
      ∀ others, others.flatMap (·.fed) = fed → (run {} others).2.next? = none →
        run {} others = run {} calls) ∧
    (b.run (List.replicate (b.pending / 4) .next)).2.next? = none := by
  intro fed returned b
  have haccounts : b.Accounts fed returned := accounts_run calls
  refine ⟨haccounts.encodeAll_eq, fst_call_next_eq_none_iff, fun r => fst_call_next_eq_some_iff,
    fun hdrained => ⟨haccounts.exists_longestRecords hdrained,
      (haccounts.recordSplit hdrained).decodeAll_eq, ?_⟩, ?_⟩
  · intro others hfed hothers
    exact run_eq_of_drained hfed hothers hdrained
  · exact drained_of_pending_lt (by omega)

end RecordBuffer

end TimeProbe

import TimeProbe.Report.Basic

/-!
# The history of a report

A report is made by additions and closed once. Its entries are the additions made before it was
closed, and every later one is refused and changes nothing. The counts, the verdict and the lines
are views of these entries: every entry is counted under exactly one kind, the verdict looks at two
of the kinds, and the summary prints the counts.
-/

namespace TimeProbe

/-- A call that may change a report. -/
inductive ReportCall
  | add (entry : Entry)
  | finalize
deriving DecidableEq

namespace ReportCall

/-- The entry that a call adds, if it adds one. -/
def entry? : ReportCall → Option Entry
  | add e => some e
  | finalize => none

/-- The additions among calls, up to the first one that closes the report. -/
def additions (calls : List ReportCall) : List Entry :=
  (calls.takeWhile (· ≠ finalize)).filterMap entry?

@[simp]
theorem additions_nil : additions [] = [] := rfl

@[simp]
theorem additions_add (e : Entry) (calls : List ReportCall) :
    additions (add e :: calls) = e :: additions calls := by
  simp [additions, entry?]

@[simp]
theorem additions_finalize (calls : List ReportCall) : additions (finalize :: calls) = [] := by
  simp [additions]

end ReportCall

namespace Report

variable {r : Report}

/-- The report after a call; one that is refused leaves it as it was. -/
def call (r : Report) : ReportCall → Report
  | .add e =>
    match r.add e with
    | .ok r' => r'
    | .error _ => r
  | .finalize => r.finalize

/-- The report after calls in a row. -/
def after (r : Report) (calls : List ReportCall) : Report := calls.foldl call r

@[simp]
theorem after_nil : r.after [] = r := rfl

@[simp]
theorem after_cons (c : ReportCall) (calls : List ReportCall) :
    r.after (c :: calls) = (r.call c).after calls := rfl

theorem after_append (calls more : List ReportCall) :
    r.after (calls ++ more) = (r.after calls).after more := List.foldl_append

/-- A report that is closed refuses additions. -/
theorem add_of_finalized (h : r.finalized = true) (e : Entry) :
    r.add e = .error (finalizedFault e.name) := if_pos h

/-- A report that is open takes an addition behind its entries. -/
theorem add_of_open (h : r.finalized = false) (e : Entry) :
    r.add e = .ok { r with entries := r.entries ++ [e] } := by
  rw [add, h, if_neg Bool.false_ne_true]

/-- No call changes a report that is closed. -/
theorem call_of_finalized (h : r.finalized = true) (c : ReportCall) : r.call c = r := by
  cases c with
  | add e => rw [call, add_of_finalized h]
  | finalize =>
    obtain ⟨entries, finalized⟩ := r
    obtain rfl : finalized = true := h
    rfl

/-- No calls change a report that is closed. -/
theorem after_of_finalized (h : r.finalized = true) (calls : List ReportCall) :
    r.after calls = r := by
  induction calls with
  | nil => rfl
  | cons c calls ih => rw [after_cons, call_of_finalized h, ih]

/-- What calls make of a report that is open: they add what is added before they close it. -/
theorem after_of_open (h : r.finalized = false) (calls : List ReportCall) :
    r.after calls =
      ⟨r.entries ++ ReportCall.additions calls, decide (ReportCall.finalize ∈ calls)⟩ := by
  induction calls generalizing r with
  | nil => simp [← h]
  | cons c calls ih =>
    cases c with
    | add e =>
      have hcall : r.call (.add e) = { r with entries := r.entries ++ [e] } := by
        rw [call, add_of_open h]
      have hopen : { r with entries := r.entries ++ [e] }.finalized = false := h
      rw [after_cons, hcall, ih hopen]
      simp
    | finalize =>
      have hcall : (r.call .finalize).finalized = true := rfl
      rw [after_cons, after_of_finalized hcall]
      simp [call, finalize]

/-- A report that was empty at first has the additions made before it was closed. -/
theorem after_empty (calls : List ReportCall) :
    ({} : Report).after calls =
      ⟨ReportCall.additions calls, decide (ReportCall.finalize ∈ calls)⟩ :=
  after_of_open rfl calls

/-- Counting entry by entry adds up to the number of entries of each kind. -/
theorem foldl_countOne (entries : List Entry) (start : OutcomeKind → Nat) :
    entries.foldl (fun counts e => countOne counts e.outcome.kind)
        (OutcomeKind.all.map fun kind => (kind, start kind)) =
      OutcomeKind.all.map fun kind =>
        (kind, start kind + (entries.filter (·.outcome.kind = kind)).length) := by
  induction entries generalizing start with
  | nil => rfl
  | cons e entries ih =>
    have hone : countOne (OutcomeKind.all.map fun kind => (kind, start kind)) e.outcome.kind =
        OutcomeKind.all.map fun kind =>
          (kind, start kind + if e.outcome.kind = kind then 1 else 0) := by
      rw [countOne, List.map_map]
      refine List.map_congr_left fun kind _ => ?_
      by_cases hkind : kind = e.outcome.kind
      · simp [hkind]
      · simp [hkind, Ne.symm hkind]
    rw [List.foldl_cons, hone, ih]
    refine List.map_congr_left fun kind _ => ?_
    by_cases hkind : e.outcome.kind = kind
    · simp only [hkind, if_true, decide_true, List.filter_cons_of_pos, List.length_cons,
        Prod.mk.injEq, true_and]
      omega
    · simp [hkind]

/-- The counts have every kind once, in the order of the summary. -/
theorem counts_eq (r : Report) :
    r.counts = OutcomeKind.all.map fun kind => (kind, r.count kind) := by
  rw [counts, foldl_countOne r.entries fun _ => 0]
  simp only [Nat.zero_add]
  rfl

/-- Every entry is counted under exactly one kind. -/
theorem count_add_count (r : Report) :
    r.count .passed + r.count .failed + r.count .errored + r.count .skipped = r.total := by
  obtain ⟨entries, finalized⟩ := r
  simp only [count, total]
  induction entries with
  | nil => rfl
  | cons e entries ih =>
    cases hkind : e.outcome.kind <;> simp [hkind] <;> omega

/-- No entry is counted under a kind exactly if no entry is of that kind. -/
theorem count_eq_zero_iff (kind : OutcomeKind) :
    r.count kind = 0 ↔ ∀ e ∈ r.entries, e.outcome.kind ≠ kind := by
  simp [count, List.filter_eq_nil_iff]

/-- The verdict is good exactly if every entry passed or was skipped. -/
theorem success_iff :
    r.success = true ↔
      ∀ e ∈ r.entries, e.outcome.kind = .passed ∨ e.outcome.kind = .skipped := by
  have hkind (e : Entry) : e.outcome.kind = .passed ∨ e.outcome.kind = .skipped ↔
      e.outcome.kind ≠ .failed ∧ e.outcome.kind ≠ .errored := by
    cases e.outcome.kind <;> simp
  simp only [success, Bool.and_eq_true, beq_iff_eq, count_eq_zero_iff, hkind]
  constructor
  · rintro ⟨hfailed, herrored⟩ e he
    exact ⟨hfailed e he, herrored e he⟩
  · intro h
    exact ⟨fun e he => (h e he).1, fun e he => (h e he).2⟩

/-- A line of the summary has the sign and the name of a kind in front of its count. -/
theorem summaryLines_eq (r : Report) :
    r.summaryLines =
      [("✅ Passed", r.count .passed), ("❌ Failed", r.count .failed),
        ("❓ Errored", r.count .errored), ("⏩ Skipped", r.count .skipped)].map
        fun line => line.1 ++ s!": {line.2}" := by
  have hlabel : OutcomeKind.all.map (fun kind => kind.glyph ++ " " ++ kind.label) =
      ["✅ Passed", "❌ Failed", "❓ Errored", "⏩ Skipped"] := by decide
  simp only [OutcomeKind.all, List.map_cons, List.map_nil, List.cons.injEq, and_true] at hlabel
  simp only [summaryLines, OutcomeKind.all, summaryLine, List.map_cons, List.map_nil, hlabel]

/-- **What a report is after any history.** Its entries are the additions made before it was first
closed, in order. From then on every addition is refused, and no call changes anything. The counts
have each of the four kinds once, with the number of entries of that kind, and add up to the number
of entries. The verdict is good exactly if every entry passed or was skipped. The lines are those of
each entry in order, an empty line, and four lines with these counts. -/
theorem history_exact (calls : List ReportCall) :
    let r := ({} : Report).after calls
    r.entries = ReportCall.additions calls ∧
    (ReportCall.finalize ∉ calls → ∀ e, r.add e = .ok { r with entries := r.entries ++ [e] }) ∧
    (ReportCall.finalize ∈ calls →
      (∀ e, r.add e = .error
        { kind := .reportFinalized
          message := "Report is finalized, cannot add " ++ e.name
          details := [("name", .text e.name)] }) ∧
      ∀ more, ({} : Report).after (calls ++ more) = r) ∧
    r.counts.map (·.1) = [.passed, .failed, .errored, .skipped] ∧
    (∀ kind n, (kind, n) ∈ r.counts → n = (r.entries.filter (·.outcome.kind = kind)).length) ∧
    r.total = r.entries.length ∧
    (r.success = true ↔
      ∀ e ∈ r.entries, e.outcome.kind = .passed ∨ e.outcome.kind = .skipped) ∧
    ∃ passed failed errored skipped,
      r.counts =
        [(.passed, passed), (.failed, failed), (.errored, errored), (.skipped, skipped)] ∧
      passed + failed + errored + skipped = r.total ∧
      r.lines = r.entries.flatMap (·.lines) ++ "" ::
        [("✅ Passed", passed), ("❌ Failed", failed), ("❓ Errored", errored),
          ("⏩ Skipped", skipped)].map fun line => line.1 ++ s!": {line.2}" := by
  intro r
  have hr : r = ⟨ReportCall.additions calls, decide (ReportCall.finalize ∈ calls)⟩ :=
    after_empty calls
  have hcounts := r.counts_eq
  refine ⟨by rw [hr], ?_, ?_, ?_, ?_, rfl, success_iff, ?_⟩
  · intro hopen e
    have hfinalized : r.finalized = false := by rw [hr]; exact decide_eq_false hopen
    exact add_of_open hfinalized e
  · intro hclosed
    have hfinalized : r.finalized = true := by rw [hr]; exact decide_eq_true hclosed
    refine ⟨fun e => add_of_finalized hfinalized e, fun more => ?_⟩
    rw [after_append]
    exact after_of_finalized hfinalized more
  · rw [hcounts]
    rfl
  · intro kind n hmem
    rw [hcounts] at hmem
    obtain ⟨_, -, heq⟩ := List.mem_map.mp hmem
    obtain ⟨rfl, rfl⟩ := Prod.mk.inj heq
    rfl
  · refine ⟨_, _, _, _, hcounts, r.count_add_count, ?_⟩
    rw [lines, summaryLines_eq]

/-- An addition behind the end is refused, and the second end changes nothing. -/
example (e : Entry) :
    (({} : Report).after [.add e, .finalize, .add e, .finalize]).entries = [e] := rfl

end Report

end TimeProbe

import TimeProbe.KeyExchange.Record
import TimeProbe.Proofs.Words

/-!
# Sequences of records

A record on the wire is a type word with the critical bit on top, a length word, and a body of
that length. Reading finds a record exactly where one stands, more octets behind it make no
difference, and every octet string is in one way only a sequence of records with octets behind
it in which no further record is complete.
-/

namespace TimeProbe

/-- One record on the wire: a word with the type and the critical bit, a word with the length
of the body, and the body. -/
inductive WireRecord : Bytes → Record → Prop
  | intro {t₁ t₀ n₁ n₀ : UInt8} {body : Bytes} (length : body.length = Bytes.toNat [n₁, n₀]) :
      WireRecord (t₁ :: t₀ :: n₁ :: n₀ :: body)
        ⟨(Bytes.toNat [t₁, t₀] % 0x8000 : Nat), decide (0x8000 ≤ Bytes.toNat [t₁, t₀]), body⟩

/-- Records on the wire, one behind the other. -/
inductive WireRecords : Bytes → List Record → Prop
  | nil : WireRecords [] []
  | cons {octets rest : Bytes} {r : Record} {rs : List Record} (record : WireRecord octets r)
      (records : WireRecords rest rs) : WireRecords (octets ++ rest) (r :: rs)

/-- Octets at the front of which no record is complete. -/
def Incomplete (octets : Bytes) : Prop := ∀ front r, front <+: octets → ¬ WireRecord front r

/-- The complete records of an octet string and the octets left over behind them. -/
structure RecordSplit (octets : Bytes) (rs : List Record) (left : Bytes) : Prop where
  front : ∃ front, WireRecords front rs ∧ octets = front ++ left
  incomplete : Incomplete left

/-- A record takes four octets more than its length word says. -/
theorem WireRecord.length_le {octets : Bytes} {r : Record} (h : WireRecord octets r) :
    octets.length ≤ 65539 := by
  cases h with
  | @intro _ _ n₁ n₀ body length =>
    have hword := Bytes.toNat_pair_lt n₁ n₀
    simp only [List.length_cons, length]
    omega

namespace Record

variable {data rest : Bytes} {r : Record}

/-- The record that is read is the one that stands at the front. -/
theorem next?_eq_some_iff :
    next? data = some (r, rest) ↔ ∃ front, WireRecord front r ∧ data = front ++ rest := by
  constructor
  · intro h
    unfold next? at h
    split at h
    next t₁ t₀ n₁ n₀ more =>
      simp only [Option.ite_none_left_eq_some, Option.some.injEq, Prod.mk.injEq] at h
      obtain ⟨hlong, rfl, rfl⟩ := h
      have hlength : (more.take (Bytes.toNat [n₁, n₀])).length = Bytes.toNat [n₁, n₀] :=
        Nat.le_antisymm (List.length_take_le _ _) (Nat.not_lt.mp hlong)
      refine ⟨_, .intro hlength, ?_⟩
      simp only [List.cons_append, List.take_append_drop]
    next => cases h
  · rintro ⟨_, ⟨length⟩, rfl⟩
    simp only [List.cons_append, next?, ← length, List.take_left, List.drop_left, Nat.lt_irrefl,
      if_false]
    rfl

/-- No record is read exactly if none is complete. -/
theorem next?_eq_none_iff : next? data = none ↔ Incomplete data := by
  constructor
  · rintro hnone front r ⟨rest, rfl⟩ hrecord
    have hsome : next? (front ++ rest) = some (r, rest) :=
      next?_eq_some_iff.mpr ⟨front, hrecord, rfl⟩
    rw [hnone] at hsome
    cases hsome
  · intro hincomplete
    cases hnext : next? data with
    | none => rfl
    | some found =>
      obtain ⟨front, hrecord, rfl⟩ := next?_eq_some_iff.mp hnext
      exact absurd hrecord (hincomplete front _ (List.prefix_append _ _))

/-- A record that is not there to its last octet is not read. -/
theorem incomplete_of_prefix {front : Bytes} (hrecord : WireRecord front r)
    (hpart : data <+: front) (hshort : data.length < front.length) : Incomplete data := by
  rintro other s ⟨rest, rfl⟩ hother
  obtain ⟨more, rfl⟩ := hpart
  -- The whole record is read from its own octets, and so is the one in front of it.
  have hwhole : next? (other ++ rest ++ more) = some (r, []) :=
    next?_eq_some_iff.mpr ⟨_, hrecord, (List.append_nil _).symm⟩
  have hpart : next? (other ++ rest ++ more) = some (s, rest ++ more) :=
    next?_eq_some_iff.mpr ⟨other, hother, List.append_assoc other rest more⟩
  rw [hwhole, Option.some.injEq, Prod.mk.injEq] at hpart
  have hempty : more = [] := (List.append_eq_nil_iff.mp hpart.2.symm).2
  rw [hempty, List.append_nil] at hshort
  exact Nat.lt_irrefl _ hshort

end Record

/-- Fewer octets hold no record where more octets hold none. -/
theorem Incomplete.of_append {octets more : Bytes} (h : Incomplete (octets ++ more)) :
    Incomplete octets :=
  fun front r hfront => h front r (hfront.trans (List.prefix_append _ _))

/-- Octets without a complete record are few. -/
theorem Incomplete.length_le {octets : Bytes} (h : Incomplete octets) :
    octets.length ≤ 65538 := by
  rcases octets with _ | ⟨t₁, _ | ⟨t₀, _ | ⟨n₁, _ | ⟨n₀, more⟩⟩⟩⟩
  iterate 4 simp
  have hword := Bytes.toNat_pair_lt n₁ n₀
  rcases Nat.lt_or_ge more.length (Bytes.toNat [n₁, n₀]) with hshort | hlong
  · simp only [List.length_cons]
    omega
  · have hrecord : WireRecord (t₁ :: t₀ :: n₁ :: n₀ :: more.take (Bytes.toNat [n₁, n₀])) _ :=
      .intro (List.length_take_of_le hlong)
    refine absurd hrecord (h _ _ ?_)
    simp only [List.cons_prefix_cons, true_and]
    exact List.take_prefix _ _

namespace WireRecords

variable {octets : Bytes} {rs : List Record}

/-- Records on the wire take at most four octets each more than a length word can say. -/
theorem length_le (h : WireRecords octets rs) : octets.length ≤ rs.length * 65539 := by
  induction h with
  | nil => simp
  | cons record records ih =>
    have hone := record.length_le
    simp only [List.length_append, List.length_cons]
    omega

/-- Records behind records. -/
theorem append {front behind : Bytes} {earlier later : List Record}
    (hfront : WireRecords front earlier) (hbehind : WireRecords behind later) :
    WireRecords (front ++ behind) (earlier ++ later) := by
  induction hfront with
  | nil => exact hbehind
  | cons record _ ih =>
    rw [List.append_assoc]
    exact .cons record ih

/-- The octets of some records and of a further one, and of those behind it. -/
theorem exists_append {earlier later : List Record} (h : WireRecords octets (earlier ++ later)) :
    ∃ front behind, WireRecords front earlier ∧ WireRecords behind later ∧
      octets = front ++ behind := by
  induction earlier generalizing octets with
  | nil => exact ⟨[], octets, .nil, h, rfl⟩
  | cons r earlier ih =>
    cases h with
    | cons record records =>
      obtain ⟨front, behind, hfront, hbehind, rfl⟩ := ih records
      exact ⟨_, behind, .cons record hfront, hbehind, (List.append_assoc _ _ _).symm⟩

/-- The octets of a single record. -/
theorem wireRecord_of_singleton {r : Record} (h : WireRecords octets [r]) :
    WireRecord octets r := by
  cases h with
  | cons record records =>
    cases records
    rwa [List.append_nil]

end WireRecords

namespace Record

variable {data rest : Bytes} {r : Record}

/-- Where no record is complete, all octets are left over. -/
theorem takeAll_of_none (h : next? data = none) : takeAll data = ([], data) := by
  rw [takeAll]
  split
  next => rfl
  next hsome =>
    rw [h] at hsome
    cases hsome

/-- A complete record is taken, and then the others behind it. -/
theorem takeAll_of_some (h : next? data = some (r, rest)) :
    takeAll data = (r :: (takeAll rest).1, (takeAll rest).2) := by
  rw [takeAll]
  split
  next hnone =>
    rw [h] at hnone
    cases hnone
  next hsome =>
    rw [h] at hsome
    cases hsome
    rfl

end Record

/-- What is taken of an octet string are its records, and the rest is left over. -/
theorem recordSplit_takeAll (octets : Bytes) :
    RecordSplit octets (Record.takeAll octets).1 (Record.takeAll octets).2 := by
  induction octets using Record.takeAll.induct with
  | case1 octets hnone =>
    rw [Record.takeAll_of_none hnone]
    exact ⟨⟨[], .nil, rfl⟩, Record.next?_eq_none_iff.mp hnone⟩
  | case2 octets r rest hnext rs left htake ih =>
    obtain ⟨⟨behind, records, hrest⟩, hincomplete⟩ := ih
    obtain ⟨front, record, rfl⟩ := Record.next?_eq_some_iff.mp hnext
    rw [Record.takeAll_of_some hnext]
    refine ⟨⟨front ++ behind, .cons record records, ?_⟩, hincomplete⟩
    rw [List.append_assoc, ← hrest]

/-- An octet string is split into records and a rest in one way only. -/
theorem RecordSplit.takeAll_eq {octets left : Bytes} {rs : List Record}
    (h : RecordSplit octets rs left) : Record.takeAll octets = (rs, left) := by
  obtain ⟨⟨front, hfront, rfl⟩, hincomplete⟩ := h
  induction hfront with
  | nil => exact Record.takeAll_of_none (Record.next?_eq_none_iff.mpr hincomplete)
  | @cons first rest r rs record records ih =>
    have hnext : Record.next? (first ++ rest ++ left) = some (r, rest ++ left) :=
      Record.next?_eq_some_iff.mpr ⟨_, record, List.append_assoc _ _ _⟩
    rw [Record.takeAll_of_some hnext, ih]

namespace RecordBuffer

/-- A buffer has no further record exactly if none is complete in it. -/
theorem next?_eq_none_iff {b : RecordBuffer} : b.next? = none ↔ Incomplete b.octets := by
  rw [next?, Option.map_eq_none_iff, Record.next?_eq_none_iff]

/-- The next record of a buffer is the one at its front, and leaves it. -/
theorem next?_eq_some_iff {b behind : RecordBuffer} {r : Record} :
    b.next? = some (r, behind) ↔
      ∃ front, WireRecord front r ∧ b.octets = front ++ behind.octets := by
  rw [← Record.next?_eq_some_iff, next?]
  constructor
  · intro h
    obtain ⟨⟨s, rest⟩, hnext, hsame⟩ := Option.map_eq_some_iff.mp h
    obtain ⟨rfl, rfl⟩ := Prod.mk.inj hsame
    exact hnext
  · intro h
    rw [h, Option.map_some]

end RecordBuffer

end TimeProbe

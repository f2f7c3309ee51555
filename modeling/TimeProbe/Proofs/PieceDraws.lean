import TimeProbe.KeyExchange.Session
import TimeProbe.Proofs.RecordSequence

/-!
# Records drawn from pieces

The octets of a stream come in pieces. A record that is not complete in the buffer is read by
drawing pieces up to the one that completes it, and no further; where the pieces hold no record,
all of them are drawn up to the end of the stream.
-/

namespace TimeProbe

/-- Pieces drawn one by one until a front is complete: those used, those not used, and the octets
behind the front. With fewer pieces the front is not complete. -/
structure Draws (buffered : Bytes) (pieces : List Bytes) (front : Bytes)
    (used unused : List Bytes) (rest : Bytes) : Prop where
  pieces_eq : pieces = used ++ unused
  octets_eq : buffered ++ used.flatten = front ++ rest
  least : ∀ fewer, fewer <+: used → fewer ≠ used →
    (buffered ++ fewer.flatten).length < front.length

namespace Draws

variable {buffered front behind rest : Bytes} {pieces used unused : List Bytes}

/-- A front that the octets of all pieces hold can be drawn. -/
theorem exists_of_append (h : buffered ++ pieces.flatten = front ++ behind) :
    ∃ used unused rest, Draws buffered pieces front used unused rest ∧
      rest ++ unused.flatten = behind := by
  induction pieces generalizing buffered with
  | nil =>
    refine ⟨[], [], behind, ⟨rfl, h, ?_⟩, List.append_nil _⟩
    intro fewer hpart hne
    exact absurd (List.prefix_nil.mp hpart) hne
  | cons piece pieces ih =>
    rcases Nat.lt_or_ge buffered.length front.length with hshort | hlong
    · have hnext : (buffered ++ piece) ++ pieces.flatten = front ++ behind := by
        rw [← h, List.flatten_cons, List.append_assoc]
      obtain ⟨used, unused, rest, hdraws, hrest⟩ := ih hnext
      refine ⟨piece :: used, unused, rest, ⟨?_, ?_, ?_⟩, hrest⟩
      · rw [hdraws.pieces_eq, List.cons_append]
      · rw [← hdraws.octets_eq, List.flatten_cons, List.append_assoc]
      · intro fewer hpart hne
        cases fewer with
        | nil => simpa using hshort
        | cons first fewer =>
          obtain ⟨rfl, hfewer⟩ := List.cons_prefix_cons.mp hpart
          have hleast := hdraws.least fewer hfewer (fun heq => hne (by rw [heq]))
          rwa [List.flatten_cons, ← List.append_assoc]
    · obtain ⟨rest, rfl⟩ : front <+: buffered :=
        List.prefix_of_prefix_length_le ⟨behind, h.symm⟩ (List.prefix_append _ _) hlong
      refine ⟨[], piece :: pieces, rest, ⟨rfl, by simp, ?_⟩, ?_⟩
      · intro fewer hpart hne
        exact absurd (List.prefix_nil.mp hpart) hne
      · rw [List.append_assoc] at h
        exact List.append_cancel_left h

/-- Nothing is drawn for an empty front. -/
theorem none : Draws buffered pieces [] [] pieces buffered := by
  refine ⟨rfl, List.append_nil _, ?_⟩
  intro fewer hpart hne
  exact absurd (List.prefix_nil.mp hpart) hne

/-- Two fronts drawn one after the other are drawn as one. -/
theorem append {front' rest' : Bytes} {used' unused' : List Bytes}
    (h : Draws buffered pieces front used unused rest)
    (h' : Draws rest unused front' used' unused' rest') :
    Draws buffered pieces (front ++ front') (used ++ used') unused' rest' := by
  refine ⟨?_, ?_, ?_⟩
  · rw [h.pieces_eq, h'.pieces_eq, List.append_assoc]
  · rw [List.flatten_append, ← List.append_assoc, h.octets_eq, List.append_assoc, h'.octets_eq,
      List.append_assoc]
  · intro fewer hpart hne
    rcases List.prefix_or_prefix_of_prefix hpart (List.prefix_append used used') with
      hfirst | ⟨more, rfl⟩
    · by_cases hall : fewer = used
      · -- The first front is complete, so at least one more piece is missing of the second one.
        have hmissing := h'.least [] (List.nil_prefix) (by
          rintro rfl
          exact hne (by rw [hall, List.append_nil]))
        have hlength := congrArg List.length h.octets_eq
        simp only [List.length_append, List.flatten_nil, List.append_nil] at hmissing hlength ⊢
        rw [hall]
        omega
      · have hshort := h.least fewer hfirst hall
        exact Nat.lt_of_lt_of_le hshort (List.length_append ▸ Nat.le_add_right _ _)
    · have hmissing := h'.least more ((List.prefix_append_right_inj _).mp hpart) (by
        rintro rfl
        exact hne rfl)
      have hlength := congrArg List.length h.octets_eq
      simp only [List.length_append, List.flatten_append] at hmissing hlength ⊢
      omega

/-- As long as a piece is to be drawn, only a part of the front is there. -/
theorem short_of_cons {piece : Bytes}
    (h : Draws buffered pieces front (piece :: used) unused rest) :
    buffered <+: front ∧ buffered.length < front.length := by
  have hshort := h.least [] List.nil_prefix (List.cons_ne_nil piece used).symm
  rw [List.flatten_nil, List.append_nil] at hshort
  have hpart : buffered <+: front ++ rest := ⟨(piece :: used).flatten, h.octets_eq⟩
  have hfront : front <+: front ++ rest := List.prefix_append _ _
  exact ⟨List.prefix_of_prefix_length_le hpart hfront (Nat.le_of_lt hshort), hshort⟩

/-- Once a piece is drawn, the others are drawn as before. -/
theorem drawn {piece : Bytes} (h : Draws buffered pieces front (piece :: used) unused rest) :
    Draws (buffered ++ piece) (used ++ unused) front used unused rest := by
  refine ⟨rfl, ?_, ?_⟩
  · rw [← h.octets_eq, List.flatten_cons, List.append_assoc]
  · intro fewer hpart hne
    have hleast := h.least (piece :: fewer) (List.cons_prefix_cons.mpr ⟨rfl, hpart⟩)
      (fun heq => hne (List.cons.inj heq).2)
    rwa [List.flatten_cons, ← List.append_assoc] at hleast

/-- Of pieces that are not empty those not used are not empty. -/
theorem unused_ne_nil (h : Draws buffered pieces front used unused rest)
    (hpieces : ∀ piece ∈ pieces, piece ≠ []) : ∀ piece ∈ unused, piece ≠ [] := by
  intro piece hpiece
  refine hpieces piece ?_
  rw [h.pieces_eq]
  exact List.mem_append_right used hpiece

end Draws

/-- The end of a stream and what is left of it behind: nothing comes any more, or an empty chunk
does. -/
inductive StreamEnd : List Chunk → List Chunk → Prop
  | exhausted : StreamEnd [] []
  | closed (later : List Chunk) : StreamEnd (.octets [] :: later) later

namespace Moment

variable {now : Moment} {limits kept left : List Moment}

/-- Limits of which the first few had been reached at a moment, and were overlooked. -/
def PassesOver (now : Moment) (limits kept : List Moment) : Prop :=
  ∃ gone, limits = gone ++ kept ∧ ∀ limit ∈ gone, now.before limit = false

/-- No limit has to be overlooked. -/
theorem PassesOver.refl (now : Moment) (limits : List Moment) : now.PassesOver limits limits :=
  ⟨[], rfl, nofun⟩

/-- What is overlooked first and what is overlooked next. -/
theorem PassesOver.trans (h : now.PassesOver limits kept) (h' : now.PassesOver kept left) :
    now.PassesOver limits left := by
  obtain ⟨gone, rfl, hgone⟩ := h
  obtain ⟨next, rfl, hnext⟩ := h'
  exact ⟨gone ++ next, (List.append_assoc gone next left).symm,
    List.forall_mem_append.mpr ⟨hgone, hnext⟩⟩

/-- What is taken passes over a limit that has been reached. -/
theorem passesOver_outlasting (now : Moment) (limits : List Moment) :
    now.PassesOver limits (now.outlasting limits) := by
  rw [outlasting]
  cases limits with
  | nil => exact .refl now []
  | cons limit limits =>
    cases hbefore : now.before limit with
    | true =>
      rw [if_neg (by simp [hbefore])]
      exact .refl now _
    | false =>
      rw [if_pos (by simp [hbefore])]
      exact ⟨[limit], rfl, List.forall_mem_singleton.mpr hbefore⟩

end Moment

section

variable {limits : List Moment} {now : Moment} {buffered : Bytes} {pieces : List Bytes}
  {tail : List Chunk}

/-- A further piece is drawn if no record is complete. -/
theorem awaitRecord_octets {piece : Bytes} (hpiece : piece ≠ []) (h : Incomplete buffered)
    (later : List Chunk) :
    awaitRecord limits (.octets piece :: later) now ⟨buffered⟩ =
      awaitRecord (now.outlasting limits) later now ⟨buffered ++ piece⟩ := by
  obtain ⟨b, bs, rfl⟩ := List.exists_cons_of_ne_nil hpiece
  conv => lhs; unfold awaitRecord
  rw [RecordBuffer.next?_eq_none_iff.mpr h]
  rfl

/-- A complete record is taken without drawing a piece. -/
theorem awaitRecord_of_record {front : Bytes} {r : Record} (h : WireRecord front r)
    (chunks : List Chunk) (rest : Bytes) :
    awaitRecord limits chunks now ⟨front ++ rest⟩ =
      ⟨.done (some r), now, chunks, ⟨rest⟩, limits⟩ := by
  have hsome : (RecordBuffer.mk (front ++ rest)).next? = some (r, ⟨rest⟩) :=
    RecordBuffer.next?_eq_some_iff.mpr ⟨front, h, rfl⟩
  unfold awaitRecord
  rw [hsome]

/-- A record that the pieces hold is read with as few of them as it takes. -/
theorem awaitRecord_of_draws {front rest : Bytes} {used unused : List Bytes} {r : Record}
    (hrecord : WireRecord front r) (hdraws : Draws buffered pieces front used unused rest)
    (hpieces : ∀ piece ∈ pieces, piece ≠ []) :
    ∃ kept, now.PassesOver limits kept ∧
      awaitRecord limits (pieces.map .octets ++ tail) now ⟨buffered⟩ =
        ⟨.done (some r), now, unused.map .octets ++ tail, ⟨rest⟩, kept⟩ := by
  induction used generalizing limits buffered pieces with
  | nil =>
    have hbuffered := hdraws.octets_eq
    rw [List.flatten_nil, List.append_nil] at hbuffered
    rw [hbuffered, hdraws.pieces_eq, List.nil_append]
    exact ⟨limits, .refl now limits, awaitRecord_of_record hrecord _ _⟩
  | cons piece used ih =>
    obtain ⟨hpart, hshort⟩ := hdraws.short_of_cons
    have hmore := hdraws.drawn
    obtain rfl := hdraws.pieces_eq
    have hnone := Record.incomplete_of_prefix hrecord hpart hshort
    obtain ⟨kept, hkept, hwait⟩ := @ih (now.outlasting limits) _ _ hmore fun p hp =>
      hpieces p (List.mem_cons_of_mem _ hp)
    rw [List.cons_append, List.map_cons, List.cons_append,
      awaitRecord_octets (hpieces piece List.mem_cons_self) hnone]
    exact ⟨kept, (Moment.passesOver_outlasting now limits).trans hkept, hwait⟩

/-- Where the pieces hold no further record, all of them are drawn up to the end of the stream. -/
theorem awaitRecord_of_incomplete {behind : List Chunk} (htail : StreamEnd tail behind)
    (h : Incomplete (buffered ++ pieces.flatten)) (hpieces : ∀ piece ∈ pieces, piece ≠ []) :
    ∃ kept, now.PassesOver limits kept ∧
      awaitRecord limits (pieces.map .octets ++ tail) now ⟨buffered⟩ =
        ⟨endOfStream ⟨buffered ++ pieces.flatten⟩, now, behind, ⟨buffered ++ pieces.flatten⟩,
          kept⟩ := by
  induction pieces generalizing limits buffered with
  | nil =>
    rw [List.flatten_nil, List.append_nil] at h ⊢
    refine ⟨now.outlasting limits, Moment.passesOver_outlasting now limits, ?_⟩
    unfold awaitRecord
    rw [RecordBuffer.next?_eq_none_iff.mpr h]
    cases htail <;> rfl
  | cons piece pieces ih =>
    rw [List.flatten_cons, ← List.append_assoc] at h ⊢
    obtain ⟨kept, hkept, hwait⟩ := @ih (now.outlasting limits) _ h fun p hp =>
      hpieces p (List.mem_cons_of_mem _ hp)
    rw [List.map_cons, List.cons_append,
      awaitRecord_octets (hpieces piece List.mem_cons_self) h.of_append.of_append]
    exact ⟨kept, (Moment.passesOver_outlasting now limits).trans hkept, hwait⟩

end

end TimeProbe

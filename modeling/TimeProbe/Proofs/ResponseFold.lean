import Mathlib.Data.List.Induction
import TimeProbe.Fault
import TimeProbe.KeyExchange.Response

/-!
# The fold of an answer

The records of an answer are folded into a response one after the other. A record either offends,
by itself or behind the records before it, or is gathered with those of its kind; the first one
that offends decides the error. So a response holds what each kind of record said, in order of
arrival, and how the kinds were mixed does not matter.
-/

namespace TimeProbe

/-- What a type that may occur once is called, for the types of which this is true. -/
def RecordType.label? : RecordType → Option String
  | nextProtocol => some "Next Protocol Negotiation"
  | aeadAlgorithm => some "AEAD Algorithm Negotiation"
  | server => some "NTPv4 Server Negotiation"
  | port => some "NTPv4 Port Negotiation"
  | endOfMessage | error | warning | newCookie => none

namespace Record

/-- The kind of a record: its type. All types without a meaning are one kind. -/
def kind (r : Record) : Option RecordType := RecordType.ofCode? r.recordType

/-- A body has the layout that the type of its record asks for. -/
def BodyFits (r : Record) : Prop :=
  match r.kind with
  | some .nextProtocol | some .aeadAlgorithm => r.body.length % 2 = 0
  | some .error | some .warning | some .port => r.body.length = 2
  | some .server => ∀ b ∈ r.body, b.toNat < 128
  | some .newCookie | some .endOfMessage | none => True

/-- The records of a kind, in order. -/
def ofKind (kind : Option RecordType) (rs : List Record) : List Record :=
  rs.filter (·.kind = kind)

/-- One more record is the last one of its kind, and changes no other kind. -/
theorem ofKind_concat (kind : Option RecordType) (rs : List Record) (x : Record) :
    ofKind kind (rs ++ [x]) = if x.kind = kind then ofKind kind rs ++ [x] else ofKind kind rs := by
  rw [ofKind, List.filter_append]
  by_cases hx : x.kind = kind <;> simp [ofKind, hx]

/-- A text that is read from octets of ASCII. -/
def asciiText (body : Bytes) : String := String.ofList (body.map fun b => Char.ofNat b.toNat)

end Record

open Record

/-- The records of an answer that make a response: no one ends a message, none of an unknown type
is critical, the types that may occur once do not occur twice, and all bodies fit their types. -/
structure Foldable (rs : List Record) : Prop where
  noEnd : ∀ r ∈ rs, r.kind ≠ some .endOfMessage
  noCritical : ∀ r ∈ rs, r.kind = none → r.critical = false
  once : ∀ t, t.label? ≠ none → (ofKind (some t) rs).length ≤ 1
  fits : ∀ r ∈ rs, r.BodyFits

/-- A record that does not offend behind others. -/
structure Admits (earlier : List Record) (x : Record) : Prop where
  notEnd : x.kind ≠ some .endOfMessage
  notCritical : x.kind = none → x.critical = false
  first : ∀ t, x.kind = some t → t.label? ≠ none → ofKind (some t) earlier = []
  fits : x.BodyFits

/-- A record offends behind others: its body does not fit, or it is the second one of a type that
may occur once, or it ends the message, or it is critical and its type is unknown. A body that
does not fit counts before a second occurrence. -/
inductive Offends (earlier : List Record) (x : Record) : KeResponseError → Prop
  | oddLength (kind : x.kind = some .nextProtocol ∨ x.kind = some .aeadAlgorithm)
      (odd : x.body.length % 2 ≠ 0) :
      Offends earlier x (.malformed (.oddLength x.recordType x.body.length))
  | notOneWord (kind : x.kind = some .error ∨ x.kind = some .warning ∨ x.kind = some .port)
      (length : x.body.length ≠ 2) :
      Offends earlier x (.malformed (.notOneWord x.recordType x.body.length))
  | notAscii (kind : x.kind = some .server) (octet : ∃ b ∈ x.body, 128 ≤ b.toNat) :
      Offends earlier x (.malformed (.notAscii x.body))
  | duplicate {t : RecordType} {label : String} (kind : x.kind = some t)
      (single : t.label? = some label) (fits : x.BodyFits)
      (second : ofKind (some t) earlier ≠ []) : Offends earlier x (.duplicate label)
  | endInside (kind : x.kind = some .endOfMessage) : Offends earlier x .endInside
  | unknownCritical (kind : x.kind = none) (critical : x.critical = true) :
      Offends earlier x (.unknownCritical x.recordType)

namespace KeResponse

/-- What the records of each kind say, in order of arrival. -/
def gathered (rs : List Record) : KeResponse where
  nextProtocol := ((ofKind (some .nextProtocol) rs).map fun r => splitWords r.body).head?
  aead := ((ofKind (some .aeadAlgorithm) rs).map fun r => splitWords r.body).head?
  errors := (ofKind (some .error) rs).map fun r => Bytes.toNat r.body
  warnings := (ofKind (some .warning) rs).map fun r => Bytes.toNat r.body
  cookies := (ofKind (some .newCookie) rs).map (·.body)
  server := ((ofKind (some .server) rs).map fun r => asciiText r.body).head?
  port := ((ofKind (some .port) rs).map fun r => Bytes.toNat r.body).head?
  ignored := ofKind none rs

variable {earlier rs : List Record} {x : Record} {e : KeResponseError}

/-- A body with an even number of octets is a list of identifiers. -/
theorem readBody_idList (h : x.body.length % 2 = 0) :
    readBody x.idList = .ok (splitWords x.body) := by
  rw [idList, if_pos h]
  rfl

/-- A body with an odd number of octets is malformed. -/
theorem readBody_idList_of_odd (h : x.body.length % 2 ≠ 0) :
    readBody x.idList = .error (.malformed (.oddLength x.recordType x.body.length)) := by
  rw [idList, if_neg h]
  rfl

/-- A body of two octets is a number. -/
theorem readBody_word (h : x.body.length = 2) : readBody x.word = .ok (Bytes.toNat x.body) := by
  rw [word, if_pos h]
  rfl

/-- A body of any other length is no number. -/
theorem readBody_word_of_ne (h : x.body.length ≠ 2) :
    readBody x.word = .error (.malformed (.notOneWord x.recordType x.body.length)) := by
  rw [word, if_neg h]
  rfl

/-- A body of octets of ASCII is a text. -/
theorem readBody_text (h : ∀ b ∈ x.body, b.toNat < 128) :
    readBody x.text = .ok (asciiText x.body) := by
  rw [text, if_pos (List.all_eq_true.mpr fun b hb => decide_eq_true (h b hb))]
  rfl

/-- A body with any other octet is no text. -/
theorem readBody_text_of_octet (h : ∃ b ∈ x.body, 128 ≤ b.toNat) :
    readBody x.text = .error (.malformed (.notAscii x.body)) := by
  obtain ⟨b, hb, hlarge⟩ := h
  have hnot : ¬ x.body.all (·.toNat < 128) = true := fun hall =>
    Nat.not_lt.mpr hlarge (of_decide_eq_true (List.all_eq_true.mp hall b hb))
  rw [text, if_neg hnot]
  rfl

/-- A record that does not offend is gathered with those of its kind. -/
theorem add_of_admits (h : Admits earlier x) :
    add (gathered earlier) x = .ok (gathered (earlier ++ [x])) := by
  have hfits := h.fits
  rw [add, show RecordType.ofCode? x.recordType = x.kind from rfl]
  rcases hkind : x.kind with _ | t
  · simp [gathered, ofKind_concat, hkind, h.notCritical hkind, pure, Except.pure]
  · rw [BodyFits, hkind] at hfits
    have hfirst := h.first t hkind
    cases t with
    | endOfMessage => exact absurd hkind h.notEnd
    | nextProtocol | aeadAlgorithm =>
      simp [gathered, ofKind_concat, hkind, readBody_idList hfits, hfirst (by decide), once, bind,
        Except.bind, pure, Except.pure]
    | error | warning =>
      simp [gathered, ofKind_concat, hkind, readBody_word hfits, bind, Except.bind, pure,
        Except.pure]
    | newCookie => simp [gathered, ofKind_concat, hkind, pure, Except.pure]
    | server =>
      simp [gathered, ofKind_concat, hkind, readBody_text hfits, hfirst (by decide), once, bind,
        Except.bind, pure, Except.pure]
    | port =>
      simp [gathered, ofKind_concat, hkind, readBody_word hfits, hfirst (by decide), once, bind,
        Except.bind, pure, Except.pure]

/-- There is a value already where there is a record of the type. -/
theorem exists_head?_map {α : Type} (f : Record → α) {kind : Option RecordType}
    (h : ofKind kind earlier ≠ []) : ∃ a, ((ofKind kind earlier).map f).head? = some a := by
  obtain ⟨r, rs, hcons⟩ := List.exists_cons_of_ne_nil h
  exact ⟨f r, by rw [hcons]; rfl⟩

/-- A record that offends is refused for it. -/
theorem add_of_offends (h : Offends earlier x e) : add (gathered earlier) x = .error e := by
  rw [add, show RecordType.ofCode? x.recordType = x.kind from rfl]
  cases h with
  | oddLength kind odd =>
    rcases kind with hkind | hkind <;>
      simp [hkind, readBody_idList_of_odd odd, bind, Except.bind]
  | notOneWord kind length =>
    rcases kind with hkind | hkind | hkind <;>
      simp [hkind, readBody_word_of_ne length, bind, Except.bind]
  | notAscii kind octet => simp [kind, readBody_text_of_octet octet, bind, Except.bind]
  | endInside kind => simp [kind, throw, throwThe, MonadExceptOf.throw]
  | unknownCritical kind critical => simp [kind, critical, throw, throwThe, MonadExceptOf.throw]
  | @duplicate t label kind single fits second =>
    rw [BodyFits, kind] at fits
    cases t with
    | endOfMessage | error | warning | newCookie => cases single
    | nextProtocol | aeadAlgorithm =>
      obtain ⟨old, hold⟩ := exists_head?_map (fun r => splitWords r.body) second
      obtain rfl := Option.some.inj single
      simp [kind, readBody_idList fits, gathered, hold, once, bind, Except.bind]
    | server =>
      obtain ⟨old, hold⟩ := exists_head?_map (fun r => asciiText r.body) second
      obtain rfl := Option.some.inj single
      simp [kind, readBody_text fits, gathered, hold, once, bind, Except.bind]
    | port =>
      obtain ⟨old, hold⟩ := exists_head?_map (fun r => Bytes.toNat r.body) second
      obtain rfl := Option.some.inj single
      simp [kind, readBody_word fits, gathered, hold, once, bind, Except.bind]

/-- A body that does not fit its type offends. -/
theorem exists_offends_of_not_fits (earlier : List Record) (h : ¬ x.BodyFits) :
    ∃ e, Offends earlier x (.malformed e) := by
  rcases hkind : x.kind with _ | t
  · exact absurd (by rw [BodyFits, hkind]; trivial) h
  rw [BodyFits, hkind] at h
  cases t with
  | endOfMessage | newCookie => exact absurd trivial h
  | nextProtocol => exact ⟨_, .oddLength (.inl hkind) h⟩
  | aeadAlgorithm => exact ⟨_, .oddLength (.inr hkind) h⟩
  | error => exact ⟨_, .notOneWord (.inl hkind) h⟩
  | warning => exact ⟨_, .notOneWord (.inr (.inl hkind)) h⟩
  | port => exact ⟨_, .notOneWord (.inr (.inr hkind)) h⟩
  | server => exact ⟨_, .notAscii hkind (by simpa using h)⟩

/-- A record offends unless it does not. -/
theorem admits_or_offends (earlier : List Record) (x : Record) :
    Admits earlier x ∨ ∃ e, Offends earlier x e := by
  by_cases hfits : x.BodyFits
  · rcases hkind : x.kind with _ | t
    · cases hcritical : x.critical with
      | true => exact .inr ⟨_, .unknownCritical hkind hcritical⟩
      | false => exact .inl ⟨by simp [hkind], fun _ => hcritical, by simp [hkind], hfits⟩
    by_cases hend : t = .endOfMessage
    · exact .inr ⟨_, .endInside (hend ▸ hkind)⟩
    by_cases hsecond : t.label? ≠ none ∧ ofKind (some t) earlier ≠ []
    · obtain ⟨label, hlabel⟩ := Option.ne_none_iff_exists'.mp hsecond.1
      exact .inr ⟨_, .duplicate hkind hlabel hfits hsecond.2⟩
    · refine .inl ⟨by simp [hkind, hend], by simp [hkind], ?_, hfits⟩
      intro t' ht' hsingle
      obtain rfl : t = t' := Option.some.inj (hkind.symm.trans ht')
      exact Decidable.not_not.mp fun hne => hsecond ⟨hsingle, hne⟩
  · obtain ⟨e, he⟩ := exists_offends_of_not_fits earlier hfits
    exact .inr ⟨_, he⟩

/-- Records make a response exactly if those in front do and the last one does not offend behind
them. -/
theorem foldable_concat : Foldable (earlier ++ [x]) ↔ Foldable earlier ∧ Admits earlier x := by
  have hlength (t : RecordType) : (ofKind (some t) (earlier ++ [x])).length =
      (ofKind (some t) earlier).length + if x.kind = some t then 1 else 0 := by
    rw [ofKind_concat]
    split <;> simp
  constructor
  · intro h
    refine ⟨⟨fun r hr => h.noEnd r (by simp [hr]), fun r hr => h.noCritical r (by simp [hr]),
      fun t ht => ?_, fun r hr => h.fits r (by simp [hr])⟩, h.noEnd x (by simp),
      h.noCritical x (by simp), fun t hkind ht => ?_, h.fits x (by simp)⟩
    · have honce := h.once t ht
      rw [hlength] at honce
      omega
    · have honce := h.once t ht
      rw [hlength, if_pos hkind] at honce
      exact List.length_eq_zero_iff.mp (by omega)
  · rintro ⟨hearlier, hx⟩
    refine ⟨?_, ?_, fun t ht => ?_, ?_⟩
    · exact List.forall_mem_append.mpr ⟨hearlier.noEnd, by simpa using hx.notEnd⟩
    · exact List.forall_mem_append.mpr ⟨hearlier.noCritical, by simpa using hx.notCritical⟩
    · rw [hlength]
      split
      · next hkind =>
        rw [hx.first t hkind ht]
        exact Nat.le_refl 1
      · exact hearlier.once t ht
    · exact List.forall_mem_append.mpr ⟨hearlier.fits, by simpa using hx.fits⟩

/-- Records that make a response are gathered in it. -/
theorem ofRecords_of_foldable (h : Foldable rs) : ofRecords rs = .ok (gathered rs) := by
  induction rs using List.reverseRecOn with
  | nil => rfl
  | append_singleton earlier x ih =>
    obtain ⟨hearlier, hx⟩ := foldable_concat.mp h
    have hfold : List.foldlM add {} earlier = .ok (gathered earlier) := ih hearlier
    rw [ofRecords, List.foldlM_append, hfold]
    exact (bind_pure _).trans (add_of_admits hx)

/-- The first record that offends decides the error, whatever is behind it. -/
theorem ofRecords_of_offends (hearlier : Foldable earlier) (hx : Offends earlier x e)
    (later : List Record) : ofRecords (earlier ++ x :: later) = .error e := by
  have hfold : List.foldlM add {} earlier = .ok (gathered earlier) := ofRecords_of_foldable hearlier
  have hcons : List.foldlM add (gathered earlier) (x :: later) = .error e := by
    rw [List.foldlM_cons, add_of_offends hx]
    rfl
  rw [ofRecords, List.foldlM_append, hfold]
  exact hcons

/-- Records make a response, or there is a first one that offends. -/
theorem foldable_or_offends (rs : List Record) :
    Foldable rs ∨ ∃ earlier x later e,
      rs = earlier ++ x :: later ∧ Foldable earlier ∧ Offends earlier x e := by
  induction rs using List.reverseRecOn with
  | nil => exact .inl ⟨by simp, by simp, by simp [ofKind], by simp⟩
  | append_singleton rs last ih =>
    rcases ih with hrs | ⟨earlier, x, later, e, rfl, hearlier, hx⟩
    · rcases admits_or_offends rs last with hlast | ⟨e, hlast⟩
      · exact .inl (foldable_concat.mpr ⟨hrs, hlast⟩)
      · exact .inr ⟨rs, last, [], e, rfl, hrs, hlast⟩
    · exact .inr ⟨earlier, x, later ++ [last], e, by simp, hearlier, hx⟩

/-- Records with the same records of each kind, in the same order, make a response together. -/
theorem foldable_of_ofKind_eq {rs' : List Record} (h : Foldable rs)
    (hsame : ∀ kind, ofKind kind rs' = ofKind kind rs) : Foldable rs' := by
  have hmem (r : Record) (hr : r ∈ rs') : r ∈ rs := by
    have hkind : r ∈ ofKind r.kind rs := by
      rw [← hsame]
      exact List.mem_filter.mpr ⟨hr, by simp⟩
    exact (List.mem_filter.mp hkind).1
  exact ⟨fun r hr => h.noEnd r (hmem r hr), fun r hr => h.noCritical r (hmem r hr),
    fun t ht => hsame (some t) ▸ h.once t ht, fun r hr => h.fits r (hmem r hr)⟩

/-- The records of a response can make one, and it gathers them. -/
theorem foldable_of_ofRecords {r : KeResponse} (h : ofRecords rs = .ok r) :
    Foldable rs ∧ r = gathered rs := by
  rcases foldable_or_offends rs with hrs | ⟨earlier, x, later, e, rfl, hearlier, hx⟩
  · exact ⟨hrs, Except.ok.inj (h.symm.trans (ofRecords_of_foldable hrs))⟩
  · rw [ofRecords_of_offends hearlier hx] at h
    cases h

/-- Orders of records that keep those of each kind in theirs make the same response. -/
theorem ofRecords_eq_ok_of_ofKind_eq {rs' : List Record} {r : KeResponse}
    (hsame : ∀ kind, ofKind kind rs' = ofKind kind rs) (h : ofRecords rs = .ok r) :
    ofRecords rs' = .ok r := by
  obtain ⟨hrs, rfl⟩ := foldable_of_ofRecords h
  have hgathered : gathered rs' = gathered rs := by simp only [gathered, hsame]
  rw [ofRecords_of_foldable (foldable_of_ofKind_eq hrs hsame), hgathered]

/-- A record with a body that does not fit is raised as invalid. If the body fits, what is raised
tells a critical record of an unknown type, the end inside of a message, and a second record of a
type that may occur once from each other. -/
theorem kind_fault_of_offends (h : Offends earlier x e) :
    (¬ x.BodyFits → (Fault.ofKeResponseError e).kind = .invalidRecord) ∧
    (x.BodyFits → (Fault.ofKeResponseError e).kind =
      match x.kind with
      | none => .unknownCriticalRecord
      | some .endOfMessage => .keProtocol
      | some _ => .keNegotiation) := by
  cases h with
  | oddLength kind odd =>
    refine ⟨fun _ => rfl, fun fits => absurd fits ?_⟩
    rcases kind with kind | kind <;> rwa [BodyFits, kind]
  | notOneWord kind length =>
    refine ⟨fun _ => rfl, fun fits => absurd fits ?_⟩
    rcases kind with kind | kind | kind <;> rwa [BodyFits, kind]
  | notAscii kind octet =>
    refine ⟨fun _ => rfl, fun fits => absurd fits ?_⟩
    rw [BodyFits, kind]
    simpa using octet
  | @duplicate t label kind single fits second =>
    refine ⟨absurd fits, fun _ => ?_⟩
    rw [kind]
    cases t <;> first | rfl | cases single
  | endInside kind =>
    refine ⟨fun hnot => absurd ?_ hnot, fun _ => ?_⟩
    · rw [BodyFits, kind]
      trivial
    · rw [kind]
      rfl
  | unknownCritical kind critical =>
    refine ⟨fun hnot => absurd ?_ hnot, fun _ => ?_⟩
    · rw [BodyFits, kind]
      trivial
    · rw [kind]
      rfl

/-- **The fold keeps everything.** Records make a response exactly if none ends the message, none
of an unknown type is critical, the types that may occur once do not occur twice, and all bodies
fit. The response has the content of the records of each kind in order of arrival, so that it is
the same for all orders that keep the records of each kind in theirs. Otherwise the error is that
of the first record that offends, where a body that does not fit counts before a second
occurrence. -/
theorem ofRecords_exact (rs : List Record) :
    ((∃ r, ofRecords rs = .ok r) ↔ Foldable rs) ∧
    (∀ r, ofRecords rs = .ok r → r = gathered rs) ∧
    (∀ rs', (∀ kind, ofKind kind rs' = ofKind kind rs) →
      ∀ r, ofRecords rs' = .ok r ↔ ofRecords rs = .ok r) ∧
    (∀ e, ofRecords rs = .error e ↔ ∃ earlier x later,
      rs = earlier ++ x :: later ∧ Foldable earlier ∧ Offends earlier x e) ∧
    (∀ earlier x e, Offends earlier x e →
      (¬ x.BodyFits → (Fault.ofKeResponseError e).kind = .invalidRecord) ∧
      (x.BodyFits → (Fault.ofKeResponseError e).kind =
        match x.kind with
        | none => .unknownCriticalRecord
        | some .endOfMessage => .keProtocol
        | some _ => .keNegotiation)) := by
  refine ⟨⟨?_, fun h => ⟨_, ofRecords_of_foldable h⟩⟩, fun r h => (foldable_of_ofRecords h).2, ?_,
    fun e => ⟨?_, ?_⟩, fun _ _ _ => kind_fault_of_offends⟩
  · rintro ⟨r, h⟩
    exact (foldable_of_ofRecords h).1
  · intro rs' hsame r
    exact ⟨ofRecords_eq_ok_of_ofKind_eq fun kind => (hsame kind).symm,
      ofRecords_eq_ok_of_ofKind_eq hsame⟩
  · intro h
    rcases foldable_or_offends rs with hrs | ⟨earlier, x, later, e', rfl, hearlier, hx⟩
    · rw [ofRecords_of_foldable hrs] at h
      cases h
    · rw [ofRecords_of_offends hearlier hx] at h
      obtain rfl := Except.error.inj h
      exact ⟨earlier, x, later, rfl, hearlier, hx⟩
  · rintro ⟨earlier, x, later, rfl, hearlier, hx⟩
    exact ofRecords_of_offends hearlier hx later

/-- A second list of protocols is one too many also behind an empty one. -/
example : ofRecords [Record.nextProtocol [], Record.nextProtocol [0]] =
    .error (.duplicate "Next Protocol Negotiation") := by rfl

end KeResponse

end TimeProbe

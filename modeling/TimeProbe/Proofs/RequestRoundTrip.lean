import Mathlib.Data.List.TakeWhile
import TimeProbe.Proofs.RecordCodec
import TimeProbe.Proofs.ResponseFold
import TimeProbe.Proofs.StreamSteps

/-!
# Requests read back from the wire

A request is written as records, and whoever reads the octets finds these records again. Taken for
an answer, the records in front of End of Message say what the request proposes, asks for and
carries along, up to the width of the words that identifiers are written into.
-/

namespace TimeProbe

/-- The octets of a text of ASCII. -/
def Bytes.ofAscii (s : String) : Bytes := s.toList.map fun c => UInt8.ofNat c.toNat

/-- A text of ASCII is written octet by octet. -/
theorem Bytes.ofAscii?_eq {s : String} (h : ∀ c ∈ s.toList, isAscii c = true) :
    ofAscii? s = .ok (ofAscii s) := by
  have hnone : s.toList.dropWhile isAscii = [] := List.dropWhile_eq_nil_iff.mpr h
  rw [ofAscii?, hnone]
  rfl

/-- The octet of a character of ASCII has its number. -/
theorem toNat_ofNat_of_isAscii {c : Char} (h : isAscii c = true) :
    (UInt8.ofNat c.toNat).toNat = c.toNat := by
  have hlt : c.toNat < 128 := of_decide_eq_true h
  rw [UInt8.toNat_ofNat']
  omega

namespace Record

/-- A text of ASCII is read from the octets it is written as. -/
theorem asciiText_ofAscii {s : String} (h : ∀ c ∈ s.toList, isAscii c = true) :
    asciiText (Bytes.ofAscii s) = s := by
  have hchars : s.toList.map (fun c => Char.ofNat (UInt8.ofNat c.toNat).toNat) = s.toList := by
    refine (List.map_congr_left fun c hc => ?_).trans (List.map_id s.toList)
    rw [toNat_ofNat_of_isAscii (h c hc), Char.ofNat_toNat]
    rfl
  rw [asciiText, Bytes.ofAscii, List.map_map]
  exact (congrArg String.ofList hchars).trans (String.ofList_toList)

/-- Each identifier takes two octets. -/
theorem length_words (ids : List Int) : (words ids).length = 2 * ids.length := by
  induction ids with
  | nil => rfl
  | cons id ids ih =>
    rw [words, List.flatMap_cons, List.length_append, Bytes.length_ofInt, List.length_cons]
    rw [words] at ih
    omega

/-- Identifiers come back reduced to the width of a word. -/
theorem splitWords_words (ids : List Int) :
    splitWords (words ids) = ids.map fun id => (id % 65536).toNat := by
  induction ids with
  | nil => rfl
  | cons id ids ih =>
    have hword : (Bytes.toNat (Bytes.ofInt 2 id) : Int) = id % 65536 := Bytes.toNat_ofInt 2 id
    have hlength := Bytes.length_ofInt 2 id
    rw [words, List.flatMap_cons]
    match hoctets : Bytes.ofInt 2 id with
    | [b₁, b₀] =>
      rw [hoctets] at hword
      change Bytes.toNat [b₁, b₀] :: splitWords (words ids) = _
      rw [ih, List.map_cons, ← hword, Int.toNat_natCast]
    | [] | [_] | _ :: _ :: _ :: _ => simp [hoctets] at hlength

/-- The number of a type tells its kind. -/
theorem kind_code (t : RecordType) (critical : Bool) (body : Bytes) :
    kind ⟨t.code, critical, body⟩ = some t := by
  cases t <;> rfl

/-- The number of a type fits its word. -/
theorem fits_code (t : RecordType) (critical : Bool) {body : Bytes} (hbody : body.length ≤ 65535) :
    Fits ⟨t.code, critical, body⟩ := by
  have hrange : 0 ≤ t.code ∧ t.code < 0x8000 := by cases t <;> decide
  exact ⟨hrange.1, hrange.2, hbody⟩

/-- The records of a kind among some records and those behind them. -/
theorem ofKind_append (kind : Option RecordType) (rs rs' : List Record) :
    ofKind kind (rs ++ rs') = ofKind kind rs ++ ofKind kind rs' := List.filter_append rs rs'

/-- A record that may go along with a request: an error or a warning with a code, a cookie, or a
record of an unknown type that is not critical. -/
structure Accompanies (r : Record) : Prop where
  fits : r.Fits
  kind : (r.kind = some .error ∨ r.kind = some .warning) ∧ r.body.length = 2 ∨
    r.kind = some .newCookie ∨ r.kind = none ∧ r.critical = false

namespace Accompanies

variable {r : Record}

/-- What goes along with a request does not end it. -/
theorem notEnd (h : r.Accompanies) : r.kind ≠ some .endOfMessage := by
  intro hkind
  rcases h.kind with ⟨hcode | hcode, -⟩ | hcookie | ⟨hnone, -⟩ <;> simp_all

/-- What goes along with a request is of no type that may occur once. -/
theorem label?_eq_none {t : RecordType} (h : r.Accompanies) (hkind : r.kind = some t) :
    t.label? = none := by
  rcases h.kind with ⟨hcode | hcode, -⟩ | hcookie | ⟨hnone, -⟩
  · obtain rfl := Option.some.inj (hcode.symm.trans hkind)
    rfl
  · obtain rfl := Option.some.inj (hcode.symm.trans hkind)
    rfl
  · obtain rfl := Option.some.inj (hcookie.symm.trans hkind)
    rfl
  · rw [hnone] at hkind
    cases hkind

/-- What goes along with a request is not critical if it is of an unknown type. -/
theorem notCritical (h : r.Accompanies) (hkind : r.kind = none) : r.critical = false := by
  rcases h.kind with ⟨hcode | hcode, -⟩ | hcookie | ⟨-, hplain⟩ <;> simp_all

/-- The body of what goes along with a request fits its type. -/
theorem bodyFits (h : r.Accompanies) : r.BodyFits := by
  rcases h.kind with ⟨hcode | hcode, hlength⟩ | hcookie | ⟨hnone, -⟩ <;> simp_all [BodyFits]

end Accompanies

end Record

open Record

namespace KeRequest

/-- A request that fits the wire: each list of identifiers fits one record, the server is a text of
ASCII that does, the port is a word, and the extra records may go along. -/
structure Writable (q : KeRequest) : Prop where
  nextProtocol_le : q.nextProtocol.length ≤ 32767
  aead_le : q.aead.length ≤ 32767
  server : ∀ name ∈ q.server, (∀ c ∈ name.toList, isAscii c = true) ∧ name.length ≤ 65535
  port : ∀ n ∈ q.port, 0 ≤ n ∧ n ≤ 65535
  extra : ∀ r ∈ q.extra, r.Accompanies

/-- The record that asks for a server, if the request does. -/
def serverRecords (q : KeRequest) : List Record :=
  q.server.toList.map fun name => ⟨RecordType.server.code, false, Bytes.ofAscii name⟩

/-- The record that asks for a port, if the request does. -/
def portRecords (q : KeRequest) : List Record :=
  q.port.toList.map fun n => ⟨RecordType.port.code, false, Bytes.ofInt 2 n⟩

/-- The records that say what a request proposes and asks for. -/
def requested (q : KeRequest) : List Record :=
  [Record.nextProtocol q.nextProtocol, Record.aeadAlgorithm q.aead q.criticalAead] ++
    q.serverRecords ++ q.portRecords

/-- The records of a request that fits the wire, End of Message left out. -/
def content (q : KeRequest) : List Record := q.requested ++ q.extra

/-- The response that says what a request proposes, asks for and carries along. -/
def echo (q : KeRequest) : KeResponse where
  nextProtocol := some (q.nextProtocol.map fun id => (id % 65536).toNat)
  aead := some (q.aead.map fun id => (id % 65536).toNat)
  errors := (ofKind (some .error) q.extra).map fun r => Bytes.toNat r.body
  warnings := (ofKind (some .warning) q.extra).map fun r => Bytes.toNat r.body
  cookies := (ofKind (some .newCookie) q.extra).map (·.body)
  server := q.server
  port := q.port.map Int.toNat
  ignored := ofKind none q.extra

variable {q : KeRequest}

/-- A request that fits the wire has records, with End of Message behind its content. -/
theorem Writable.records_eq (hq : q.Writable) :
    q.records = .ok (q.content ++ [endOfMessage]) := by
  obtain ⟨nextProtocol, aead, criticalAead, server, port, extra⟩ := q
  have hserver (name : String) (hname : server = some name) :
      Record.server name false = .ok ⟨RecordType.server.code, false, Bytes.ofAscii name⟩ := by
    rw [Record.server, Bytes.ofAscii?_eq (hq.server name hname).1]
  have hport (n : Int) (hn : port = some n) :
      Record.port n false = .ok ⟨RecordType.port.code, false, Bytes.ofInt 2 n⟩ := by
    rw [Record.port, ofWord, Bytes.word?, if_pos (hq.port n hn)]
  cases server <;> cases port <;>
    simp [records, content, requested, serverRecords, portRecords, hserver, hport, bind,
      Except.bind, pure, Except.pure]

/-- What is true of each record that a request may be built from is true of all that it is. -/
theorem forall_requested {p : Record → Prop}
    (hnextProtocol : p (Record.nextProtocol q.nextProtocol))
    (haead : p (Record.aeadAlgorithm q.aead q.criticalAead))
    (hserver : ∀ name ∈ q.server, p ⟨RecordType.server.code, false, Bytes.ofAscii name⟩)
    (hport : ∀ n ∈ q.port, p ⟨RecordType.port.code, false, Bytes.ofInt 2 n⟩) :
    ∀ r ∈ q.requested, p r := by
  simp only [requested, serverRecords, portRecords, List.forall_mem_append, List.forall_mem_map,
    Option.mem_toList]
  exact ⟨⟨by simp [hnextProtocol, haead], hserver⟩, hport⟩

/-- What is true of all records of a known type that a request may be built from is true of those
that it is. -/
theorem forall_requested_of_code {p : Record → Prop}
    (hcode : ∀ (t : RecordType) (critical : Bool) (body : Bytes), t.label? ≠ none →
      p ⟨t.code, critical, body⟩) : ∀ r ∈ q.requested, p r :=
  forall_requested (hcode .nextProtocol _ _ (by decide)) (hcode .aeadAlgorithm _ _ (by decide))
    (fun _ _ => hcode .server _ _ (by decide)) fun _ _ => hcode .port _ _ (by decide)

/-- The records of a request that fits the wire fit their words. -/
theorem Writable.fits (hq : q.Writable) : ∀ r ∈ q.content, r.Fits := by
  have hrequested : ∀ r ∈ q.requested, r.Fits := by
    refine forall_requested (fits_code .nextProtocol true ?_) (fits_code .aeadAlgorithm _ ?_)
      (fun name hname => fits_code .server false ?_) fun n hn => fits_code .port false ?_
    · have hlength := hq.nextProtocol_le
      rw [length_words]
      omega
    · have hlength := hq.aead_le
      rw [length_words]
      omega
    · rw [Bytes.ofAscii, List.length_map, String.length_toList]
      exact (hq.server name hname).2
    · rw [Bytes.length_ofInt]
      decide
  exact List.forall_mem_append.mpr ⟨hrequested, fun r hr => (hq.extra r hr).fits⟩

/-- No record of the content ends the request. -/
theorem Writable.notEnd (hq : q.Writable) : ∀ r ∈ q.content, r.kind ≠ some .endOfMessage := by
  have hrequested : ∀ r ∈ q.requested, r.kind ≠ some .endOfMessage := by
    refine forall_requested_of_code fun t critical body ht hkind => ht ?_
    rw [kind_code] at hkind
    obtain rfl := Option.some.inj hkind
    rfl
  exact List.forall_mem_append.mpr ⟨hrequested, fun r hr => (hq.extra r hr).notEnd⟩

/-- No record of the content is of an unknown type and critical. -/
theorem Writable.notCritical (hq : q.Writable) :
    ∀ r ∈ q.content, r.kind = none → r.critical = false := by
  have hrequested : ∀ r ∈ q.requested, r.kind = none → r.critical = false := by
    refine forall_requested_of_code fun t critical body _ hkind => ?_
    rw [kind_code] at hkind
    cases hkind
  exact List.forall_mem_append.mpr ⟨hrequested, fun r hr => (hq.extra r hr).notCritical⟩

/-- The bodies of the content fit their types. -/
theorem Writable.bodyFits (hq : q.Writable) : ∀ r ∈ q.content, r.BodyFits := by
  have hwords (ids : List Int) : (words ids).length % 2 = 0 := by
    rw [length_words]
    omega
  have hrequested : ∀ r ∈ q.requested, r.BodyFits := by
    refine forall_requested (hwords q.nextProtocol) (hwords q.aead) (fun name hname => ?_)
      fun n hn => Bytes.length_ofInt 2 n
    intro b hb
    obtain ⟨c, hc, rfl⟩ := List.mem_map.mp hb
    have hascii := (hq.server name hname).1 c hc
    rw [toNat_ofNat_of_isAscii hascii]
    exact of_decide_eq_true hascii
  exact List.forall_mem_append.mpr ⟨hrequested, fun r hr => (hq.extra r hr).bodyFits⟩

/-- Of a type that may occur once the content has the records that the request is built from. -/
theorem Writable.ofKind_content (hq : q.Writable) {t : RecordType} (ht : t.label? ≠ none) :
    ofKind (some t) q.content =
      match t with
      | .nextProtocol => [Record.nextProtocol q.nextProtocol]
      | .aeadAlgorithm => [Record.aeadAlgorithm q.aead q.criticalAead]
      | .server => q.serverRecords
      | .port => q.portRecords
      | .endOfMessage | .error | .warning | .newCookie => [] := by
  have hextra : ofKind (some t) q.extra = [] :=
    List.filter_eq_nil_iff.mpr fun r hr hkind =>
      ht ((hq.extra r hr).label?_eq_none (of_decide_eq_true hkind))
  simp only [content, requested, ofKind_append, hextra, serverRecords, portRecords]
  cases t with
  | endOfMessage | error | warning | newCookie => exact absurd rfl ht
  | nextProtocol | aeadAlgorithm | server | port =>
    cases q.server <;> cases q.port <;>
      simp [ofKind, kind_code, Record.nextProtocol, Record.aeadAlgorithm]

/-- Of any other kind it has the extra records. -/
theorem ofKind_content_eq_extra {kind : Option RecordType}
    (hkind : ∀ t, kind = some t → t.label? = none) :
    ofKind kind q.content = ofKind kind q.extra := by
  have hother : ∀ r ∈ q.requested, r.kind ≠ kind := by
    refine forall_requested_of_code fun t critical body ht hsame => ht (hkind t ?_)
    rw [← hsame, kind_code]
  have hnone : ofKind kind q.requested = [] :=
    List.filter_eq_nil_iff.mpr (by simpa using hother)
  rw [content, ofKind_append, hnone, List.nil_append]

/-- The content of a request that fits the wire could be that of an answer. -/
theorem Writable.foldable (hq : q.Writable) : Foldable q.content := by
  refine ⟨hq.notEnd, hq.notCritical, fun t ht => ?_, hq.bodyFits⟩
  rw [hq.ofKind_content ht, serverRecords, portRecords]
  cases t <;> cases q.server <;> cases q.port <;> simp

/-- The content of a request gathers to what the request says. -/
theorem Writable.gathered_content (hq : q.Writable) :
    KeResponse.gathered q.content = q.echo := by
  have hserver : (q.serverRecords.map fun r => asciiText r.body).head? = q.server := by
    rw [serverRecords]
    cases hname : q.server with
    | none => rfl
    | some name => exact congrArg some (asciiText_ofAscii (hq.server name hname).1)
  have hport : (q.portRecords.map fun r => Bytes.toNat r.body).head? = q.port.map Int.toNat := by
    rw [portRecords]
    cases hn : q.port with
    | none => rfl
    | some n =>
      obtain ⟨hnonneg, hle⟩ := hq.port n hn
      have hword : (Bytes.toNat (Bytes.ofInt 2 n) : Int) = n :=
        Bytes.toNat_ofInt_of_lt hnonneg (show n < 65536 by omega)
      exact congrArg some (Int.toNat_natCast _ ▸ congrArg Int.toNat hword)
  have hextra (kind : Option RecordType) (hkind : ∀ t, kind = some t → t.label? = none) :
      ofKind kind q.content = ofKind kind q.extra := ofKind_content_eq_extra hkind
  rw [KeResponse.gathered, echo, hq.ofKind_content (t := .nextProtocol) (by decide),
    hq.ofKind_content (t := .aeadAlgorithm) (by decide),
    hq.ofKind_content (t := .server) (by decide), hq.ofKind_content (t := .port) (by decide),
    hserver, hport, hextra (some .error) (by simp [RecordType.label?]),
    hextra (some .warning) (by simp [RecordType.label?]),
    hextra (some .newCookie) (by simp [RecordType.label?]), hextra none (by simp)]
  simp [splitWords_words, Record.nextProtocol, Record.aeadAlgorithm]

end KeRequest

namespace World

/-- Replacing a stream by one that looks the same changes the looks of no stream. -/
theorem look_setStream {β : Type} (look : KeStream → β) {w : World} {i : Nat} {s : KeStream}
    (hs : look s = look (w.stream i)) (j : Nat) :
    look ((w.setStream i s).stream j) = look (w.stream j) := by
  rw [stream, setStream, List.getElem?_set]
  split
  next hij =>
    subst hij
    split
    · exact hs
    next hi => rw [stream, List.getElem?_eq_none (by omega)]
  next => rfl

end World

namespace Run

open KeRequest

variable {w : World} {i : Nat}

/-- Reading an answer sends nothing. -/
theorem sent_collect (i j : Nat) : Leaves (fun w => (w.stream j).sent) (collect i) := by
  refine BuiltWith.leaves (untimed_of_eq fun _ _ _ _ _ _ _ => rfl)
    (built_collect (fun _ _ => trivial) i) fun α x h => ?_
  cases h with
  | receive => exact fun w => World.look_setStream (w := w) (·.sent) (by rfl) j
  | look f => exact leaves_read _ _

/-- Sending records puts their octets behind what was sent before, whether or not it fails, and
also if a limit passes while they drain. -/
theorem sent_sendRecords (hi : i < w.streams.length) (rs : List Record) :
    ((sendRecords i rs w).2.stream i).sent = (w.stream i).sent ++ [Record.encodeAll rs] := by
  have hset (s : KeStream) : (w.setStream i s).stream i = s := by
    rw [World.stream, World.setStream, List.getElem?_set_self hi]
    rfl
  have hdrain : Leaves (fun w => (w.stream i).sent) (do
      awaitDrained
      suffer (w.stream i).sendFault) :=
    leaves_iff_keeps.mpr fun value =>
      (keeps_awaitDrained (untimed_of_eq (fun _ _ _ _ _ _ _ => rfl) value)).bind fun _ =>
        keeps_suffer fun _ _ => trivial
  exact (hdrain _).trans (congrArg (·.sent) (hset _))

/-- An exchange sends the octets of its records in one piece, however the answer comes out. -/
theorem sent_exchangeRecords (hi : i < w.streams.length) (rs : List Record) :
    ((exchangeRecords i rs w).2.stream i).sent = (w.stream i).sent ++ [Record.encodeAll rs] := by
  have hanswer : Leaves (fun w => (w.stream i).sent) (collect i >>= fun answer =>
      ofExcept ((KeResponse.ofRecords answer).mapError Fault.ofKeResponseError)) := by
    refine (sent_collect i i).bind fun answer => ?_
    cases (KeResponse.ofRecords answer).mapError Fault.ofKeResponseError <;> exact fun _ => rfl
  have hsent := sent_sendRecords hi rs
  rw [exchangeRecords]
  rcases hsend : sendRecords i rs w with ⟨ending, w₁⟩
  rw [hsend] at hsent
  cases ending with
  | done =>
    rw [bind_done hsend]
    exact (hanswer w₁).trans hsent
  | failed f =>
    rw [bind_failed hsend]
    exact hsent
  | cutOff =>
    rw [bind_cutOff hsend]
    exact hsent

/-- **A request reads back as itself.** What an exchange sends for a request that fits the wire is
one piece of octets, however the exchange ends. It decodes to the records of the request, of which
End of Message is the last and no other one ends a message. The ones in front of it fold into the
response that has the proposed identifiers reduced to sixteen bits, the server and the port of the
request, and the errors, warnings, cookies and unknown records of the extra ones in their order. -/
theorem exchangeRequest_readsBack {q : KeRequest} (hq : q.Writable) (hi : i < w.streams.length) :
    ∃ rs octets, q.records = .ok (rs ++ [Record.endOfMessage]) ∧
      (∀ r ∈ rs, r.isEndOfMessage = false) ∧
      ((exchangeRequest i q w).2.stream i).sent = (w.stream i).sent ++ [octets] ∧
      Record.decodeAll octets = .ok (rs ++ [Record.endOfMessage]) ∧
      KeResponse.ofRecords rs = .ok q.echo := by
  have hrecords := hq.records_eq
  refine ⟨q.content, Record.encodeAll (q.content ++ [Record.endOfMessage]), hrecords, ?_, ?_, ?_,
    ?_⟩
  · intro r hr
    refine Bool.eq_false_iff.mpr fun hend => hq.notEnd r hr ?_
    have htype : r.recordType = RecordType.endOfMessage.code := beq_iff_eq.mp hend
    rw [Record.kind, htype]
    rfl
  · have hdone : ofExcept (q.records.mapError Fault.ofRecordBuildError) w =
        (.done (q.content ++ [Record.endOfMessage]), w) := by
      rw [hrecords]
      rfl
    rw [exchangeRequest, bind_done hdone]
    exact sent_exchangeRecords hi _
  · refine Record.decodeAll_eq_ok_iff.mpr (Record.wireRecords_encodeAll ?_)
    refine List.forall_mem_append.mpr ⟨hq.fits, ?_⟩
    exact List.forall_mem_singleton.mpr (Record.fits_code .endOfMessage true (Nat.zero_le _))
  · rw [KeResponse.ofRecords_of_foldable hq.foldable, hq.gathered_content]

/-- Identifiers beyond sixteen bits come back reduced, an empty server and port zero as they are. -/
theorem exchangeRequest_readsBack_reduced :
    let q : KeRequest :=
      { nextProtocol := [0, -1, 65536], aead := [70000], server := some "", port := some 0
        extra := [⟨3, true, [0, 1]⟩, ⟨0x4000, false, [1, 2, 3]⟩, Record.newCookie [7]] }
    let w : World := { streams := [{ address := ⟨"192.0.2.1", 4460⟩, maxRecords := 8 }] }
    q.Writable ∧ 0 < w.streams.length ∧
      ∃ rs octets, q.records = .ok (rs ++ [Record.endOfMessage]) ∧
        ((exchangeRequest 0 q w).2.stream 0).sent = [octets] ∧
        Record.decodeAll octets = .ok (rs ++ [Record.endOfMessage]) ∧
        KeResponse.ofRecords rs = .ok
          { nextProtocol := some [0, 65535, 0], aead := some [4464], warnings := [1]
            cookies := [[7]], server := some "", port := some 0
            ignored := [⟨0x4000, false, [1, 2, 3]⟩] } := by
  intro q w
  have hextra : ∀ r ∈ q.extra, r.Accompanies := by
    simp only [q, List.forall_mem_cons]
    refine ⟨⟨?_, .inl ⟨.inr rfl, rfl⟩⟩, ⟨?_, .inr (.inr ⟨rfl, rfl⟩)⟩, ⟨?_, .inr (.inl rfl)⟩,
      List.forall_mem_nil _⟩
    all_goals exact ⟨by decide, by decide, by decide⟩
  have hq : q.Writable := ⟨by decide, by decide, by simp [q], by simp [q], hextra⟩
  have hi : 0 < w.streams.length := by decide
  obtain ⟨rs, octets, hrecords, -, hsent, hdecoded, hfolded⟩ := exchangeRequest_readsBack hq hi
  exact ⟨hq, hi, rs, octets, hrecords, hsent, hdecoded, hfolded⟩

end Run

end TimeProbe

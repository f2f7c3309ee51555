import TimeProbe.Proofs.BuiltSteps

/-!
# What is done on a stream

Whatever is sent on a key establishment stream, received or exported, the stream keeps what it was
opened with, and it goes on with what is left of its chunks. The faults that come of it are those of
the stream, of the prober's own, and those of a key that has the wrong length. Opening a stream
takes the next script. Properties that allow for this are kept by whatever is done on streams.
-/

namespace TimeProbe

/-- What becomes of a stream that is used: its chunks are used up from the front. -/
structure KeStream.Used (s s' : KeStream) : Prop where
  address : s'.address = s.address
  caFile : s'.caFile = s.caFile
  maxRecords : s'.maxRecords = s.maxRecords
  sendFault : s'.sendFault = s.sendFault
  connected : s'.connected = s.connected
  closed : s'.closed = s.closed
  chunks : s'.chunks <:+ s.chunks

/-- A wait for a record takes chunks from the front, and a fault that ends it is one of them, unless
the stream was cut inside a record. -/
theorem awaitRecord_takes (limits : List Moment) (chunks : List Chunk) (now : Moment)
    (buffer : RecordBuffer) :
    (awaitRecord limits chunks now buffer).chunks <:+ chunks ∧
      ∀ f, (awaitRecord limits chunks now buffer).ending = .failed f →
        .fault f ∈ chunks ∨ f.Own := by
  have hends (buffer : RecordBuffer) (f : Fault) (hf : endOfStream buffer = .failed f) : f.Own := by
    rw [endOfStream] at hf
    split at hf
    · cases hf
    · cases hf
      exact .of_kind rfl rfl
  induction chunks generalizing limits now buffer with
  | nil =>
    unfold awaitRecord
    split
    · exact ⟨List.suffix_refl _, nofun⟩
    · exact ⟨List.suffix_refl _, fun f hf => .inr (hends buffer f hf)⟩
  | cons chunk rest ih =>
    have hrest : rest <:+ chunk :: rest := List.suffix_cons _ _
    have hlater (limits : List Moment) (now : Moment) (buffer : RecordBuffer) :
        (awaitRecord limits rest now buffer).chunks <:+ chunk :: rest ∧
          ∀ f, (awaitRecord limits rest now buffer).ending = .failed f →
            .fault f ∈ chunk :: rest ∨ f.Own :=
      ⟨(ih limits now buffer).1.trans hrest, fun f hf =>
        ((ih limits now buffer).2 f hf).imp_left (List.mem_cons_of_mem _)⟩
    unfold awaitRecord
    split
    · exact ⟨List.suffix_refl _, nofun⟩
    · cases chunk with
      | octets data =>
        cases data with
        | nil => exact ⟨hrest, fun f hf => .inr (hends buffer f hf)⟩
        | cons b bs => exact hlater _ _ _
      | pause ticks =>
        dsimp only
        split
        · exact ⟨hrest, nofun⟩
        · exact hlater _ _ _
      | fault cause =>
        refine ⟨hrest, ?_⟩
        rintro _ ⟨⟩
        exact .inl List.mem_cons_self

/-- What a property and a bound on faults have to allow for, so that what is done on a stream that
is there keeps the property and raises no other faults. -/
structure StreamLaw (allowed : Fault → Prop) (p : World → Prop) : Prop where
  timeless : World.Timeless p
  used : ∀ (w : World) i s, p w → (w.stream i).Used s → p (w.setStream i s)
  unsent : ∀ (w : World) i, p w → ∀ f ∈ (w.stream i).sendFault, allowed f
  broken : ∀ (w : World) i f, p w → .fault f ∈ (w.stream i).chunks → allowed f
  refused : ∀ (w : World) i aead direction e, p w →
    Aead.Cipher.make aead (w.exporter i (directionExport aead direction)) = .error e →
      allowed (Fault.ofKeyError e)
  own : ∀ f : Fault, f.Own → allowed f

/-- What has to be allowed for so that closing a stream keeps the property as well. -/
structure ClosingLaw (allowed : Fault → Prop) (p : World → Prop) : Prop
    extends StreamLaw allowed p where
  marked : ∀ (w : World) i connected closed, p w →
    p (w.setStream i { w.stream i with connected, closed })

/-- What has to be allowed for so that opening a stream keeps the property too. -/
structure StreamingLaw (allowed : Fault → Prop) (p : World → Prop) : Prop
    extends ClosingLaw allowed p where
  entered : ∀ (w : World) address caFile maxRecords, p w →
    p (Run.enterStream address caFile maxRecords w).2
  unopened : ∀ (w : World) script, p w → script ∈ w.keScripts.head? →
    ∀ f ∈ script.openFault, allowed f

namespace StreamLaw

open Run

variable {α : Type} {allowed : Fault → Prop} {p : World → Prop}

/-- Sending octets keeps what the law allows for. -/
theorem keeps_sendOctets (law : StreamLaw allowed p) (i : Nat) (data : Bytes) :
    Keeps allowed p (sendOctets i data) := by
  have hrecord : Keeps allowed p (updateStream i fun s => { s with sent := s.sent ++ [data] }) :=
    ensures_update fun w hw =>
      law.used w i _ hw ⟨rfl, rfl, rfl, rfl, rfl, rfl, List.suffix_refl _⟩
  intro w hw
  exact (hrecord.bind fun _ => (keeps_awaitDrained law.timeless).bind fun _ =>
    keeps_suffer (law.unsent w i hw)) w hw

/-- Receiving a record keeps what the law allows for. -/
theorem keeps_receiveRecord (law : StreamLaw allowed p) (i : Nat) :
    Keeps allowed p (receiveRecord i) := by
  intro w hw
  obtain ⟨hchunks, hfault⟩ :=
    awaitRecord_takes w.limits (w.stream i).chunks w.now (w.stream i).buffer
  rw [receiveRecord]
  dsimp only
  generalize awaitRecord w.limits (w.stream i).chunks w.now (w.stream i).buffer = wait
    at hchunks hfault ⊢
  have hset := law.used w i { w.stream i with chunks := wait.chunks, buffer := wait.buffer } hw
    ⟨rfl, rfl, rfl, rfl, rfl, rfl, hchunks⟩
  refine ⟨law.timeless.overlooking _ (law.timeless.withNow wait.moment hset), ?_⟩
  cases hending : wait.ending with
  | done found => trivial
  | failed f => exact (hfault f hending).elim (law.broken w i f hw) (law.own f)
  | cutOff => trivial

/-- Exporting keeps what the law allows for. -/
theorem keeps_exportKey (law : StreamLaw allowed p) (i : Nat) (use : Export) :
    Keeps allowed p (exportKey i use) :=
  fun w hw => ⟨law.used w i _ hw ⟨rfl, rfl, rfl, rfl, rfl, rfl, List.suffix_refl _⟩, trivial⟩

/-- Everything that is done on a stream keeps what the law allows for. -/
theorem keeps (law : StreamLaw allowed p) {i : Nat} {x : Run α} (h : OnStream i α x) :
    Keeps allowed p x := by
  cases h with
  | send data => exact law.keeps_sendOctets i data
  | receive => exact law.keeps_receiveRecord i
  | exportKey use => exact law.keeps_exportKey i use
  | look f => exact keeps_read _
  | derive aead direction =>
    refine (law.keeps_exportKey i _).follow fun w key w' hw hkey => ?_
    have hleft := (law.keeps_exportKey i (directionExport aead direction) w hw).1
    rw [hkey] at hleft
    cases hkey
    cases hmake : Aead.Cipher.make aead (w.exporter i (directionExport aead direction)) with
    | ok key => exact ⟨hleft, trivial⟩
    | error e => exact ⟨hleft, law.refused w i aead direction e hw hmake⟩

end StreamLaw

namespace ClosingLaw

open Run

variable {allowed : Fault → Prop} {p : World → Prop}

/-- Closing a stream keeps what the law allows for. -/
theorem keeps_closeStream (law : ClosingLaw allowed p) (i : Nat) :
    Keeps allowed p (closeStream i) :=
  (keeps_awaitDrained law.timeless).bind fun _ =>
    ensures_update fun w hw => law.marked w i false _ hw

/-- Opening a stream establishes what the law allows for, if entering it does and the fault of its
script is allowed. -/
theorem ensures_openStream {q : World → Prop} (law : ClosingLaw allowed p) (address : Address)
    (caFile : Option String) (maxRecords : Option Int)
    (hentered : ∀ w, q w → p (enterStream address caFile maxRecords w).2)
    (hunopened : ∀ (w : World) script, q w → script ∈ w.keScripts.head? →
      ∀ f ∈ script.openFault, allowed f) :
    Ensures allowed q p (openStream address caFile maxRecords) := by
  have hawait (ticks : Nat) : Keeps allowed p (awaiting ticks) :=
    keeps_awaiting law.timeless ticks
  have hmark (i : Nat) (connected : Bool) :
      Keeps allowed p (updateStream i fun s => { s with connected }) :=
    ensures_update fun w hw => law.marked w i connected _ hw
  have hconnect (i ticks : Nat) {fault : Option Fault} (hfault : ∀ f ∈ fault, allowed f) :
      Keeps allowed p (connectStream i ticks fault) :=
    (hawait ticks).bind fun _ => (keeps_suffer hfault).bind fun _ => hmark i true
  have hsecure (i ticks : Nat) {fault : Option Fault} (hfault : ∀ f ∈ fault, allowed f) :
      Keeps allowed p (secureStream i ticks fault) := by
    refine (hawait ticks).bind fun _ => ?_
    cases fault with
    | none => exact keeps_pure ()
    | some cause =>
      have hfail : Keeps allowed p (fail cause : Run Unit) := keeps_fail (hfault cause rfl)
      dsimp only [abandonStream]
      split
      · exact (keeps_awaitDrained law.timeless).bind fun _ => (hmark i false).bind fun _ => hfail
      · exact hfail
  intro w hw
  have hopen (script : KeScript) (hscript : w.keScripts.head? = some script) (i : Nat) :
      Keeps allowed p (do
        let opening ← nextOpening
        connectStream i opening.connectTicks
          (if opening.failsInHandshake then none else script.openFault)
        secureStream i opening.handshakeTicks
          (if opening.failsInHandshake then script.openFault else none)
        return i) := by
    have hfault := hunopened w script hw hscript
    have hnone : ∀ f ∈ (none : Option Fault), allowed f := nofun
    have hopening : Keeps allowed p nextOpening :=
      fun w hw => ⟨law.timeless w _ _ _ _ _ _ hw, trivial⟩
    refine hopening.bind fun opening =>
      (hconnect i _ ?_).bind fun _ => (hsecure i _ ?_).bind fun _ => keeps_pure i
    · split
      · exact hnone
      · exact hfault
    · split
      · exact hfault
      · exact hnone
  have henter : enterStream address caFile maxRecords w =
      (.done (w.streams.length, w.keScripts.head?), (enterStream address caFile maxRecords w).2) :=
    rfl
  rw [openStream, bind_done henter]
  cases hscript : w.keScripts.head? with
  | none => exact ⟨hentered w hw, law.own _ (.of_kind rfl rfl)⟩
  | some script => exact hopen script hscript _ _ (hentered w hw)

end ClosingLaw

/-- Opening a stream keeps what the law allows for. -/
theorem StreamingLaw.keeps_openStream {allowed : Fault → Prop} {p : World → Prop}
    (law : StreamingLaw allowed p) (address : Address) (caFile : Option String)
    (maxRecords : Option Int) :
    Run.Keeps allowed p (Run.openStream address caFile maxRecords) :=
  law.ensures_openStream address caFile maxRecords
    (fun w => law.entered w address caFile maxRecords) law.unopened

end TimeProbe

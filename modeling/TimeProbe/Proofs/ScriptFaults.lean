import TimeProbe.Proofs.ElementarySteps

/-!
# The faults that scripts prescribe

Where scripts prescribe no other than allowed faults, and the prober's own ones are allowed, nothing
that is built of elementary steps raises another one, and what is left of the scripts prescribes no
other either.
-/

namespace TimeProbe

/-- Whatever stands in an empty place has any property. -/
theorem forall_mem_none {α : Type} (p : α → Prop) : ∀ a ∈ (none : Option α), p a := nofun

variable {allowed : Fault → Prop}

/-- An arrival that reports no other than allowed faults. -/
def Arrival.RaisesOnly (allowed : Fault → Prop) : Arrival → Prop
  | .datagram _ => True
  | .socketError cause => ∀ f ∈ cause, allowed f

/-- A send that brings about no other than allowed faults. -/
def SendScript.RaisesOnly (allowed : Fault → Prop) : SendScript → Prop
  | .deliver events => ∀ event ∈ events, event.arrival.RaisesOnly allowed
  | .fail cause => allowed cause

/-- An endpoint script that prescribes no other than allowed faults. -/
structure UdpScript.RaisesOnly (allowed : Fault → Prop) (s : UdpScript) : Prop where
  openFault : ∀ f ∈ s.openFault, allowed f
  onOpen : ∀ event ∈ s.onOpen, event.arrival.RaisesOnly allowed
  sends : ∀ send ∈ s.sends, send.RaisesOnly allowed
  closeFault : ∀ f ∈ s.closeFault, allowed f

/-- An endpoint that has no other than allowed faults ahead. -/
structure Endpoint.RaisesOnly (allowed : Fault → Prop) (e : Endpoint) : Prop where
  pending : ∀ arrival ∈ e.pending, arrival.2.RaisesOnly allowed
  sends : ∀ send ∈ e.sends, send.RaisesOnly allowed
  closeFault : ∀ f ∈ e.closeFault, allowed f

/-- A piece of a stream that is no other than an allowed fault. -/
def Chunk.RaisesOnly (allowed : Fault → Prop) : Chunk → Prop
  | .fault cause => allowed cause
  | _ => True

/-- A stream script that prescribes no other than allowed faults. -/
structure KeScript.RaisesOnly (allowed : Fault → Prop) (s : KeScript) : Prop where
  openFault : ∀ f ∈ s.openFault, allowed f
  chunks : ∀ chunk ∈ s.chunks, chunk.RaisesOnly allowed
  sendFault : ∀ f ∈ s.sendFault, allowed f

/-- A stream that has no other than allowed faults ahead. -/
structure KeStream.RaisesOnly (allowed : Fault → Prop) (s : KeStream) : Prop where
  chunks : ∀ chunk ∈ s.chunks, chunk.RaisesOnly allowed
  sendFault : ∀ f ∈ s.sendFault, allowed f

namespace Endpoint

/-- Cutting what arrives adds no fault. -/
theorem raisesOnly_cut {arrival : Arrival} (h : arrival.RaisesOnly allowed) (limit : Int) :
    (cut limit arrival).RaisesOnly allowed := by
  cases arrival with
  | datagram data => trivial
  | socketError cause => exact h

/-- An endpoint that is used has no other faults ahead than before. -/
theorem RaisesOnly.of_used {e e' : Endpoint} (he : e.RaisesOnly allowed) (hused : e.Used e') :
    e'.RaisesOnly allowed := by
  refine ⟨fun a ha => ?_, fun send hsend => he.sends send (hused.sends.subset hsend),
    hused.closeFault ▸ he.closeFault⟩
  rcases hused.pending a ha with hmem | ⟨events, hevents, event, hevent, hcut⟩
  · exact he.pending a hmem
  · rw [hcut]
    exact raisesOnly_cut (he.sends _ hevents event hevent) _

end Endpoint

/-- A stream that is used has no other faults ahead than before. -/
theorem KeStream.RaisesOnly.of_used {s s' : KeStream} (hs : s.RaisesOnly allowed)
    (hused : s.Used s') : s'.RaisesOnly allowed :=
  ⟨fun chunk hchunk => hs.chunks chunk (hused.chunks.subset hchunk), hused.sendFault ▸ hs.sendFault⟩

namespace World

variable {w : World}

/-- Streams that have no other than allowed faults ahead, the ones that will be opened included. -/
structure StreamsAllow (allowed : Fault → Prop) (w : World) : Prop where
  scripts : ∀ s ∈ w.keScripts, s.RaisesOnly allowed
  streams : ∀ s ∈ w.streams, s.RaisesOnly allowed

/-- A stream of such a world has no other than allowed faults ahead, also one that is not there. -/
theorem StreamsAllow.stream (hw : w.StreamsAllow allowed) (i : Nat) :
    (w.stream i).RaisesOnly allowed := by
  rw [World.stream]
  cases hfound : w.streams[i]? with
  | none => exact ⟨List.forall_mem_nil _, forall_mem_none _⟩
  | some s => exact hw.streams s (List.mem_of_getElem? hfound)

/-- A stream may be replaced by one that has no other than allowed faults ahead. -/
theorem StreamsAllow.setStream (hw : w.StreamsAllow allowed) (i : Nat) {s : KeStream}
    (hs : s.RaisesOnly allowed) : (w.setStream i s).StreamsAllow allowed := by
  refine { hw with streams := fun s' hs' => ?_ }
  rcases List.mem_or_eq_of_mem_set hs' with hmem | rfl
  · exact hw.streams s' hmem
  · exact hs

/-- The stream that the next script makes has no other than allowed faults ahead. -/
theorem StreamsAllow.enterStream (hw : w.StreamsAllow allowed) (address : Address)
    (caFile : Option String) (maxRecords : Option Int) :
    (Run.enterStream address caFile maxRecords w).2.StreamsAllow allowed := by
  refine ⟨fun s hs => hw.scripts s (List.mem_of_mem_tail hs), fun s hs => ?_⟩
  rcases List.mem_append.mp hs with hmem | hmem
  · exact hw.streams s hmem
  rw [List.mem_singleton.mp hmem]
  cases hscripts : w.keScripts with
  | nil => exact ⟨List.forall_mem_nil _, forall_mem_none _⟩
  | cons script rest =>
    have hscript := hw.scripts script (hscripts ▸ List.mem_cons_self)
    exact ⟨hscript.chunks, hscript.sendFault⟩

/-- A world all of whose scripts prescribe no other than allowed faults. -/
structure RaisesOnly (allowed : Fault → Prop) (w : World) : Prop extends
    w.StreamsAllow allowed where
  udpScripts : ∀ s ∈ w.udpScripts, s.RaisesOnly allowed
  endpoints : ∀ e ∈ w.endpoints, e.RaisesOnly allowed

/-- An endpoint of such a world has no other than allowed faults ahead, also one that is not
there. -/
theorem RaisesOnly.endpoint (hw : w.RaisesOnly allowed) (i : Nat) :
    (w.endpoint i).RaisesOnly allowed := by
  rw [World.endpoint]
  cases hfound : w.endpoints[i]? with
  | none => exact ⟨List.forall_mem_nil _, List.forall_mem_nil _, forall_mem_none _⟩
  | some e => exact hw.endpoints e (List.mem_of_getElem? hfound)

/-- An endpoint may be replaced by one that has no other than allowed faults ahead. -/
theorem RaisesOnly.setEndpoint (hw : w.RaisesOnly allowed) (i : Nat) {e : Endpoint}
    (he : e.RaisesOnly allowed) : (w.setEndpoint i e).RaisesOnly allowed := by
  refine { hw with endpoints := fun e' he' => ?_ }
  rcases List.mem_or_eq_of_mem_set he' with hmem | rfl
  · exact hw.endpoints e' hmem
  · exact he

end World

/-- The law of streams for a part of the world that says what faults they have ahead. -/
theorem streamingLaw_of_streamsAllow {p : World → Prop} (htimeless : World.Timeless p)
    (hown : ∀ f : Fault, f.Own → allowed f)
    (hrefused : ∀ (w : World) i aead direction e, p w →
      Aead.Cipher.make aead (w.exporter i (directionExport aead direction)) = .error e →
        allowed (Fault.ofKeyError e))
    (hallow : ∀ w, p w → w.StreamsAllow allowed)
    (hstreams : ∀ (w : World) keScripts streams, p w →
      { w with keScripts, streams }.StreamsAllow allowed → p { w with keScripts, streams }) :
    StreamingLaw allowed p where
  timeless := htimeless
  used w i _ hw hused :=
    hstreams w _ _ hw ((hallow w hw).setStream i (((hallow w hw).stream i).of_used hused))
  unsent w i hw := ((hallow w hw).stream i).sendFault
  broken w i _ hw hmem := ((hallow w hw).stream i).chunks _ hmem
  refused := hrefused
  own := hown
  entered w address caFile maxRecords hw :=
    hstreams w _ _ hw ((hallow w hw).enterStream address caFile maxRecords)
  marked w i _ _ hw :=
    have hstream := (hallow w hw).stream i
    hstreams w _ _ hw ((hallow w hw).setStream i ⟨hstream.chunks, hstream.sendFault⟩)
  unopened w script hw hscript :=
    ((hallow w hw).scripts script (List.mem_of_head? hscript)).openFault

section Homemade

variable (hmade : ∀ f : Fault, f.Homemade → allowed f)
include hmade

namespace Endpoint

variable {cause : Fault}

/-- A send that cannot be done raises its cause, or a fault of the prober's own. -/
theorem allowed_sendFault (hcause : allowed cause) (address : Address) (data : Bytes) :
    allowed (sendFault address data cause) := by
  rw [sendFault]
  split
  · exact hmade _ (.of_kind rfl rfl)
  · exact hcause

/-- An endpoint that cannot be opened raises its cause, or a fault of the prober's own. -/
theorem allowed_openFault (hcause : allowed cause) (address : Address) :
    allowed (openFault address cause) := by
  rw [openFault]
  split
  · exact hmade _ (.of_kind rfl rfl)
  · exact hcause

/-- A socket error raises its cause, or a fault of the prober's own. -/
theorem allowed_receiveFault {cause : Option Fault} (hcause : ∀ f ∈ cause, allowed f)
    (address : Address) : allowed (receiveFault address cause) := by
  cases cause with
  | none => exact hmade _ (.of_kind rfl rfl)
  | some cause =>
    rw [receiveFault]
    split
    · exact hcause cause rfl
    split <;> exact hmade _ (.of_kind rfl rfl)

end Endpoint

/-- **Only what scripts prescribe.** Where scripts prescribe no other than allowed faults, and the
prober's own are allowed, elementary steps raise no others. -/
theorem elementaryLaw_raisesOnly : ElementaryLaw allowed (World.RaisesOnly allowed) where
  endpoint :=
    { timeless := fun _ _ _ _ _ _ _ hw => { hw with }
      used := fun w i _ hw hused => hw.setEndpoint i ((hw.endpoint i).of_used hused)
      unsent := fun w i cause hw hmem =>
        Endpoint.allowed_sendFault hmade ((hw.endpoint i).sends _ hmem)
      broken := fun w i time cause hw hmem =>
        Endpoint.allowed_receiveFault hmade ((hw.endpoint i).pending _ hmem)
      homemade := hmade }
  stream := streamingLaw_of_streamsAllow (fun _ _ _ _ _ _ _ hw => { hw with })
    (fun f hf => hmade f hf.toHomemade) (fun _ _ _ _ _ _ _ => hmade _ (.of_kind rfl rfl))
    (fun _ hw => hw.toStreamsAllow) fun _ _ _ hw hallow =>
      { hallow with udpScripts := hw.udpScripts, endpoints := hw.endpoints }
  opens address timeout w hw := by
    have hscript : (w.udpScripts.headD {}).RaisesOnly allowed := by
      cases hscripts : w.udpScripts with
      | nil =>
        exact ⟨forall_mem_none _, List.forall_mem_nil _, List.forall_mem_nil _, forall_mem_none _⟩
      | cons s rest => exact hw.udpScripts s (hscripts ▸ List.mem_cons_self)
    have hadd {e : Endpoint} (he : e.RaisesOnly allowed) :
        { w with udpScripts := w.udpScripts.tail,
                 endpoints := w.endpoints ++ [e] }.RaisesOnly allowed := by
      refine { hw with
        udpScripts := fun s hs => hw.udpScripts s (List.mem_of_mem_tail hs)
        endpoints := fun e' he' => ?_ }
      rcases List.mem_append.mp he' with hmem | hmem
      · exact hw.endpoints e' hmem
      · exact List.mem_singleton.mp hmem ▸ he
    rw [Run.openEndpoint]
    dsimp only
    split
    next cause hcause =>
      exact ⟨hadd ⟨List.forall_mem_nil _, hscript.sends, hscript.closeFault⟩,
        Endpoint.allowed_openFault hmade (hscript.openFault cause hcause) address⟩
    next =>
      refine ⟨hadd ⟨fun a ha => ?_, hscript.sends, hscript.closeFault⟩, trivial⟩
      rcases Endpoint.mem_schedule ha with hmem | ⟨event, hevent, hcut⟩
      · cases hmem
      · rw [hcut]
        exact Endpoint.raisesOnly_cut (hscript.onOpen event hevent) _
  closes i w hw := by
    have hset := hw.setEndpoint i (e := { w.endpoint i with closed := (w.endpoint i).closed + 1 })
      ⟨(hw.endpoint i).pending, (hw.endpoint i).sends, (hw.endpoint i).closeFault⟩
    rw [Run.closeEndpoint]
    split
    next cause hcause =>
      split
      · exact ⟨hset, trivial⟩
      · exact ⟨hset, (hw.endpoint i).closeFault cause hcause⟩
    next => exact ⟨hset, trivial⟩
  books _ _ _ _ hw := { hw with }

end Homemade

end TimeProbe

import TimeProbe.Proofs.ConnectionSteps
import TimeProbe.Proofs.ElementarySteps
import TimeProbe.Proofs.ProtectedConnection

/-!
# The inventory of a run

The inventory of a world is what is opened and closed in it: the scripts that are left, the
endpoints with their addresses, the streams with their connections, and how often each of them was
closed. What a body does on a connection leaves the inventory as it is. So what a run opens and
closes is determined by the few steps that open and close, and by the jar. An endpoint is opened and
closed at once. A stream is not: a limit may cut its opening off, or its closing, and an interrupt
may come in its handshake. It is left behind then, and it may still be connected.
-/

namespace TimeProbe

/-- What is opened and closed in a world, and the jar. -/
structure Inventory where
  udpScripts : List UdpScript
  keScripts : List KeScript
  /-- The address of each endpoint, and how often the endpoint was closed. -/
  endpoints : List (Address × Nat)
  /-- Whether each stream is connected, and how often it was closed. -/
  streams : List (Bool × Nat)
  /-- The endpoint of each protected connection. -/
  links : List Nat
  source : Option SessionSource

/-- What the inventory holds of an endpoint. -/
def Endpoint.entry (e : Endpoint) : Address × Nat := (e.address, e.closed)

/-- What the inventory holds of a stream. -/
def KeStream.entry (s : KeStream) : Bool × Nat := (s.connected, s.closed)

/-- Where an element is replaced by one that looks changed, the list looks changed there. -/
theorem map_set_eq_modify {α β : Type} (look : α → β) (change : β → β) (xs : List α) {i : Nat}
    {b : α} (hb : ∀ a, xs[i]? = some a → look b = change (look a)) :
    (xs.set i b).map look = (xs.map look).modify i change := by
  by_cases hi : i < xs.length
  · rw [List.modify_eq_take_cons_drop (by simpa using hi), List.getElem_map,
      ← hb _ (List.getElem?_eq_getElem hi), List.set_eq_take_append_cons_drop, if_pos hi]
    simp
  · have hlength : xs.length ≤ i := Nat.le_of_not_lt hi
    rw [List.modify_eq_self (by simpa using hlength), List.set_eq_of_length_le hlength]

/-- Where an element is replaced by one that looks the same, the list looks the same. -/
theorem map_set_eq_map {α β : Type} (look : α → β) (xs : List α) {i : Nat} {b : α}
    (hb : ∀ a, xs[i]? = some a → look b = look a) : (xs.set i b).map look = xs.map look :=
  (map_set_eq_modify look id xs hb).trans (List.modify_id i _)

/-- Changing the last element of a list. -/
theorem modify_length_append_singleton {α : Type} (f : α → α) (xs : List α) (a : α) :
    (xs ++ [a]).modify xs.length f = xs ++ [f a] := by
  rw [List.modify_eq_take_cons_drop (by simp)]
  simp

namespace World

/-- The inventory of a world. -/
def inventory (w : World) : Inventory :=
  { udpScripts := w.udpScripts
    keScripts := w.keScripts
    endpoints := w.endpoints.map (·.entry)
    streams := w.streams.map (·.entry)
    links := w.sessions.map (·.1)
    source := w.source }

variable {w : World} {i : Nat}

/-- An endpoint may change in other ways than the inventory shows. -/
theorem inventory_setEndpoint {e : Endpoint} (he : e.entry = (w.endpoint i).entry) :
    (w.setEndpoint i e).inventory = w.inventory := by
  have hmap : (w.endpoints.set i e).map (·.entry) = w.endpoints.map (·.entry) := by
    refine map_set_eq_map _ _ fun found hfound => ?_
    rw [he, endpoint, hfound]
    rfl
  simp only [inventory, setEndpoint, hmap]

/-- A stream may change in other ways than the inventory shows. -/
theorem inventory_setStream {s : KeStream} (hs : s.entry = (w.stream i).entry) :
    (w.setStream i s).inventory = w.inventory := by
  have hmap : (w.streams.set i s).map (·.entry) = w.streams.map (·.entry) := by
    refine map_set_eq_map _ _ fun found hfound => ?_
    rw [hs, stream, hfound]
    rfl
  simp only [inventory, setStream, hmap]

/-- A stream may be marked as the inventory shows. -/
theorem inventory_markStream {s : KeStream} {mark : Bool × Nat → Bool × Nat}
    (hs : s.entry = mark (w.stream i).entry) :
    (w.setStream i s).inventory =
      { w.inventory with streams := w.inventory.streams.modify i mark } := by
  have hmap : (w.streams.set i s).map (·.entry) = (w.streams.map (·.entry)).modify i mark := by
    refine map_set_eq_modify _ _ _ fun found hfound => ?_
    rw [hs, stream, hfound]
    rfl
  simp only [inventory, setStream, hmap]

/-- A pool is no matter of the inventory. -/
theorem inventory_setPool (w : World) (i : Nat) (pool : CookiePool) :
    (w.setPool i pool).inventory = w.inventory := by
  rw [setPool]
  split
  next endpoint s hfound =>
    have hmap : (w.sessions.set i (endpoint, { s with pool })).map (·.1) =
        w.sessions.map (·.1) := by
      refine map_set_eq_map _ _ fun found hfound' => ?_
      rw [hfound] at hfound'
      cases hfound'
      rfl
    simp only [inventory, hmap]
  · rfl

/-- The inventory of an endpoint that is used is the same. -/
theorem inventory_used (w : World) (i : Nat) (e : Endpoint) (h : (w.endpoint i).Used e) :
    (w.setEndpoint i e).inventory = w.inventory :=
  inventory_setEndpoint (by rw [Endpoint.entry, h.address, h.closed]; rfl)

end World

namespace Run

variable {α : Type} {endless : Prop} {x : Run α}

/-- The inventory has nothing to do with time. -/
theorem untimed_inventory : Untimed World.inventory := untimed_of_eq fun _ _ _ _ _ _ _ => rfl

/-- What is done on a stream that is there leaves the inventory. -/
theorem streamLaw_inventory (v : Inventory) :
    StreamLaw (fun _ => True) fun w : World => w.inventory = v where
  timeless _ _ _ _ _ _ _ hw := hw
  used w i s hw h :=
    (World.inventory_setStream (by rw [KeStream.entry, h.connected, h.closed]; rfl)).trans hw
  unsent _ _ _ _ _ := trivial
  broken _ _ _ _ _ := trivial
  refused _ _ _ _ _ _ _ := trivial
  own _ _ := trivial

/-- What happens below a session leaves the inventory. -/
theorem inventory_below (hx : Built (BelowSession endless) x) : Leaves World.inventory x :=
  hx.leaves untimed_inventory fun _ _ h =>
    h.leaves untimed_inventory World.inventory_used World.inventory_setPool

/-- What a body does on a stream leaves the inventory. -/
theorem inventory_onStream {i : Nat} (hx : Built (OrAmbient endless (OnStream i)) x) :
    Leaves World.inventory x :=
  hx.leaves untimed_inventory fun _ _ h => h.elim
    (fun h => leaves_iff_keeps.mpr fun v => (streamLaw_inventory v).keeps h)
    (·.leaves untimed_inventory)

end Run

/-- How often the endpoint of a script is opened: once, or not at all. -/
def UdpScript.openings (s : UdpScript) : Nat := if s.openFault.isNone then 1 else 0

/-- How often a stream is opened, by its script: once, or not at all. -/
def KeScript.openings? (s : Option KeScript) : Nat := if s.any (·.openFault.isNone) then 1 else 0

namespace Inventory

/-- The inventory after an endpoint was opened, or tried, and closed if it was open. -/
def withEndpoint (address : Address) (v : Inventory) : Inventory :=
  { v with
    udpScripts := v.udpScripts.tail
    endpoints := v.endpoints ++ [(address, (v.udpScripts.headD {}).openings)] }

/-- The inventory after a stream was entered, and what became of the stream. -/
def withStream (entry : Bool × Nat) (v : Inventory) : Inventory :=
  { v with keScripts := v.keScripts.tail, streams := v.streams ++ [entry] }

/-- How often the stream is opened that is entered next: once or not at all. -/
def nextOpenings (v : Inventory) : Nat := KeScript.openings? v.keScripts.head?

/-- The inventory once an endpoint was closed. -/
def closingEndpoint (i : Nat) (v : Inventory) : Inventory :=
  { v with endpoints := v.endpoints.modify i fun entry => (entry.1, entry.2 + 1) }

/-- The inventory once the endpoint of a protected connection was closed. -/
def closingLink (i : Nat) (v : Inventory) : Inventory :=
  v.links[i]?.elim v fun endpoint => v.closingEndpoint endpoint

/-- The inventory once a stream was closed. -/
def closingStream (i : Nat) (v : Inventory) : Inventory :=
  { v with streams := v.streams.modify i fun entry => (false, entry.2 + 1) }

end Inventory

namespace World

/-- An endpoint more in the world is one more in the inventory. -/
theorem inventory_addEndpoint (w : World) (scripts : List UdpScript) (e : Endpoint) :
    { w with udpScripts := scripts, endpoints := w.endpoints ++ [e] }.inventory =
      { w.inventory with
        udpScripts := scripts, endpoints := w.inventory.endpoints ++ [e.entry] } := by
  simp only [inventory, List.map_append, List.map_singleton]

/-- A stream more in the world is one more in the inventory. -/
theorem inventory_addStream (w : World) (scripts : List KeScript) (s : KeStream) :
    { w with keScripts := scripts, streams := w.streams ++ [s] }.inventory =
      { w.inventory with
        keScripts := scripts, streams := w.inventory.streams ++ [s.entry] } := by
  simp only [inventory, List.map_append, List.map_singleton]

end World

namespace Run

/-- An endpoint that is opened is the last one of the inventory and not closed yet. One that cannot
be opened is there without having been opened. -/
theorem openEndpoint_cases (address : Address) (timeout : Binary64) (w : World) :
    (∃ f v, openEndpoint address timeout w = (.failed f, v) ∧
      v.inventory = w.inventory.withEndpoint address) ∨
    (∃ v, openEndpoint address timeout w = (.done w.inventory.endpoints.length, v) ∧
      (w.inventory.udpScripts.headD {}).openings = 1 ∧
      v.inventory = { w.inventory with
        udpScripts := w.inventory.udpScripts.tail
        endpoints := w.inventory.endpoints ++ [(address, 0)] }) := by
  have hlength : w.inventory.endpoints.length = w.endpoints.length := by simp [World.inventory]
  cases hfault : (w.udpScripts.headD {}).openFault with
  | some cause =>
    have hopenings : (w.inventory.udpScripts.headD {}).openings = 0 := by
      rw [UdpScript.openings, show (w.inventory.udpScripts.headD {}).openFault = _ from hfault]
      rfl
    refine .inl ⟨_, _, by simp only [openEndpoint, hfault]; rfl, ?_⟩
    rw [World.inventory_addEndpoint, Inventory.withEndpoint, hopenings]
    rfl
  | none =>
    refine .inr ⟨_, by simp only [openEndpoint, hfault, hlength]; rfl, ?_, ?_⟩
    · rw [UdpScript.openings, show (w.inventory.udpScripts.headD {}).openFault = _ from hfault]
      rfl
    · rw [World.inventory_addEndpoint]
      rfl

/-- What waits for something, or for output to drain, raises no fault. -/
theorem Ensures.ne_failed {pre post : World → Prop} {w : World}
    (hx : Ensures (fun _ => False) pre post x) (hw : pre w) (f : Fault) : (x w).1 ≠ .failed f := by
  intro hf
  have hending := (hx w hw).2
  rw [hf] at hending
  exact hending

section Opening

variable {v : Inventory} {w : World} {i : Nat}

/-- Making the connection of a stream: it is made if no fault is prescribed and no limit comes
first. -/
theorem connectStream_cases (ticks : Nat) (fault : Option Fault) (hw : w.inventory = v) :
    (∃ w', connectStream i ticks fault w = (.done (), w') ∧ fault = none ∧
      w'.inventory = { v with streams := v.streams.modify i fun entry => (true, entry.2) }) ∨
    (∃ f w', connectStream i ticks fault w = (.failed f, w') ∧ fault = some f ∧
      w'.inventory = v) ∨
    ∃ w', connectStream i ticks fault w = (.cutOff, w') ∧ w'.inventory = v := by
  have hwait : Keeps (fun _ => False) (fun u => u.inventory = v) (awaiting ticks) :=
    keeps_awaiting (untimed_inventory v) ticks
  have hleft := (hwait w hw).1
  have hfails := hwait.ne_failed hw
  rw [connectStream]
  rcases hrun : awaiting ticks w with ⟨ending, w₁⟩
  rw [hrun] at hleft hfails
  cases ending with
  | failed f => exact absurd rfl (hfails f)
  | cutOff => exact .inr (.inr ⟨w₁, bind_cutOff hrun _, hleft⟩)
  | done _ =>
    rw [bind_done hrun]
    cases fault with
    | some f => exact .inr (.inl ⟨f, w₁, rfl, rfl, hleft⟩)
    | none => exact .inl ⟨_, rfl, rfl, hleft ▸ World.inventory_markStream rfl⟩

/-- Shaking hands on a stream: an exception gives the connection up, an interrupt does not, and a
limit leaves it as it is. -/
theorem secureStream_cases (ticks : Nat) (fault : Option Fault) (hw : w.inventory = v) :
    (∃ w', secureStream i ticks fault w = (.done (), w') ∧ fault = none ∧ w'.inventory = v) ∨
    (∃ f w', secureStream i ticks fault w = (.failed f, w') ∧ fault = some f ∧
      (f.kind.isA .other = true →
        w'.inventory = { v with streams := v.streams.modify i fun entry => (false, entry.2) }) ∧
      (f.kind.isA .other = false → w'.inventory = v)) ∨
    ∃ w', secureStream i ticks fault w = (.cutOff, w') ∧ w'.inventory = v := by
  have hwait : Keeps (fun _ => False) (fun u => u.inventory = v) (awaiting ticks) :=
    keeps_awaiting (untimed_inventory v) ticks
  have hleft := (hwait w hw).1
  have hfails := hwait.ne_failed hw
  unfold secureStream
  rcases hrun : awaiting ticks w with ⟨ending, w₁⟩
  rw [hrun] at hleft hfails
  cases ending with
  | failed f => exact absurd rfl (hfails f)
  | cutOff => exact .inr (.inr ⟨w₁, bind_cutOff hrun _, hleft⟩)
  | done _ =>
    rw [bind_done hrun]
    cases fault with
    | none => exact .inl ⟨w₁, rfl, rfl, hleft⟩
    | some f =>
      dsimp only [abandonStream]
      cases hother : f.kind.isA .other with
      | false =>
        exact .inr (.inl ⟨f, w₁, rfl, rfl, fun h => absurd (hother ▸ h) Bool.false_ne_true,
          fun _ => hleft⟩)
      | true =>
        have hdrain : Keeps (fun _ => False) (fun u => u.inventory = v) awaitDrained :=
          keeps_awaitDrained (untimed_inventory v)
        have hdrained := (hdrain w₁ hleft).1
        have hnever := hdrain.ne_failed hleft
        rw [if_pos rfl]
        rcases hrun' : awaitDrained w₁ with ⟨ending, w₂⟩
        rw [hrun'] at hdrained hnever
        cases ending with
        | failed f => exact absurd rfl (hnever f)
        | cutOff => exact .inr (.inr ⟨w₂, bind_cutOff hrun' _, hdrained⟩)
        | done _ =>
          rw [bind_done hrun']
          exact .inr (.inl ⟨f, _, rfl, rfl,
            fun _ => hdrained ▸ World.inventory_markStream rfl,
            fun h => absurd (hother ▸ h).symm Bool.false_ne_true⟩)

end Opening

/-- A stream that is opened is the last one of the inventory, connected, and not closed yet. One
whose opening ends with an exception is there without being connected. Behind an interrupt, or where
a limit cuts the opening off, it may be connected, and it is not closed. -/
theorem openStream_cases (address : Address) (caFile : Option String) (maxRecords : Option Int)
    (w : World) :
    (∃ v, openStream address caFile maxRecords w = (.done w.inventory.streams.length, v) ∧
      w.inventory.nextOpenings = 1 ∧ v.inventory = w.inventory.withStream (true, 0)) ∨
    (∃ f v connected, openStream address caFile maxRecords w = (.failed f, v) ∧
      v.inventory = w.inventory.withStream (connected, 0) ∧
      (f.kind.isA .other = true → connected = false ∧ w.inventory.nextOpenings = 0)) ∨
    ∃ v connected, openStream address caFile maxRecords w = (.cutOff, v) ∧
      v.inventory = w.inventory.withStream (connected, 0) := by
  have hlength : w.inventory.streams.length = w.streams.length := by simp [World.inventory]
  have hmodify (connected : Bool) (mark : Bool × Nat → Bool × Nat) :
      { w.inventory.withStream (connected, 0) with
        streams := (w.inventory.withStream (connected, 0)).streams.modify w.streams.length mark } =
        w.inventory.withStream (mark (connected, 0)) := by
    rw [← hlength, Inventory.withStream, modify_length_append_singleton]
    rfl
  obtain ⟨u, henter, hu⟩ : ∃ u, enterStream address caFile maxRecords w =
      (.done (w.streams.length, w.keScripts.head?), u) ∧
        u.inventory = w.inventory.withStream (false, 0) :=
    ⟨_, rfl, w.inventory_addStream _ _⟩
  rw [openStream, bind_done henter, hlength]
  cases hscript : w.keScripts.head? with
  | none =>
    refine .inr (.inl ⟨_, u, false, rfl, hu, fun _ => ⟨rfl, ?_⟩⟩)
    rw [Inventory.nextOpenings, show w.inventory.keScripts.head? = none from hscript]
    rfl
  | some script =>
    have hopenings : w.inventory.nextOpenings = if script.openFault.isNone then 1 else 0 := by
      rw [Inventory.nextOpenings, show w.inventory.keScripts.head? = some script from hscript]
      rfl
    obtain ⟨u', hnext, hu'⟩ : ∃ u', nextOpening u = (.done (u.openings.headD {}), u') ∧
        u'.inventory = w.inventory.withStream (false, 0) := ⟨_, rfl, hu⟩
    dsimp only
    rw [bind_done hnext]
    generalize u.openings.headD {} = opening
    rcases connectStream_cases opening.connectTicks
      (if opening.failsInHandshake then none else script.openFault) hu' with
      ⟨w₁, hconnect, hnone, hw₁⟩ | ⟨f, w₁, hconnect, hfault, hw₁⟩ | ⟨w₁, hconnect, hw₁⟩
    · rw [hmodify] at hw₁
      rw [bind_done hconnect]
      rcases secureStream_cases opening.handshakeTicks
        (if opening.failsInHandshake then script.openFault else none) hw₁ with
        ⟨w₂, hsecure, hnone', hw₂⟩ | ⟨f, w₂, hsecure, hfault, hgiven, hheld⟩ | ⟨w₂, hsecure, hw₂⟩
      · refine .inl ⟨w₂, bind_done hsecure _, ?_, hw₂⟩
        have hopen : script.openFault = none := by
          cases hearly : opening.failsInHandshake <;> simp_all
        rw [hopenings, hopen]
        rfl
      · rw [hmodify] at hgiven
        cases hother : f.kind.isA .other with
        | false =>
          refine .inr (.inl ⟨f, w₂, true, bind_failed hsecure _, hheld hother, ?_⟩)
          rw [hother]
          rintro ⟨⟩
        | true =>
          refine .inr (.inl ⟨f, w₂, false, bind_failed hsecure _, hgiven hother,
            fun _ => ⟨rfl, ?_⟩⟩)
          have hbroken : script.openFault = some f := by
            cases hearly : opening.failsInHandshake <;> simp_all
          rw [hopenings, hbroken]
          rfl
      · exact .inr (.inr ⟨w₂, true, bind_cutOff hsecure _, hw₂⟩)
    · refine .inr (.inl ⟨f, w₁, false, bind_failed hconnect _, hw₁, fun _ => ⟨rfl, ?_⟩⟩)
      have hbroken : script.openFault = some f := by
        cases hearly : opening.failsInHandshake <;> simp_all
      rw [hopenings, hbroken]
      rfl
    · exact .inr (.inr ⟨w₁, false, bind_cutOff hconnect _, hw₁⟩)

/-! ## Closing -/

/-- A clean-up behind a step that was cut off ends as it does without the limit that did it, and the
world differs in limits only. -/
theorem exists_pastLimit (cleanup : Run Unit) (w : World) :
    ∃ limits overlooked, pastLimit cleanup w =
      ((cleanup { w with limits := w.limits.tail }).1,
        { (cleanup { w with limits := w.limits.tail }).2 with limits, overlooked }) := by
  rcases hrun : cleanup { w with limits := w.limits.tail } with ⟨ending, v⟩
  rw [pastLimit, hrun]
  cases ending with
  | done _ => exact ⟨_, v.overlooked, rfl⟩
  | failed f => exact ⟨v.limits, _, rfl⟩
  | cutOff => exact ⟨v.limits, _, rfl⟩

/-- What a clean-up makes of a part of the world it makes of it also behind a step that was cut off,
if limits are no matter of this part. -/
theorem part_ensuring {γ : Type} {part : World → γ} {change : γ → γ} {cleanup : Run Unit}
    (hpart : ∀ (w : World) limits overlooked, part { w with limits, overlooked } = part w)
    (hcleanup : ∀ w, part (cleanup w).2 = change (part w)) (w : World) :
    part (ensuring x cleanup w).2 = change (part (x w).2) := by
  have hpast (w : World) : part (pastLimit cleanup w).2 = change (part w) := by
    obtain ⟨limits, overlooked, hpast⟩ := exists_pastLimit cleanup w
    rw [hpast, hpart, hcleanup]
    exact congrArg change (hpart w w.limits.tail w.overlooked)
  have hafter : part ((if (x w).1.isCutOff then pastLimit cleanup else cleanup) (x w).2).2 =
      change (part (x w).2) := by
    split
    · exact hpast _
    · exact hcleanup _
  rcases hused : x w with ⟨ending, w₁⟩
  rw [hused] at hafter
  rcases hrun : (if ending.isCutOff then pastLimit cleanup else cleanup) w₁ with ⟨ending', v⟩
  rw [hrun] at hafter
  simp only [ensuring, hused, hrun]
  cases ending' <;> exact hafter

/-- What a clean-up makes of the inventory it makes of it behind any step. -/
theorem inventory_ensuring {cleanup : Run Unit} {change : Inventory → Inventory}
    (hcleanup : ∀ w, (cleanup w).2.inventory = change w.inventory) (w : World) :
    (ensuring x cleanup w).2.inventory = change (x w).2.inventory :=
  part_ensuring (fun _ _ _ => rfl) hcleanup w

/-- Behind a step and a clean-up that takes no time it is as late as behind the step. -/
theorem now_ensuring {cleanup : Run Unit} (hcleanup : Leaves (·.now) cleanup) (w : World) :
    (ensuring x cleanup w).2.now = (x w).2.now := by
  have hsame : ∀ w, World.now (cleanup w).2 = id w.now := hcleanup
  exact part_ensuring (fun _ _ _ => rfl) hsame w

/-- Closing an endpoint is counted, whatever comes of it. -/
theorem inventory_closeEndpoint (i : Nat) (w : World) :
    (closeEndpoint i w).2.inventory = w.inventory.closingEndpoint i := by
  have hmap : (w.endpoints.set i { w.endpoint i with closed := (w.endpoint i).closed + 1 }).map
      (·.entry) = (w.endpoints.map (·.entry)).modify i fun entry => (entry.1, entry.2 + 1) := by
    refine map_set_eq_modify _ _ _ fun found hfound => ?_
    rw [World.endpoint, hfound]
    rfl
  have hset : (w.setEndpoint i { w.endpoint i with
      closed := (w.endpoint i).closed + 1 }).inventory = w.inventory.closingEndpoint i := by
    rw [World.inventory, World.setEndpoint, hmap]
    rfl
  rw [closeEndpoint]
  split
  · split <;> exact hset
  · exact hset

/-- Closing a protected connection closes its endpoint. -/
theorem inventory_closeProtected (i : Nat) (w : World) :
    (closeProtected i w).2.inventory = w.inventory.closingLink i := by
  have hlink : w.inventory.links[i]? = (w.session? i).map (·.1) := by
    rw [World.inventory, List.getElem?_map]
    rfl
  rw [Inventory.closingLink, hlink]
  cases hfound : w.session? i with
  | none =>
    have hfail : session i w = (.failed { kind := .runtime }, w) := by
      rw [session, bind_done (show read (·.session? i) w = (.done (w.session? i), w) from rfl),
        hfound]
      rfl
    rw [closeProtected, bind_failed hfail]
    rfl
  | some found =>
    rw [closeProtected, bind_done (session_eq hfound)]
    exact inventory_closeEndpoint found.1 w

/-- Closing a stream is counted, unless a limit comes before its output has drained. -/
theorem closeStream_cases (i : Nat) (w : World) :
    (∃ v, closeStream i w = (.done (), v) ∧ v.inventory = w.inventory.closingStream i) ∨
    ∃ v, closeStream i w = (.cutOff, v) ∧ v.inventory = w.inventory := by
  have hdrain : Keeps (fun _ => False) (fun u => u.inventory = w.inventory) awaitDrained :=
    keeps_awaitDrained (untimed_inventory w.inventory)
  have hleft := (hdrain w rfl).1
  have hfails := hdrain.ne_failed rfl
  rw [closeStream]
  rcases hrun : awaitDrained w with ⟨ending, w₁⟩
  rw [hrun] at hleft hfails
  cases ending with
  | failed f => exact absurd rfl (hfails f)
  | cutOff => exact .inr ⟨w₁, bind_cutOff hrun _, hleft⟩
  | done _ =>
    refine .inl ⟨_, bind_done hrun _, ?_⟩
    rw [← hleft]
    exact World.inventory_markStream rfl

end Run

/-- An end that was brought about neither by a limit nor by an interrupt. -/
def Ending.Orderly {α : Type} : Ending α → Prop
  | .done _ => True
  | .failed f => f.kind.isA .other = true
  | .cutOff => False

/-- What may have become of a stream that was opened so often: it was not closed more often, and
once it was closed it is connected no more. -/
structure LeftBehind (openings : Nat) (entry : Bool × Nat) : Prop where
  closed : entry.2 ≤ openings
  connected : entry.2 ≠ 0 → entry.1 = false

/-- A stream that was never closed. -/
theorem leftBehind_zero (openings : Nat) (connected : Bool) :
    LeftBehind openings (connected, 0) := ⟨Nat.zero_le _, fun h => absurd rfl h⟩

namespace Run

variable {α : Type}

/-- Closing a stream as a clean-up is counted, unless a limit comes before its output has drained,
also where the step before it was cut off. -/
theorem cleanUp_closeStream (wasCutOff : Bool) (i : Nat) (w : World) :
    (∃ v, (if wasCutOff then pastLimit (closeStream i) else closeStream i) w = (.done (), v) ∧
      v.inventory = w.inventory.closingStream i) ∨
    ∃ v, (if wasCutOff then pastLimit (closeStream i) else closeStream i) w = (.cutOff, v) ∧
      v.inventory = w.inventory := by
  cases wasCutOff with
  | false => exact closeStream_cases i w
  | true =>
    obtain ⟨limits, overlooked, hpast⟩ := exists_pastLimit (closeStream i) w
    rw [if_pos rfl, hpast]
    rcases closeStream_cases i { w with limits := w.limits.tail } with
      ⟨v, hclose, hv⟩ | ⟨v, hclose, hv⟩
    · rw [hclose]
      exact .inl ⟨_, rfl, hv⟩
    · rw [hclose]
      exact .inr ⟨_, rfl, hv⟩

/-- A stream that is lent to a body that leaves the inventory is entered. Behind an orderly end it
was closed as often as it was opened, and is connected no more. -/
theorem inventory_lendStream (address : Address) (caFile : Option String)
    (maxRecords : Option Int) {body : Nat → Run α} (hbody : ∀ i, Leaves World.inventory (body i))
    (w : World) :
    ∃ entry, LeftBehind w.inventory.nextOpenings entry ∧
      ((openStream address caFile maxRecords >>= fun i =>
        ensuring (body i) (closeStream i)) w).2.inventory = w.inventory.withStream entry ∧
      (((openStream address caFile maxRecords >>= fun i =>
        ensuring (body i) (closeStream i)) w).1.Orderly →
          entry = (false, w.inventory.nextOpenings)) := by
  rcases openStream_cases address caFile maxRecords w with
    ⟨v, hopen, hopenings, hv⟩ | ⟨f, v, connected, hopen, hv, hother⟩ | ⟨v, connected, hopen, hv⟩
  · have hleft := (hbody w.inventory.streams.length v).trans hv
    rw [bind_done hopen, hopenings]
    rcases hused : body w.inventory.streams.length v with ⟨ending, w₁⟩
    rw [hused] at hleft
    have hclosing : (w.inventory.withStream (true, 0)).closingStream w.inventory.streams.length =
        w.inventory.withStream (false, 1) := by
      rw [Inventory.closingStream, Inventory.withStream, modify_length_append_singleton]
      rfl
    rcases cleanUp_closeStream ending.isCutOff w.inventory.streams.length w₁ with
      ⟨u, hclose, hu⟩ | ⟨u, hclose, hu⟩
    · refine ⟨(false, 1), ⟨Nat.le_refl 1, fun _ => rfl⟩, ?_, fun _ => rfl⟩
      simp only [ensuring, hused, hclose]
      rw [hu, hleft, hclosing]
    · refine ⟨(true, 0), leftBehind_zero _ _, ?_, fun horderly => ?_⟩
      · simp only [ensuring, hused, hclose]
        rw [hu, hleft]
      · simp only [ensuring, hused, hclose] at horderly
        exact horderly.elim
  · refine ⟨(connected, 0), leftBehind_zero _ _, ?_, fun horderly => ?_⟩
    · rw [bind_failed hopen, hv]
    · rw [bind_failed hopen] at horderly
      obtain ⟨rfl, hnone⟩ := hother horderly
      rw [hnone]
  · refine ⟨(connected, 0), leftBehind_zero _ _, ?_, fun horderly => ?_⟩
    · rw [bind_cutOff hopen, hv]
    · rw [bind_cutOff hopen] at horderly
      exact horderly.elim

/-- An endpoint that is lent to a body that leaves the inventory is in the inventory, opened once
and closed once or neither. -/
theorem inventory_lendEndpoint (address : Address) (timeout : Binary64)
    {body : Nat → Run α} (hbody : ∀ i, Leaves World.inventory (body i)) (w : World) :
    ((openEndpoint address timeout >>= fun i =>
      ensuring (body i) (closeEndpoint i)) w).2.inventory = w.inventory.withEndpoint address := by
  rcases openEndpoint_cases address timeout w with
    ⟨f, v, hopen, hinventory⟩ | ⟨v, hopen, hopenings, hinventory⟩
  · rw [bind_failed hopen, hinventory]
  · rw [bind_done hopen, inventory_ensuring (inventory_closeEndpoint _), hbody, hinventory,
      Inventory.closingEndpoint, Inventory.withEndpoint, hopenings, modify_length_append_singleton]

/-- A key establishment enters one stream. Behind an orderly end the stream was closed as often as
it was opened, and is connected no more. -/
theorem inventory_establishTarget (c : RunConfig) (w : World) :
    ∃ entry, LeftBehind w.inventory.nextOpenings entry ∧
      (establishTarget c w).2.inventory = w.inventory.withStream entry ∧
      ((establishTarget c w).1.Orderly → entry = (false, w.inventory.nextOpenings)) :=
  inventory_lendStream _ _ _
    (fun i => inventory_onStream
      ((built_establish_default (fun _ _ => trivial) i).orAmbient :
        Built (OrAmbient True (OnStream i)) _)) w

/-- A protected connection that is lent to a body that leaves the inventory is there with its
endpoint, which is opened once and closed once or neither. -/
theorem inventory_lendSession (c : RunConfig) (out : HandedOut) {body : Nat → Run α}
    (hbody : ∀ i, Leaves World.inventory (body i)) (w : World) :
    ∃ links, ((connectSession c out >>= fun i =>
      ensuring (body i) (closeProtected i)) w).2.inventory =
        { w.inventory.withEndpoint out.address with links := links } := by
  rcases openEndpoint_cases out.address c.timeout w with
    ⟨f, v, hopen, hinventory⟩ | ⟨v, hopen, hopenings, hinventory⟩
  · have hconnect : connectSession c out w = (.failed f, v) := bind_failed hopen _
    refine ⟨w.inventory.links, ?_⟩
    rw [bind_failed hconnect, hinventory]
    rfl
  · let endpoint := w.inventory.endpoints.length
    let linked : World := { v with sessions := v.sessions ++ [(endpoint, out.session)] }
    have hconnect : connectSession c out w = (.done v.sessions.length, linked) := bind_done hopen _
    have hlinked : linked.inventory =
        { v.inventory with links := v.inventory.links ++ [endpoint] } := by
      simp only [linked, World.inventory, List.map_append, List.map_singleton]
    have hlink : linked.inventory.links[v.sessions.length]? = some endpoint := by
      simp [linked, World.inventory]
    refine ⟨linked.inventory.links, ?_⟩
    rw [bind_done hconnect, inventory_ensuring (inventory_closeProtected _), hbody,
      Inventory.closingLink, hlink, Option.elim_some, Inventory.closingEndpoint, hlinked,
      hinventory, modify_length_append_singleton, Inventory.withEndpoint, hopenings]

end Run

end TimeProbe

import TimeProbe.Proofs.ConnectionSteps
import TimeProbe.Proofs.UnseenChanges
import TimeProbe.Runner

/-!
# What the steps of a run do not see

A veil over a world takes away faults of closing an endpoint that closing would hold up anyway, and
it shows other lines as printed. No step of a confined case sees through a veil: behind one it ends
in the same way, and it leaves the same world behind the veil.
-/

namespace TimeProbe

/-- A veil: of the faults of closing an endpoint only those stay that it keeps, and of the lines
printed it makes others. It keeps the faults that closing does not hold up. -/
structure Veil where
  keeps : Fault → Bool
  lines : List String → List String
  keeps_of_not_other : ∀ f, f.kind.isA .other = false → keeps f = true

namespace Veil

variable (v : Veil)

/-- A script behind a veil. -/
def script (s : UdpScript) : UdpScript := { s with closeFault := s.closeFault.filter v.keeps }

/-- An endpoint behind a veil. -/
def endpoint (e : Endpoint) : Endpoint := { e with closeFault := e.closeFault.filter v.keeps }

end Veil

namespace World

/-- A world behind a veil. -/
def behind (w : World) (v : Veil) : World :=
  { w with
    udpScripts := w.udpScripts.map v.script
    endpoints := w.endpoints.map v.endpoint
    printed := v.lines w.printed }

variable (w : World) (v : Veil) (i : Nat)

/-- The endpoint at a place, behind a veil. -/
theorem endpoint_behind : (w.behind v).endpoint i = v.endpoint (w.endpoint i) := by
  rw [endpoint, endpoint, behind, List.getElem?_map]
  cases w.endpoints[i]? <;> rfl

/-- Replacing an endpoint behind a veil. -/
theorem setEndpoint_behind (e : Endpoint) :
    (w.behind v).setEndpoint i (v.endpoint e) = (w.setEndpoint i e).behind v := by
  simp only [setEndpoint, behind, List.map_set]

/-- Replacing a pool behind a veil. -/
theorem setPool_behind (pool : CookiePool) :
    (w.behind v).setPool i pool = (w.setPool i pool).behind v := by
  rw [setPool, setPool, show (w.behind v).sessions = w.sessions from rfl]
  split <;> rfl

/-- A veil has nothing to do with time. -/
theorem timefree_behind : Timefree (·.behind v) := fun _ _ _ _ _ _ _ => rfl

/-- A veil has nothing to do with streams. -/
theorem streamless_behind : Streamless (·.behind v) :=
  ⟨timefree_behind v, fun _ => rfl, fun _ => rfl, fun _ _ _ => rfl⟩

end World

namespace Run

open World

variable {α β : Type} {v : Veil} {endless : Prop} {x : Run α}

/-- Sending a datagram does not look at what closing will do. -/
theorem unaware_sendDatagram (i : Nat) (data : Bytes) :
    Unaware (·.behind v) (sendDatagram i data) := by
  intro w
  have hsend (e : Endpoint) : (v.endpoint e).send w.now.time data =
      ((e.send w.now.time data).1, v.endpoint (e.send w.now.time data).2) := by
    rw [Endpoint.send, Endpoint.send, show (v.endpoint e).sends = e.sends from rfl]
    split <;> rfl
  simp only [sendDatagram, World.endpoint_behind, show (w.behind v).now = w.now from rfl, hsend,
    World.setEndpoint_behind]
  cases ((w.endpoint i).send w.now.time data).1 <;> rfl

/-- Taking the next arrival does not look at what closing will do. -/
theorem unaware_nextArrival (i : Nat) : Unaware (·.behind v) (nextArrival i) := by
  intro w
  have hset (pending : List (Nat × Arrival)) :
      (w.behind v).setEndpoint i { v.endpoint (w.endpoint i) with pending := pending } =
        (w.setEndpoint i { w.endpoint i with pending := pending }).behind v :=
    w.setEndpoint_behind v i { w.endpoint i with pending := pending }
  simp only [nextArrival, World.endpoint_behind, hset,
    show ∀ e, (v.endpoint e).pending = e.pending from fun _ => rfl]
  cases (w.endpoint i).pending with
  | nil => exact unaware_waitForever (timefree_behind v) w
  | cons arrival rest =>
    dsimp only
    rw [show (w.behind v).limitPassesBy = w.limitPassesBy from rfl,
      show (w.behind v).now = w.now from rfl]
    cases w.limitPassesBy (w.now.reaching arrival.1) with
    | true => exact unaware_waitForever (timefree_behind v) w
    | false => rfl

/-- Receiving does not look at what closing will do. -/
theorem unaware_receiveArrival (i : Nat) (timeout : Option Binary64) :
    Unaware (·.behind v) (receiveArrival i timeout) := by
  refine unaware_read_bind (fun w => by rw [World.endpoint_behind]; rfl) fun e => ?_
  refine ((unaware_nextArrival i).within (timefree_behind v) _).bind fun taken => ?_
  cases taken with
  | none => exact unaware_fail _
  | some a => exact unaware_pure _

/-- An exchange does not look at what closing will do. -/
theorem unaware_exchangeRaw (i : Nat) (data : Bytes)
    (accept : Bytes → Except ReplyError (Option α)) (timeout : Option Binary64) :
    Unaware (·.behind v) (exchangeRaw i data accept timeout) := by
  refine unaware_read_bind (fun w => by rw [World.endpoint_behind]; rfl) fun e => ?_
  have hdeadline : Unaware (·.behind v) (read (·.now.deadline (timeout.getD e.timeout))) :=
    unaware_read fun _ => rfl
  refine hdeadline.bind fun deadline => (unaware_sendDatagram i data).bind fun _ w => ?_
  have hset (pending : List (Nat × Arrival)) :
      (w.behind v).setEndpoint i { v.endpoint (w.endpoint i) with pending := pending } =
        (w.setEndpoint i { w.endpoint i with pending := pending }).behind v :=
    w.setEndpoint_behind v i { w.endpoint i with pending := pending }
  dsimp only
  rw [World.endpoint_behind, hset]
  have hwait : awaitAmid accept deadline (w.behind v).limits (v.endpoint (w.endpoint i)).pending
      (w.behind v).now none =
        awaitAmid accept deadline w.limits (w.endpoint i).pending w.now none := rfl
  rw [hwait]
  generalize awaitAmid accept deadline w.limits (w.endpoint i).pending w.now none = found
  obtain ⟨n, verdict, moment, left⟩ := found
  cases verdict with
  | answered a => rfl
  | broken cause => rfl
  | abandoned last => rfl
  | expired last =>
    have hends (cut : Bool) (f : Fault) (u : World) :
        (if cut = true then (Ending.cutOff, u.behind v) else (Ending.failed f, u.behind v)) =
          ((if cut = true then ((Ending.cutOff : Ending α), u) else (Ending.failed f, u)).1,
            (if cut = true then ((Ending.cutOff : Ending α), u)
              else (Ending.failed f, u)).2.behind v) := by
      cases cut <;> rfl
    let u : World := { w.setEndpoint i { w.endpoint i with pending := left } with now := moment }
    exact hends (w.now.before deadline && (u.overlooking n).limitPassesBy deadline) _
      (u.overlooking n)

/-- A step on an endpoint does not see through a veil. -/
theorem OnEndpoint.unaware {i : Nat} (h : OnEndpoint i α x) : Unaware (·.behind v) x := by
  cases h with
  | send data => exact unaware_sendDatagram i data
  | receive timeout => exact unaware_receiveArrival i timeout
  | exchange data accept timeout => exact unaware_exchangeRaw i data accept timeout
  | look f => exact unaware_read fun w => by rw [World.endpoint_behind]; rfl
  | anything timeout =>
    refine (unaware_receiveArrival i timeout).bind fun received => ?_
    obtain ⟨address, arrival⟩ := received
    cases arrival with
    | datagram data => exact unaware_pure _
    | socketError cause =>
      dsimp only
      cases cause.filter (·.kind.isA .interrupt) with
      | some f => exact unaware_pure _
      | none => exact unaware_fail _

/-- Opening an endpoint does not look at what closing will do. -/
theorem unaware_openEndpoint (address : Address) (timeout : Binary64) :
    Unaware (·.behind v) (openEndpoint address timeout) := by
  intro w
  have hscript : (w.behind v).udpScripts.headD {} = v.script (w.udpScripts.headD {}) := by
    cases hscripts : w.udpScripts <;> simp [World.behind, hscripts, Veil.script]
  have hopen (e : Endpoint) :
      { w.behind v with
        udpScripts := (w.behind v).udpScripts.tail
        endpoints := (w.behind v).endpoints ++ [v.endpoint e] } =
      { w with udpScripts := w.udpScripts.tail, endpoints := w.endpoints ++ [e] }.behind v := by
    simp only [World.behind, List.map_append, List.map_tail, List.map_singleton]
  rw [openEndpoint, openEndpoint, hscript]
  generalize w.udpScripts.headD {} = script
  let e := Endpoint.ofScript address timeout w.settings.maxDatagramBytes script
  dsimp only [Veil.script]
  cases script.openFault with
  | some cause => exact congrArg (Prod.mk _) (hopen e)
  | none =>
    have hlength : (w.behind v).endpoints.length = w.endpoints.length := by
      simp [World.behind]
    dsimp only
    rw [hlength]
    exact congrArg (Prod.mk _) (hopen (e.schedule w.now.time script.onOpen))

/-- Closing an endpoint counts, and raises the fault of closing unless it is an exception. -/
theorem closeEndpoint_eq (i : Nat) (w : World) :
    closeEndpoint i w =
      (match (w.endpoint i).closeFault.filter fun f => !f.kind.isA .other with
        | some f => .failed f
        | none => .done (),
      w.setEndpoint i { w.endpoint i with closed := (w.endpoint i).closed + 1 }) := by
  rw [closeEndpoint]
  dsimp only
  split
  next cause hfault =>
    rw [hfault, Option.filter_some]
    cases cause.kind.isA .other <;> rfl
  next hfault =>
    rw [hfault]
    rfl

/-- Closing an endpoint comes to the same behind a veil: the faults that are gone there are held up
here. -/
theorem unaware_closeEndpoint (i : Nat) : Unaware (·.behind v) (closeEndpoint i) := by
  intro w
  have hset : (w.behind v).setEndpoint i { v.endpoint (w.endpoint i) with
      closed := (w.endpoint i).closed + 1 } =
        (w.setEndpoint i { w.endpoint i with closed := (w.endpoint i).closed + 1 }).behind v :=
    w.setEndpoint_behind v i { w.endpoint i with closed := (w.endpoint i).closed + 1 }
  have hraised (fault : Option Fault) :
      (fault.filter v.keeps).filter (fun f => !f.kind.isA .other) =
        fault.filter fun f => !f.kind.isA .other := by
    cases fault with
    | none => rfl
    | some f =>
      have hkeeps := v.keeps_of_not_other f
      cases hother : f.kind.isA .other <;> cases hkept : v.keeps f <;> simp_all [Option.filter]
  rw [closeEndpoint_eq, closeEndpoint_eq, World.endpoint_behind,
    show (v.endpoint (w.endpoint i)).closeFault = (w.endpoint i).closeFault.filter v.keeps from rfl,
    hraised]
  exact congrArg (Prod.mk _) hset

/-- Elementary steps do not see through a veil. -/
theorem Elementary.unaware (h : Elementary endless α x) : Unaware (·.behind v) x := by
  have hveil := streamless_behind v
  cases h with
  | below h =>
    cases h with
    | ambient h => exact h.unaware hveil.timefree hveil.settings
    | onEndpoint i h => exact h.unaware
    | bookkeeping h =>
      cases h with
      | look f => exact unaware_read fun _ => rfl
      | pool i pool => exact unaware_update fun w => w.setPool_behind v i pool
  | onTarget h =>
    cases h with
    | look f => exact unaware_read fun _ => rfl
    | jar s => exact unaware_update fun _ => rfl
    | openStream address caFile maxRecords =>
      exact unaware_openStream hveil address caFile maxRecords
    | onStream i h => exact h.unaware hveil
    | closeStream i => exact unaware_closeStream hveil i
  | openEndpoint address timeout => exact unaware_openEndpoint address timeout
  | closeEndpoint i => exact unaware_closeEndpoint i
  | enter endpoint s => exact unaware_update fun _ => rfl
  | lookUp address => exact unaware_update fun _ => rfl

/-- Preparing a target does not see through a veil. -/
theorem unaware_prepareTarget (c : RunConfig) : Unaware (·.behind v) (prepareTarget c) := by
  have hbuilt : Built (Elementary True) (prepareTarget c) := built_prepareTarget c
  exact hbuilt.unaware (timefree_behind v) fun _ _ h => h.unaware

/-- A confined case does not see through a veil. -/
theorem unaware_of_confined {case : TestCase} (hcase : case.Confined) (c : RunConfig) :
    Unaware (·.behind v) (case.run c) :=
  (hcase.built (fun _ _ => trivial) (fun _ => trivial) c).unaware (timefree_behind v)
    fun _ _ h => h.unaware

/-- Running a case and telling its outcome sees no more than the case. -/
theorem Unaware.runCase {g : World → World} (hg : Timefree g) {case : TestCase} {c : RunConfig}
    (hcase : Unaware g (case.run c)) (limit : Binary64) : Unaware g (runCase c limit case) := by
  refine (hcase.within hg limit).attempt.bind fun result => ?_
  split
  · exact unaware_pure _
  · exact unaware_pure _
  · exact unaware_ofExcept _

/-- A run over cases sees no more than the cases and showing their entries. -/
theorem unaware_runCases {c : RunConfig} {cases : List TestCase} {onResult : Entry → Run Unit}
    (limit : Binary64) (hcases : ∀ case ∈ cases, Unaware (·.behind v) (case.run c))
    (hshow : ∀ entry, Unaware (·.behind v) (onResult entry)) (report : Report) :
    Unaware (·.behind v) (runCases c limit onResult cases report) := by
  induction cases generalizing report with
  | nil => exact unaware_pure _
  | cons case cases ih =>
    exact ((hcases case List.mem_cons_self).runCase (timefree_behind v) limit).bind fun outcome =>
      (unaware_ofExcept _).bind fun report => (hshow _).bind fun _ =>
        ih (fun k hk => hcases k (List.mem_cons_of_mem _ hk)) report

end Run

end TimeProbe

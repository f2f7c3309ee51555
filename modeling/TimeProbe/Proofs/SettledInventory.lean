import TimeProbe.Proofs.CaseRuns
import TimeProbe.Proofs.Inventory
import TimeProbe.Proofs.RememberedFailure

/-!
# The inventory between two cases

Between two cases of a run every endpoint was closed as often as it was opened, all endpoints go to
one time server, and the jar, if it was filled, names that time server. A stream was closed at most
as often as it was opened, and exactly as often where no step was cut off or interrupted. A confined
case keeps this invariant, whatever its body does and however it ends, and it opens one endpoint and
enters one stream at most.
-/

namespace TimeProbe

/-- A step within a timeout that ended by itself, with a result or with an exception. -/
def Ending.ByItself {α : Type} : Ending (Option α) → Prop
  | .done finished => finished.isSome = true
  | .failed f => f.kind.isA .other = true
  | .cutOff => False

namespace World

/-- How often the endpoint at a place is opened in a run from a start: once or not at all. -/
def udpOpenings (start : World) (k : Nat) : Nat := (start.udpScripts[k]?.getD {}).openings

/-- How often the stream at a place is opened in a run from a start: once or not at all. -/
def keOpenings (start : World) (k : Nat) : Nat := KeScript.openings? start.keScripts[k]?

/-- Nothing was opened yet. -/
structure Fresh (w : World) : Prop where
  endpoints : w.endpoints = []
  streams : w.streams = []
  sessions : w.sessions = []
  source : w.source = none

/-- Whatever was opened since the start is accounted for: every endpoint goes to one time server and
was closed exactly as often as it was opened, and every stream was closed at most as often as it was
opened, and is connected no more if it was closed. -/
structure Accounted (start : World) (server : Address) (w : World) : Prop where
  endpoints : ∀ k e, w.endpoints[k]? = some e →
    e.address = server ∧ e.closed = start.udpOpenings k
  streams : ∀ k s, w.streams[k]? = some s → LeftBehind (start.keOpenings k) s.entry

/-- Everything that was opened since the start is closed: every endpoint goes to one time server,
and every endpoint and every stream was closed exactly as often as it was opened. No stream is
connected. -/
structure Tidy (start : World) (server : Address) (w : World) : Prop where
  endpoints : ∀ k e, w.endpoints[k]? = some e →
    e.address = server ∧ e.closed = start.udpOpenings k
  streams : ∀ k s, w.streams[k]? = some s → s.connected = false ∧ s.closed = start.keOpenings k

end World

namespace Inventory

/-- Every endpoint that was opened since the start is closed again, all endpoints go to one time
server, and the scripts that are left are those of the start without the ones used. No stream was
closed more often than it was opened, and where everything was orderly each was closed as often. -/
structure Balanced (start : World) (server : Address) (orderly : Prop) (v : Inventory) :
    Prop where
  endpoints : ∀ k entry, v.endpoints[k]? = some entry → entry = (server, start.udpOpenings k)
  streams : ∀ k entry, v.streams[k]? = some entry →
    LeftBehind (start.keOpenings k) entry ∧ (orderly → entry = (false, start.keOpenings k))
  udpScripts : v.udpScripts = start.udpScripts.drop v.endpoints.length
  keScripts : v.keScripts = start.keScripts.drop v.streams.length

/-- The inventory between two cases of a run: everything is balanced, and the jar, unless it
remembers a failure, is filled and names the time server. -/
structure Settled (start : World) (c : RunConfig) (server : Address) (orderly : Prop)
    (v : Inventory) : Prop extends v.Balanced start server orderly where
  named : (v.source.bind (·.address)).getD ⟨c.target, c.port⟩ = server
  jar : c.ntsEnabled = true → ∃ s, v.source = some s ∧ s.config = c ∧
    (s.error = none → s.keys.isSome = true ∧ s.address = some server)

variable {start : World} {c : RunConfig} {server : Address} {orderly orderly' : Prop}
  {v : Inventory}

/-- A fresh world is balanced. -/
theorem balanced_of_fresh (hfresh : start.Fresh) (server : Address) :
    start.inventory.Balanced start server True := by
  refine ⟨fun k entry hentry => ?_, fun k closed hclosed => ?_, ?_, ?_⟩
  · simp [World.inventory, hfresh.endpoints] at hentry
  · simp [World.inventory, hfresh.streams] at hclosed
  · simp [World.inventory, hfresh.endpoints]
  · simp [World.inventory, hfresh.streams]

/-- What is in a list behind another element is that element or was there before. -/
theorem getElem?_append_singleton {α : Type} {xs : List α} {a b : α} {k : Nat}
    (h : (xs ++ [a])[k]? = some b) : xs[k]? = some b ∨ k = xs.length ∧ b = a := by
  by_cases hk : k < xs.length
  · rw [List.getElem?_append_left hk] at h
    exact .inl h
  · rw [List.getElem?_append_right (Nat.le_of_not_lt hk), List.getElem?_singleton] at h
    split at h
    next hlast => exact .inr ⟨by omega, (Option.some.inj h).symm⟩
    · cases h

/-- An endpoint to the time server may be opened and closed. -/
theorem Balanced.withEndpoint (h : v.Balanced start server orderly) :
    (v.withEndpoint server).Balanced start server orderly := by
  refine ⟨fun k entry hentry => ?_, h.streams, ?_, h.keScripts⟩
  · have hscript : v.udpScripts.headD {} = start.udpScripts[v.endpoints.length]?.getD {} := by
      rw [h.udpScripts, List.headD_eq_head?_getD, List.head?_drop]
    rcases getElem?_append_singleton hentry with hold | ⟨rfl, rfl⟩
    · exact h.endpoints k entry hold
    · rw [hscript]
      rfl
  · rw [Inventory.withEndpoint, h.udpScripts, List.tail_drop, List.length_append,
      List.length_singleton]

/-- The next stream is opened as often as its script says. -/
theorem Balanced.nextOpenings_eq (h : v.Balanced start server orderly) :
    v.nextOpenings = start.keOpenings v.streams.length := by
  rw [nextOpenings, h.keScripts, List.head?_drop]
  rfl

/-- A stream may be entered, and is left behind. -/
theorem Balanced.withStream {entry : Bool × Nat} (h : v.Balanced start server orderly)
    (hentry : LeftBehind v.nextOpenings entry)
    (horderly : orderly' → orderly ∧ entry = (false, v.nextOpenings)) :
    (v.withStream entry).Balanced start server orderly' := by
  refine ⟨h.endpoints, fun k found hfound => ?_, h.udpScripts, ?_⟩
  · rcases getElem?_append_singleton hfound with hold | ⟨rfl, rfl⟩
    · obtain ⟨hleft, hexact⟩ := h.streams k found hold
      exact ⟨hleft, fun h => hexact (horderly h).1⟩
    · rw [← h.nextOpenings_eq]
      exact ⟨hentry, fun h => (horderly h).2⟩
  · rw [Inventory.withStream, h.keScripts, List.tail_drop, List.length_append,
      List.length_singleton]

/-- What is balanced is so where less was orderly. -/
theorem Balanced.imp (h : v.Balanced start server orderly) (himp : orderly' → orderly) :
    v.Balanced start server orderly' :=
  { h with streams := fun k entry hentry => ⟨(h.streams k entry hentry).1,
      fun h' => (h.streams k entry hentry).2 (himp h')⟩ }

/-- The protected connections are no matter of the balance, and neither is the jar. -/
theorem Balanced.withRest (h : v.Balanced start server orderly) (links : List Nat)
    (source : Option SessionSource) :
    ({ v with links := links, source := source } : Inventory).Balanced start server orderly :=
  ⟨h.endpoints, h.streams, h.udpScripts, h.keScripts⟩

/-- What is settled is so where less was orderly. -/
theorem Settled.imp (h : v.Settled start c server orderly) (himp : orderly' → orderly) :
    v.Settled start c server orderly' :=
  { h.toBalanced.imp himp with named := h.named, jar := h.jar }

/-- A settled inventory stays so when an endpoint to the time server is opened and closed. -/
theorem Settled.withEndpoint (h : v.Settled start c server orderly) :
    (v.withEndpoint server).Settled start c server orderly :=
  { h.toBalanced.withEndpoint with named := h.named, jar := h.jar }

/-- A settled inventory stays so when a stream is entered and left behind. -/
theorem Settled.withStream {entry : Bool × Nat} (h : v.Settled start c server orderly)
    (hentry : LeftBehind v.nextOpenings entry)
    (horderly : orderly' → orderly ∧ entry = (false, v.nextOpenings)) :
    (v.withStream entry).Settled start c server orderly' :=
  { h.toBalanced.withStream hentry horderly with named := h.named, jar := h.jar }

/-- The protected connections may be others. -/
theorem Settled.withLinks (h : v.Settled start c server orderly) (links : List Nat) :
    ({ v with links := links } : Inventory).Settled start c server orderly :=
  { h.toBalanced.withRest links v.source with named := h.named, jar := h.jar }

/-- Another jar may take the place of the one that was there, if it is filled and names the time
server. -/
theorem Balanced.withSource {s : SessionSource} (h : v.Balanced start server orderly)
    (hconfig : s.config = c) (hkeys : s.keys.isSome = true) (haddress : s.address = some server) :
    ({ v with source := some s } : Inventory).Settled start c server orderly :=
  { h.withRest v.links (some s) with
    named := by rw [Option.bind_some, haddress]; rfl
    jar := fun _ => ⟨s, rfl, hconfig, fun _ => ⟨hkeys, haddress⟩⟩ }

/-- In a settled inventory everything is accounted for. -/
theorem Settled.accounted {w : World} (h : w.inventory.Settled start c server orderly) :
    start.Accounted server w := by
  refine ⟨fun k e he => ?_, fun k s hs => ?_⟩
  · have hentry := h.endpoints k e.entry (by simp [World.inventory, he])
    exact Prod.mk.inj hentry
  · exact (h.streams k s.entry (by simp [World.inventory, hs])).1

/-- In a settled inventory everything is tidy, if it was orderly. -/
theorem Settled.tidy {w : World} (h : w.inventory.Settled start c server orderly)
    (horderly : orderly) : start.Tidy server w :=
  ⟨h.accounted.endpoints, fun k s hs =>
    Prod.mk.inj ((h.streams k s.entry (by simp [World.inventory, hs])).2 horderly)⟩

end Inventory

namespace Run

open Inventory

variable {α β : Type} {start : World} {c : RunConfig} {server : Address}

/-- What a step that settles everything makes of an inventory: it is settled again, and orderly
where it was so before and the step ended orderly. At most one endpoint and one stream are there
behind those that were there, and the stream is as it should be if the step ended orderly. -/
structure SettlesTo (start : World) (c : RunConfig) (server : Address) (v : Inventory)
    (ending : Ending α) (v' : Inventory) : Prop where
  settled : ∀ orderly, v.Settled start c server orderly →
    v'.Settled start c server (orderly ∧ ending.Orderly)
  endpoints : ∃ more, v'.endpoints = v.endpoints ++ more ∧ more.length ≤ 1
  streams : ∃ more, v'.streams = v.streams ++ more ∧ more.length ≤ 1 ∧
    (ending.Orderly → ∀ entry ∈ more, entry = (false, v.nextOpenings))

/-- From a settled inventory a step settles everything. -/
def Settles (start : World) (c : RunConfig) (server : Address) (x : Run α) : Prop :=
  ∀ w orderly, w.inventory.Settled start c server orderly →
    SettlesTo start c server w.inventory (x w).1 (x w).2.inventory

/-- Nothing may happen. -/
theorem SettlesTo.refl (v : Inventory) (ending : Ending α) :
    SettlesTo start c server v ending v where
  settled _ h := h.imp And.left
  endpoints := ⟨[], (List.append_nil _).symm, Nat.zero_le 1⟩
  streams := ⟨[], (List.append_nil _).symm, Nat.zero_le 1, fun _ _ h => nomatch h⟩

/-- What settled everything may end in another way, if that is no more orderly. -/
theorem SettlesTo.withOther {v v' : Inventory} {ending : Ending α} {ending' : Ending β}
    (h : SettlesTo start c server v ending v') (horderly : ending'.Orderly → ending.Orderly) :
    SettlesTo start c server v ending' v' where
  settled orderly hv := (h.settled orderly hv).imp fun h' => ⟨h'.1, horderly h'.2⟩
  endpoints := h.endpoints
  streams := by
    obtain ⟨more, hmore, hlength, hall⟩ := h.streams
    exact ⟨more, hmore, hlength, fun h' => hall (horderly h')⟩

/-- A stream may be entered, and be left behind. -/
theorem settlesTo_withStream {v : Inventory} {entry : Bool × Nat} {ending : Ending α}
    (hentry : LeftBehind v.nextOpenings entry)
    (horderly : ending.Orderly → entry = (false, v.nextOpenings)) :
    SettlesTo start c server v ending (v.withStream entry) where
  settled _ h := h.withStream hentry fun h' => ⟨h'.1, horderly h'.2⟩
  endpoints := ⟨[], (List.append_nil _).symm, Nat.zero_le 1⟩
  streams := ⟨[entry], rfl, Nat.le_refl 1, fun h _ he => List.mem_singleton.mp he ▸ horderly h⟩

/-- An endpoint may be opened and closed, and the protected connections may be others. -/
theorem SettlesTo.withEndpoint {v v' : Inventory} {ending : Ending α} {ending' : Ending β}
    (h : SettlesTo start c server v ending v') (hends : v'.endpoints = v.endpoints)
    (horderly : ending'.Orderly → ending.Orderly) (links : List Nat) :
    SettlesTo start c server v ending' { v'.withEndpoint server with links := links } where
  settled orderly hv := ((h.settled orderly hv).imp fun h' => ⟨h'.1, horderly h'.2⟩).withEndpoint
    |>.withLinks links
  endpoints := ⟨_, congrArg (· ++ _) hends, Nat.le_refl 1⟩
  streams := by
    obtain ⟨more, hmore, hlength, hall⟩ := h.streams
    exact ⟨more, hmore, hlength, fun h' => hall (horderly h')⟩

/-- Another jar may take the place of the one that was there, if it is filled and names the time
server. -/
theorem SettlesTo.withSource {v v' : Inventory} {ending : Ending α} {ending' : Ending β}
    {s : SessionSource} (h : SettlesTo start c server v ending v')
    (horderly : ending'.Orderly → ending.Orderly) (hconfig : s.config = c)
    (hkeys : s.keys.isSome = true) (haddress : s.address = some server) :
    SettlesTo start c server v ending' { v' with source := some s } where
  settled orderly hv := ((h.settled orderly hv).imp fun h' =>
    ⟨h'.1, horderly h'.2⟩).toBalanced.withSource hconfig hkeys haddress
  endpoints := h.endpoints
  streams := by
    obtain ⟨more, hmore, hlength, hall⟩ := h.streams
    exact ⟨more, hmore, hlength, fun h' => hall (horderly h')⟩

/-- A case on a plain connection settles everything. -/
theorem settles_plain (name summary : String) {endless : Prop} {body : Nat → Run Unit}
    (hbody : ∀ i, Built (OrAmbient endless (OnEndpoint i)) (body i)) :
    Settles start c server ((TestCase.plain name summary body).run c) := by
  intro w orderly hw
  have hserver : timeServer c w = (.done server, w) := by
    rw [← hw.named]
    rfl
  have hconnect : connectPlain c w = openEndpoint server c.timeout w := bind_done hserver _
  have hused (i : Nat) : Leaves World.inventory (do body i; probe i) :=
    inventory_below (BuiltWith.bind (hbody i) fun _ =>
      built_probe (fun _ _ => trivial) i).onPlain
  have hcase : ((TestCase.plain name summary body).run c w).2.inventory =
      w.inventory.withEndpoint server := by
    rw [← inventory_lendEndpoint server c.timeout hused w]
    exact congrArg (fun r : Ending Unit × World => r.2.inventory) (bind_congr hconnect _)
  rw [hcase]
  exact (SettlesTo.refl w.inventory (.done ())).withEndpoint rfl (fun _ => trivial)
    w.inventory.links

/-- A case on a stream settles everything. -/
theorem settles_onStream (name summary : String) {endless : Prop} {body : Nat → Run Unit}
    (hbody : ∀ i, Built (OrAmbient endless (OnStream i)) (body i)) :
    Settles start c server ((TestCase.onStream name summary body).run c) := by
  intro w orderly hw
  cases hon : c.ntsEnabled with
  | true =>
    obtain ⟨entry, hentry, hinventory, horderly⟩ := inventory_lendStream ⟨c.target, c.kePort⟩
      c.caFile none (fun i => inventory_onStream (hbody i)) w
    rw [← connectKe_of_on hon] at hinventory horderly
    have hcase : ((TestCase.onStream name summary body).run c w).2.inventory =
        w.inventory.withStream entry := hinventory
    rw [hcase]
    exact settlesTo_withStream hentry horderly
  | false =>
    have hcase : (TestCase.onStream name summary body).run c w = (.failed _, w) :=
      bind_failed (connectKe_of_off hon w) _
    rw [hcase]
    exact .refl _ _

/-- A session from a jar that is filled settles everything, taking it opens no endpoint, and it is
for the time server of the jar. -/
theorem settlesTo_takeInstalled {w : World} {s : SessionSource} {keys : KeyPair}
    (hsource : w.source = some s) (hconfig : s.config = c) (hkeys : s.keys = some keys)
    (haddress : s.address = some server) :
    SettlesTo start c server w.inventory (takeInstalled keys w).1
        (takeInstalled keys w).2.inventory ∧
      (takeInstalled keys w).2.inventory.endpoints = w.inventory.endpoints ∧
      ∀ out, (takeInstalled keys w).1 = .done out → out.address = server := by
  cases hlow : s.isLow w.settings.ntsSessionCookies with
  | false =>
    rw [takeInstalled_of_full hsource hkeys haddress hlow]
    refine ⟨(SettlesTo.refl _ (.done ())).withSource (fun _ => trivial) hconfig
      (congrArg Option.isSome hkeys) haddress, rfl, ?_⟩
    rintro _ ⟨⟩
    rfl
  | true =>
    obtain ⟨entry, hentry, hinventory, horderly⟩ := inventory_establishTarget s.config w
    have hestablished : SettlesTo start c server w.inventory (establishTarget s.config w).1
        (establishTarget s.config w).2.inventory :=
      hinventory ▸ settlesTo_withStream hentry horderly
    have hends := congrArg Inventory.endpoints hinventory
    rw [takeInstalled_of_low hsource hlow]
    rcases hrun : establishTarget s.config w with ⟨ending, w₁⟩
    rw [hrun] at hestablished hends
    cases ending with
    | failed f =>
      dsimp only
      exact ⟨hestablished.withOther id, hends, nofun⟩
    | cutOff =>
      dsimp only
      exact ⟨hestablished.withOther id, hends, nofun⟩
    | done m =>
      dsimp only
      split
      next hsame =>
        refine ⟨hestablished.withSource (fun _ => trivial) hconfig rfl (hsame.trans haddress),
          hends, ?_⟩
        rintro _ ⟨⟩
        exact Option.some.inj (hsame.trans haddress)
      next => exact ⟨hestablished.withOther fun _ => trivial, hends, nofun⟩

/-- Taking a session settles everything, opens no endpoint, and the session is for the time server
of the run. -/
theorem settlesTo_takeSession {w : World} {orderly : Prop} (hon : c.ntsEnabled = true)
    (hw : w.inventory.Settled start c server orderly) :
    SettlesTo start c server w.inventory (takeSession w).1 (takeSession w).2.inventory ∧
      (takeSession w).2.inventory.endpoints = w.inventory.endpoints ∧
      ∀ out, (takeSession w).1 = .done out → out.address = server := by
  obtain ⟨s, hs, hconfig, hfilled⟩ := hw.jar hon
  have hsource : w.source = some s := hs
  cases herror : s.error with
  | some cause =>
    rw [takeSession_of_error hsource herror]
    exact ⟨.refl _ _, rfl, nofun⟩
  | none =>
    obtain ⟨hkeys, haddress⟩ := hfilled herror
    obtain ⟨keys, hkeys⟩ := Option.isSome_iff_exists.mp hkeys
    rw [takeSession_of_keys hsource herror hkeys]
    exact settlesTo_takeInstalled hsource hconfig hkeys haddress

/-- A case on a protected connection settles everything. -/
theorem settles_guarded (name summary : String) {endless : Prop} {body : Nat → Run Unit}
    (hbody : ∀ i, Built (OrAmbient endless (OnSession i)) (body i)) :
    Settles start c server ((TestCase.guarded name summary body).run c) := by
  intro w orderly hw
  have hused (i : Nat) : Leaves World.inventory (do body i; probeProtected i) :=
    inventory_below <| BuiltWith.belowSession (fun _ _ => trivial) trivial <|
      BuiltWith.bind (hbody i) fun _ => built_probeProtected (fun _ _ => trivial) i
  let lend (i : Nat) : Run Unit := ensuring (do body i; probeProtected i) (closeProtected i)
  change SettlesTo start c server w.inventory ((connectProtected c >>= lend) w).1
    ((connectProtected c >>= lend) w).2.inventory
  cases hon : c.ntsEnabled with
  | false =>
    rw [bind_failed (connectProtected_of_off hon w)]
    exact .refl _ _
  | true =>
    rw [connectProtected_of_on hon]
    obtain ⟨htaken, hends, hout⟩ := settlesTo_takeSession hon hw
    rcases htake : takeSession w with ⟨ending, w₁⟩
    rw [htake] at htaken hends hout
    cases ending with
    | failed f =>
      rw [bind_failed (bind_failed htake _)]
      exact htaken.withOther id
    | cutOff =>
      rw [bind_cutOff (bind_cutOff htake _)]
      exact htaken.withOther id
    | done out =>
      obtain ⟨links, hinventory⟩ := inventory_lendSession c out hused w₁
      rw [bind_congr (bind_done htake _) lend, hinventory, hout out rfl]
      exact htaken.withEndpoint hends (fun _ => trivial) links

/-- A confined case settles everything. -/
theorem settles_of_confined {case : TestCase} (hcase : case.Confined) :
    Settles start c server (case.run c) := by
  cases hcase with
  | plain name summary hbody => exact settles_plain name summary hbody
  | guarded name summary hbody => exact settles_guarded name summary hbody
  | onStream name summary hbody => exact settles_onStream name summary hbody

/-- The run of a case that settles everything settles everything, and it was orderly if the case
ended by itself. -/
theorem Settles.runCase {case : TestCase} {orderly : Prop}
    (hcase : Settles start c server (case.run c)) (limit : Binary64) {w : World}
    (hw : w.inventory.Settled start c server orderly) :
    ∃ ending : Ending Unit,
      SettlesTo start c server w.inventory ending (runCase c limit case w).2.inventory ∧
      ((within limit (case.run c) w).1.ByItself → ending.Orderly) := by
  rw [runCase_snd]
  rcases within_cases limit (case.run c) w with
    hnone | ⟨limits, _, _, hworld, hdone, hfailed⟩
  · rw [hnone]
    exact ⟨.cutOff, .refl _ _, fun h => absurd h Bool.false_ne_true⟩
  · refine ⟨(case.run c { w with limits }).1, ?_, fun hends => ?_⟩
    · rw [hworld]
      exact hcase { w with limits } orderly hw
    · cases hending : (within limit (case.run c) w).1 with
      | done finished =>
        rw [hending] at hdone hends
        cases finished with
        | none => exact absurd hends Bool.false_ne_true
        | some _ =>
          rw [hdone () rfl]
          trivial
      | failed f =>
        rw [hending] at hfailed hends
        rw [hfailed f rfl]
        exact hends
      | cutOff =>
        rw [hending] at hends
        exact hends.elim

end Run

end TimeProbe

import TimeProbe.Proofs.SettledInventory
import TimeProbe.Proofs.Veil

/-!
# One time server, and nothing left open

A prepared run of confined cases opens endpoints to one time server only, and it closes every
endpoint that it opens before the next case starts. It does the same with the streams of cases that
end by themselves. A case that is cut off while it shakes hands, or while the output of its stream
drains, leaves that one stream as it is. The report does not depend on exceptions that closing an
endpoint raises.
-/

namespace TimeProbe

namespace World

/-- No endpoint is lost and no closing is undone. -/
def Grows (w w' : World) : Prop :=
  ∀ (k : Nat) (e : Endpoint), w.endpoints[k]? = some e →
    ∃ e' : Endpoint, w'.endpoints[k]? = some e' ∧ e.closed ≤ e'.closed

/-- The endpoint at a place was opened and is not closed. -/
def IsOpen (start w : World) (k : Nat) : Prop :=
  ∃ e, w.endpoints[k]? = some e ∧ e.closed < start.udpOpenings k

/-- The time server of a run: the one that the first key establishment announces, or the target
where there is none or it fails. -/
def announced (c : RunConfig) (start : World) : Address :=
  if c.ntsEnabled then
    match (Run.establishTarget c (Run.resolve ⟨c.target, c.port⟩ start).2).1 with
    | .done m => m.address
    | _ => ⟨c.target, c.port⟩
  else ⟨c.target, c.port⟩

end World

/-- The veil that hides exactly the exceptions of closing an endpoint. -/
def Veil.calm : Veil where
  keeps f := !f.kind.isA .other
  lines := id
  keeps_of_not_other f hf := by rw [hf]; rfl

namespace Run

open Inventory

variable {start : World} {c : RunConfig} {server : Address}

/-- Showing entries does no more than to print lines, before it goes on or raises a fault. -/
def OnlyPrints (onResult : Entry → Run Unit) : Prop :=
  ∀ entry, ∃ ending lines, ∀ w : World, onResult entry w = (ending, w.printing lines)

variable {limit : Binary64} {onResult : Entry → Run Unit}

/-- What is printed is no matter of the inventory. -/
theorem OnlyPrints.leaves (hshow : OnlyPrints onResult) (entry : Entry) :
    Leaves World.inventory (onResult entry) := by
  obtain ⟨ending, lines, hprints⟩ := hshow entry
  intro w
  rw [hprints]
  rfl

/-- Every case of a run over cases that settle everything starts in a settled world. -/
theorem CaseStarts.settled {w v : World} {cases : List TestCase} {case : TestCase}
    (hstarts : CaseStarts c limit onResult w cases case v)
    (hcases : ∀ case ∈ cases, Settles start c server (case.run c))
    (hshow : OnlyPrints onResult) (hw : w.inventory.Settled start c server False) :
    v.inventory.Settled start c server False ∧ Settles start c server (case.run c) := by
  induction hstarts with
  | first w case cases => exact ⟨hw, hcases case List.mem_cons_self⟩
  | @later w w₁ w₂ v case next cases outcome ran shown rest ih =>
    obtain ⟨ending, hran, -⟩ := (hcases case List.mem_cons_self).runCase limit hw
    have hran := hran.settled False hw
    rw [ran] at hran
    have hshown := hshow.leaves ⟨case.name, outcome⟩ w₁
    rw [shown] at hshown
    refine ih (fun k hk => hcases k (List.mem_cons_of_mem _ hk)) ?_
    rw [hshown]
    exact hran.imp False.elim

/-- A run over cases that settle everything ends in a settled world, however it ends, and it was
orderly if every case that was started ended by itself. -/
theorem settled_runCases {cases : List TestCase} {w : World} {orderly : Prop}
    (hcases : ∀ case ∈ cases, Settles start c server (case.run c))
    (hshow : OnlyPrints onResult) (hw : w.inventory.Settled start c server orderly)
    (report : Report) :
    (runCases c limit onResult cases report w).2.inventory.Settled start c server
      (orderly ∧ ∀ case v, CaseStarts c limit onResult w cases case v →
        (within limit (case.run c) v).1.ByItself) := by
  induction cases generalizing w report orderly with
  | nil => exact hw.imp And.left
  | cons case cases ih =>
    obtain ⟨ending, hran, hends⟩ := (hcases case List.mem_cons_self).runCase limit hw
    have hran := (hran.settled orderly hw).imp fun h :
      orderly ∧ ∀ k v, CaseStarts c limit onResult w (case :: cases) k v →
        (within limit (k.run c) v).1.ByItself =>
      ⟨h.1, hends (h.2 case w (.first w case cases))⟩
    rcases hrun : runCase c limit case w with ⟨ending, w₁⟩
    rw [hrun] at hran
    cases ending with
    | failed f =>
      rw [runCases, bind_failed hrun]
      exact hran
    | cutOff =>
      rw [runCases, bind_cutOff hrun]
      exact hran
    | done outcome =>
      rw [runCases, bind_done hrun]
      cases hadd : report.add ⟨case.name, outcome⟩ with
      | error f => exact hran
      | ok report =>
        have hshown := hshow.leaves ⟨case.name, outcome⟩ w₁
        rcases hprint : onResult ⟨case.name, outcome⟩ w₁ with ⟨ending, w₂⟩
        rw [hprint] at hshown
        have hw₂ := hran
        rw [← show w₂.inventory = w₁.inventory from hshown] at hw₂
        rw [bind_done (show ofExcept (.ok report) w₁ = (.done report, w₁) from rfl)]
        cases ending with
        | failed f =>
          rw [bind_failed hprint]
          exact hw₂
        | cutOff =>
          rw [bind_cutOff hprint]
          exact hw₂
        | done _ =>
          rw [bind_done hprint]
          refine (ih (fun k hk => hcases k (List.mem_cons_of_mem _ hk)) hw₂ report).imp fun h => ?_
          exact ⟨h, fun k v hk => h.2 k v (.later hrun hprint hk)⟩

/-- Resolving a name leaves the inventory. -/
theorem inventory_resolve (address : Address) : Leaves World.inventory (resolve address) :=
  fun w => by rw [resolve_eq]; rfl

/-- A failure of a key establishment that is remembered is an exception. -/
theorem other_of_remembered {f cause : Fault} (h : SessionSource.remembered? f = some cause) :
    f.kind.isA .other = true := by
  by_contra hother
  have hnone : SessionSource.remembered? f = none := by
    rw [SessionSource.remembered?_eq_none_iff]
    revert hother
    cases f.kind <;> decide
  rw [hnone] at h
  cases h

/-- A prepared world is settled, for the time server that was announced, and no endpoint was opened
yet. -/
theorem settled_prepareTarget {w w₁ : World} (hfresh : w.Fresh)
    (hprepare : prepareTarget c w = (.done (), w₁)) :
    w₁.inventory.Settled w c (w.announced c) True ∧ w₁.inventory.endpoints = [] := by
  obtain ⟨found, u, hresolve, hprepare⟩ := exists_of_bind_done hprepare
  have hleft := inventory_resolve ⟨c.target, c.port⟩ w
  rw [hresolve] at hleft
  have hbalanced (server : Address) : u.inventory.Balanced w server True := by
    rw [show u.inventory = w.inventory from hleft]
    exact balanced_of_fresh hfresh server
  have hnone : u.inventory.endpoints = [] ∧ u.inventory.source = none := by
    rw [show u.inventory = w.inventory from hleft]
    exact ⟨congrArg (·.map (·.entry)) hfresh.endpoints, hfresh.source⟩
  cases hon : c.ntsEnabled with
  | false =>
    rw [hon] at hprepare
    cases hprepare
    refine ⟨{ hbalanced _ with named := ?_, jar := fun h => ?_ }, hnone.1⟩
    · rw [hnone.2, World.announced, hon]
      rfl
    · rw [hon] at h
      cases h
  | true =>
    rw [hon] at hprepare
    have hboot : bootstrap (u.withSource (some { config := c })) = (.done (), w₁) := hprepare
    have hestablished := establishTarget_withSource c u (some { config := c })
    obtain ⟨entry, hentry, hstream, horderly⟩ := inventory_establishTarget c u
    have hannounced : w.announced c = match (establishTarget c u).1 with
        | .done m => m.address
        | _ => ⟨c.target, c.port⟩ := by
      rw [World.announced, hon, hresolve]
      rfl
    rw [bootstrap_eq rfl, hestablished] at hboot
    rcases hrun : establishTarget c u with ⟨ending, u₁⟩
    rw [hrun] at hboot hstream hannounced horderly
    have hbalanced (hends : ending.Orderly) (server : Address) :
        u₁.inventory.Balanced w server True := by
      rw [show u₁.inventory = u.inventory.withStream entry from hstream]
      exact (hbalanced server).withStream hentry fun _ => ⟨trivial, horderly hends⟩
    have hends : u₁.inventory.endpoints = [] := by
      rw [show u₁.inventory = u.inventory.withStream entry from hstream]
      exact hnone.1
    cases ending with
    | done m =>
      cases hboot
      rw [hannounced]
      exact ⟨(hbalanced trivial m.address).withSource rfl rfl rfl, hends⟩
    | failed f =>
      dsimp only at hboot
      cases hremembered : SessionSource.remembered? f with
      | none =>
        rw [hremembered] at hboot
        cases hboot
      | some cause =>
        rw [hremembered] at hboot
        cases hboot
        rw [hannounced]
        refine ⟨{ (hbalanced (other_of_remembered hremembered) _).withRest u₁.inventory.links _ with
          named := rfl, jar := fun _ => ?_ }, hends⟩
        exact ⟨_, rfl, rfl, nofun⟩
    | cutOff => cases hboot

/-- The only endpoint that may be open while a case runs is the one behind those that were there
when it started. -/
theorem eq_length_of_isOpen {w v v' u : World} {server : Address} {k : Nat}
    (hv : w.Accounted server v) (hcount : v'.endpoints.length ≤ v.endpoints.length + 1)
    (hvu : v.Grows u) (huv : u.Grows v') (hk : w.IsOpen u k) : k = v.endpoints.length := by
  obtain ⟨e, he, hopen⟩ := hk
  have hnew : ¬ k < v.endpoints.length := by
    intro hold
    obtain ⟨e', he', hclosed⟩ := hvu k v.endpoints[k] (List.getElem?_eq_getElem hold)
    have hbalanced := (hv.endpoints k v.endpoints[k] (List.getElem?_eq_getElem hold)).2
    rw [he] at he'
    cases he'
    omega
  obtain ⟨e', he', -⟩ := huv k e he
  have hbound := (List.getElem?_eq_some_iff.mp he').1
  omega

end Run

namespace World

/-- Where the inventory gets endpoints behind those that were there, the world grows. -/
theorem grows_of_append {w w' : World} {more : List (Address × Nat)}
    (hmore : w'.inventory.endpoints = w.inventory.endpoints ++ more) : w.Grows w' := by
  intro k e he
  have hentry : w.inventory.endpoints[k]? = some e.entry := by simp [inventory, he]
  have hk := (List.getElem?_eq_some_iff.mp hentry).1
  have hentry' : (w'.endpoints.map (·.entry))[k]? = some e.entry := by
    rw [show w'.endpoints.map (·.entry) = _ from hmore, List.getElem?_append_left hk]
    exact hentry
  rw [List.getElem?_map, Option.map_eq_some_iff] at hentry'
  obtain ⟨e', he', hsame⟩ := hentry'
  exact ⟨e', he', Nat.le_of_eq (congrArg Prod.snd hsame).symm⟩

end World

namespace Run

variable {c : RunConfig} {registry : Registry} {onResult : Entry → Run Unit} {w w₁ : World}

/-- Printing lines does not see what closing will do. -/
theorem OnlyPrints.unaware (hshow : OnlyPrints onResult) (entry : Entry) :
    Unaware (·.behind .calm) (onResult entry) := by
  obtain ⟨ending, lines, hprints⟩ := hshow entry
  intro w
  rw [hprints, hprints]
  rfl

/-- **One time server, and nothing left open behind a case that ends by itself.** A fresh world is
prepared, and then a registry of confined cases is run, whatever the bodies do and whatever the
servers do. Then all endpoints go to the one time server that was announced, and at the end of the
run and whenever a case starts every endpoint was closed exactly as often as it was opened, and
every stream at most as often. While a case runs no endpoint is lost and no closing undone, and in
whatever world between its start and its end there is at most one endpoint open. It enters one
stream at most, and leaves the others as they are. If it ends by itself, the stream is closed
exactly as often as it was opened, and it is connected no more; if all cases end by themselves,
everything is closed at the end of the run. And the report does not depend on the exceptions that
closing an endpoint raises: it is the same in every run from a start that differs only in those. -/
theorem runRegistry_one_server (choice : Option Binary64) (hfresh : w.Fresh)
    (hprepare : prepareTarget c w = (.done (), w₁))
    (hcases : ∀ case ∈ registry.cases, case.Confined) (hshow : OnlyPrints onResult) :
    let limit := caseTimeout c choice
    let left := (runRegistry c choice registry onResult w₁).2
    w₁.endpoints = [] ∧ w.Tidy (w.announced c) w₁ ∧ w.Accounted (w.announced c) left ∧
      ((∀ case v, CaseStarts c limit onResult w₁ registry.cases case v →
        (within limit (case.run c) v).1.ByItself) → w.Tidy (w.announced c) left) ∧
      (∀ case v, CaseStarts c limit onResult w₁ registry.cases case v →
        w.Accounted (w.announced c) v ∧
        let v' := (runCase c limit case v).2
        v.Grows v' ∧ (∀ u, v.Grows u → u.Grows v' →
          ∀ j k, w.IsOpen u j → w.IsOpen u k → j = k) ∧
        ∃ more, v'.streams.map (·.entry) = v.streams.map (·.entry) ++ more ∧ more.length ≤ 1 ∧
          ((within limit (case.run c) v).1.ByItself →
            ∀ entry ∈ more, entry = (false, w.keOpenings v.streams.length))) ∧
      ∀ w', w'.behind .calm = w.behind .calm → ∃ w₁', prepareTarget c w' = (.done (), w₁') ∧
        (runRegistry c choice registry onResult w₁').1 =
          (runRegistry c choice registry onResult w₁).1 := by
  intro limit left
  obtain ⟨hsettled, hnone⟩ := settled_prepareTarget hfresh hprepare
  have hsettles : ∀ case ∈ registry.cases, Settles w c (w.announced c) (case.run c) :=
    fun case hcase => settles_of_confined (hcases case hcase)
  have hleft : left.inventory.Settled w c (w.announced c) (True ∧ ∀ case v,
      CaseStarts c limit onResult w₁ registry.cases case v →
        (within limit (case.run c) v).1.ByItself) :=
    settled_runCases hsettles hshow hsettled {}
  refine ⟨List.map_eq_nil_iff.mp hnone, hsettled.tidy trivial, hleft.accounted,
    fun hends => hleft.tidy ⟨trivial, hends⟩, fun case v hstarts => ?_, fun w' hcalm => ?_⟩
  · obtain ⟨hv, hcase⟩ := hstarts.settled hsettles hshow (hsettled.imp False.elim)
    obtain ⟨ending, hran, hends⟩ := hcase.runCase limit hv
    obtain ⟨more, hmore, hlength⟩ := hran.endpoints
    obtain ⟨entries, hentries, hone, hexact⟩ := hran.streams
    have hcount : (runCase c limit case v).2.endpoints.length ≤ v.endpoints.length + 1 := by
      have hlengths := congrArg List.length hmore
      simp only [World.inventory, List.length_map, List.length_append] at hlengths
      omega
    have hopenings : v.inventory.nextOpenings = w.keOpenings v.streams.length := by
      rw [hv.nextOpenings_eq, World.inventory, List.length_map]
    refine ⟨hv.accounted, World.grows_of_append hmore, fun u hvu huv j k hj hk => ?_,
      entries, hentries, hone, fun h => hopenings ▸ hexact (hends h)⟩
    rw [eq_length_of_isOpen hv.accounted hcount hvu huv hj,
      eq_length_of_isOpen hv.accounted hcount hvu huv hk]
  · have hrun : Unaware (·.behind .calm) (runRegistry c choice registry onResult) :=
      unaware_runCases _ (fun case hcase => unaware_of_confined (hcases case hcase) c)
        hshow.unaware {}
    have hbehind (u : World) : prepareTarget c (u.behind .calm) =
        ((prepareTarget c u).1, (prepareTarget c u).2.behind .calm) := unaware_prepareTarget c u
    have hprepared := hbehind w
    rw [← hcalm, hbehind w', hprepare] at hprepared
    obtain ⟨hending, hworld⟩ := Prod.mk.inj hprepared
    refine ⟨(prepareTarget c w').2, Prod.ext hending rfl, ?_⟩
    have hsame := (hrun (prepareTarget c w').2).symm.trans
      ((congrArg (runRegistry c choice registry onResult) hworld).trans (hrun w₁))
    exact (Prod.mk.inj hsame).1

/-- Two cases against a time server that key establishment announced, where nothing ever answers.
The endpoint of the first one raises an exception when it is closed. The second one has a stream
whose handshake outlasts the timeout of the case: the case is cut off, and its stream stays
connected. -/
theorem runRegistry_one_server_cutOff :
    let second : Binary64 := .ofInt 1
    let c : RunConfig :=
      { (default : RunConfig) with
        target := "192.0.2.1", ntsEnabled := true, timeout := second, caseTimeout := second }
    let answer : Bytes := [128, 1, 0, 2, 0, 0, 128, 4, 0, 2, 0, 15, 0, 6, 0, 3, 110, 116, 112,
      0, 7, 0, 2, 16, 27, 0, 5, 0, 1, 9, 128, 0, 0, 0]
    let w : World :=
      { keScripts := [{ chunks := [.octets answer] }, {}]
        openings := [{}, { handshakeTicks := 2 * second.magnitude }]
        udpScripts := [{ closeFault := some { kind := .connectionReset } }]
        exporter := fun _ x => List.replicate x.length 7 }
    let registry : Registry := ⟨[Catalog.Basic.respondsToVersion4, Catalog.KeyExchange.happy]⟩
    let w₁ := (prepareTarget c w).2
    let run := runRegistry c none registry fun entry => printAll [entry.name]
    w.Fresh ∧ prepareTarget c w = (.done (), w₁) ∧ w.announced c = ⟨"ntp", 4123⟩ ∧
    (run w₁).2.streams.map (·.entry) = [(false, 1), (true, 0)] ∧ w.keOpenings 1 = 1 ∧
    w.Accounted ⟨"ntp", 4123⟩ (run w₁).2 ∧
    ∃ w₁', prepareTarget c { w with udpScripts := [{}] } = (.done (), w₁') ∧
      (run w₁').1 = (run w₁).1 := by
  intro second c answer w registry w₁ run
  obtain ⟨hannounced, hstreams, hopenings, hdone⟩ : w.announced c = ⟨"ntp", 4123⟩ ∧
      (run w₁).2.streams.map (·.entry) = [(false, 1), (true, 0)] ∧ w.keOpenings 1 = 1 ∧
      (match (prepareTarget c w).1 with
        | .done _ => true
        | _ => false) = true := by
    decide +kernel +revert
  have hfresh : w.Fresh := ⟨rfl, rfl, rfl, rfl⟩
  have hprepare : prepareTarget c w = (.done (), w₁) := by
    rcases hrun : prepareTarget c w with ⟨ending, v⟩
    rw [hrun] at hdone
    cases ending with
    | done _ => simp only [w₁, hrun]
    | failed f => cases hdone
    | cutOff => cases hdone
  have hshow : OnlyPrints fun entry => printAll [entry.name] :=
    fun entry => ⟨_, [entry.name], printAll_eq [entry.name]⟩
  have hcases : ∀ case ∈ registry.cases, case.Confined := by
    intro case hcase
    refine Catalog.confined_cases (fun _ _ => trivial) case ?_
    simp only [registry, List.mem_cons, List.not_mem_nil, or_false] at hcase
    rcases hcase with rfl | rfl <;>
      simp [Catalog.cases, Catalog.Basic.all, Catalog.KeyExchange.all]
  obtain ⟨-, -, haccounted, -, -, hcalm⟩ :=
    runRegistry_one_server none hfresh hprepare hcases hshow
  rw [hannounced] at haccounted
  exact ⟨hfresh, hprepare, hannounced, hstreams, hopenings, haccounted, hcalm _ rfl⟩

end Run

end TimeProbe

import Mathlib.Data.List.Flatten
import TimeProbe.Proofs.JarSteps

/-!
# Every session has its cookies from one filling of the jar

The jar is filled by key establishments. A ledger kept beside the calls on the jar records what
each filling brought and which sessions were handed out since. The calls keep to it: what is left
in the jar is what the latest filling brought less what was handed out from it, so the sessions
of a filling share its cookies out in order, and no cookie is in two sessions.
-/

namespace TimeProbe

/-- The result of a step, if it has one. -/
def Ending.results {α : Type} : Ending α → List α
  | .done a => [a]
  | .failed _ => []
  | .cutOff => []

/-- The materials of so many key establishments in a row. -/
def Run.materials (c : RunConfig) : Nat → World → List KeyMaterial
  | 0, _ => []
  | n + 1, w => (establishTarget c w).1.results ++ materials c n (establishTarget c w).2

/-- A session for which a key establishment gave the cookies: it has the keys and the time server
of that key establishment, and as many cookies as are asked for, unless fewer came and the session
has them all. -/
structure KeyMaterial.Gives (m : KeyMaterial) (count : Int) (out : HandedOut) : Prop where
  keys : out.session.keys = m.keys
  address : out.address = m.address
  nonempty : out.session.pool.cookies ≠ []
  size : (out.session.pool.cookies.length : Int) = count ∨
    (m.cookies.length : Int) < count ∧ out.session.pool.cookies = m.cookies

/-- A filling of the jar, and the sessions handed out from it. -/
structure Filling where
  material : KeyMaterial
  sessions : List HandedOut := []

namespace Filling

/-- The cookies handed out from a filling, in order. -/
def given (f : Filling) : List Bytes := f.sessions.flatMap (·.session.pool.cookies)

/-- The sessions of a filling are its own, and share its cookies out in order. -/
structure Sound (f : Filling) (count : Int) : Prop where
  gives : ∀ out ∈ f.sessions, f.material.Gives count out
  inOrder : f.given <+: f.material.cookies

end Filling

/-- What a ledger, latest filling first, says about the jar: nothing was ever in it, or it holds
what the latest filling brought and was not handed out, with the keys and the time server of
that filling. -/
def SessionSource.LeftBy (s : SessionSource) : List Filling → Prop
  | [] => s.keys = none ∧ s.address = none ∧ s.jar = []
  | f :: _ => s.keys = some f.material.keys ∧ s.address = some f.material.address ∧
      f.given ++ s.jar = f.material.cookies

/-- A call on the jar. -/
inductive JarCall
  /-- A key establishment in advance. -/
  | bootstrap
  /-- A session is asked for. -/
  | take

namespace JarCall

/-- Makes the call: the sessions handed out, and the world that is left. -/
def run : JarCall → World → List HandedOut × World
  | bootstrap, w => ([], (Run.bootstrap w).2)
  | take, w => ((Run.takeSession w).1.results, (Run.takeSession w).2)

/-- The number of streams that a call opens. -/
def opened (call : JarCall) (w : World) : Nat := (call.run w).2.streams.length - w.streams.length

/-- Enters the material of a key establishment. A jar in use is filled again for a session only
if the time server stays the same. -/
def fill (call : JarCall) (ledger : List Filling) (m : KeyMaterial) : List Filling :=
  match call, ledger with
  | take, f :: _ => if m.address = f.material.address then { material := m } :: ledger else ledger
  | _, _ => { material := m } :: ledger

/-- Enters sessions under the latest filling. -/
def handOver (outs : List HandedOut) : List Filling → List Filling
  | [] => []
  | f :: rest => { f with sessions := f.sessions ++ outs } :: rest

/-- The ledger after a call: the materials of the key establishments that it makes, one for each
stream, and then the sessions handed out. -/
def enter (call : JarCall) (c : RunConfig) (w : World) (ledger : List Filling) : List Filling :=
  handOver (call.run w).1 ((Run.materials c (call.opened w) w).foldl call.fill ledger)

end JarCall

/-- All sessions of a ledger, in the order in which they were handed out. -/
def Filling.sessionsOf (ledger : List Filling) : List HandedOut :=
  ledger.reverse.flatMap (·.sessions)

/-- A history of calls on the jar: it starts in one world and ends in another, with a ledger
and all sessions handed out in between. Anything may happen between two calls that leaves the
jar and the setting for its sessions alone. -/
inductive JarHistory (c : RunConfig) (w : World) :
    World → List Filling → List HandedOut → Prop
  | start : JarHistory c w w [] []
  | elsewhere {w₁ w₂ : World} {ledger : List Filling} {outs : List HandedOut}
      (before : JarHistory c w w₁ ledger outs) (source : w₂.source = w₁.source)
      (settings : w₂.settings.ntsSessionCookies = w₁.settings.ntsSessionCookies) :
      JarHistory c w w₂ ledger outs
  | call {w₁ : World} {ledger : List Filling} {outs : List HandedOut}
      (before : JarHistory c w w₁ ledger outs) (call : JarCall) :
      JarHistory c w (call.run w₁).2 (call.enter c w₁ ledger) (outs ++ (call.run w₁).1)

/-- A list that is no longer than the number asked for is taken whole. -/
theorem takeInt_eq_self {α : Type} {n : Int} {xs : List α} (h : (xs.length : Int) ≤ n) :
    takeInt n xs = xs := by
  obtain ⟨k, rfl⟩ := Int.eq_ofNat_of_zero_le (show 0 ≤ n by omega)
  exact List.take_of_length_le (Int.ofNat_le.mp h)

/-- As many members are taken as are asked for, if there are so many. -/
theorem length_takeInt {α : Type} {n : Int} {xs : List α} (hn : 0 ≤ n)
    (h : n ≤ (xs.length : Int)) : ((takeInt n xs).length : Int) = n := by
  obtain ⟨k, rfl⟩ := Int.eq_ofNat_of_zero_le hn
  exact congrArg Int.ofNat (List.length_take_of_le (Int.ofNat_le.mp h))

/-- What key establishments give does not depend on the jar. -/
theorem Run.materials_withSource (c : RunConfig) (n : Nat) (w : World)
    (s : Option SessionSource) : materials c n (w.withSource s) = materials c n w := by
  induction n generalizing w with
  | zero => rfl
  | succ n ih => rw [materials, materials, establishTarget_withSource c w s, ih]

variable {count : Int} {c : RunConfig} {w : World} {s : SessionSource} {f : Filling}
  {rest ledger : List Filling}

/-- A session from a jar that has enough cookies, or was just filled, is one of its filling, and
the cookies left are those behind it. -/
theorem Filling.Sound.handOut (hcount : 1 ≤ count) (hf : f.Sound count)
    (hleft : s.LeftBy (f :: rest))
    (henough : count ≤ s.jar.length ∨ f.sessions = [] ∧ f.material.cookies ≠ []) :
    let out := s.handOut count f.material.keys f.material.address
    let f' : Filling := { f with sessions := f.sessions ++ [out.1] }
    f'.Sound count ∧ out.2.LeftBy (f' :: rest) := by
  intro out f'
  obtain ⟨hkeys, haddress, hjar⟩ := hleft
  have hgiven : f'.given = f.given ++ takeInt count s.jar := by
    simp [f', out, Filling.given, SessionSource.handOut]
  have hleft' : f'.given ++ out.2.jar = f.material.cookies := by
    rw [hgiven, List.append_assoc, ← hjar]
    exact congrArg (f.given ++ ·) (takeInt_append_dropInt count s.jar)
  have hnew : f.material.Gives count out.1 := by
    by_cases hshort : count ≤ s.jar.length
    · have hlength : ((takeInt count s.jar).length : Int) = count :=
        length_takeInt (by omega) hshort
      refine ⟨rfl, rfl, fun hnone => ?_, .inl hlength⟩
      rw [show takeInt count s.jar = [] from hnone, List.length_nil] at hlength
      omega
    · obtain ⟨hfresh, hcookies⟩ := henough.resolve_left hshort
      have hwhole : s.jar = f.material.cookies := by
        rw [← hjar, Filling.given, hfresh]
        rfl
      have htaken : takeInt count s.jar = f.material.cookies := by
        rw [takeInt_eq_self (by omega), hwhole]
      refine ⟨rfl, rfl, fun hnone => hcookies (htaken.symm.trans hnone), .inr ⟨?_, htaken⟩⟩
      rw [hwhole] at hshort
      omega
  refine ⟨⟨fun out' hout' => ?_, ⟨_, hleft'⟩⟩, hkeys, haddress, hleft'⟩
  rcases List.mem_append.mp hout' with hold | hlast
  · exact hf.gives out' hold
  · rw [List.mem_singleton.mp hlast]
    exact hnew

/-- A world whose jar is what a ledger of sound fillings says. -/
structure Accounted (count : Int) (c : RunConfig) (w : World) (ledger : List Filling) : Prop where
  source : ∃ s, w.source = some s ∧ s.config = c ∧ s.LeftBy ledger
  settings : w.settings.ntsSessionCookies = count
  sound : ∀ f ∈ ledger, f.Sound count

namespace Accounted

variable {w₁ : World}

/-- A change of the jar that the ledger does not see needs no entry. -/
theorem of_leftBy (h : Accounted count c w ledger) (hsource : w₁.source = some s)
    (hconfig : s.config = c) (hleft : s.LeftBy ledger) (hsettings : w₁.settings = w.settings) :
    Accounted count c w₁ ledger :=
  ⟨⟨s, hsource, hconfig, hleft⟩, hsettings ▸ h.settings, h.sound⟩

/-- A filling is entered in front. -/
theorem fill (h : Accounted count c w ledger) (hconfig : s.config = c)
    (hsettings : w₁.settings = w.settings) (m : KeyMaterial) :
    Accounted count c (w₁.withSource (some (s.install m))) ({ material := m } :: ledger) := by
  have hnew : Filling.Sound { material := m } count :=
    ⟨fun out hout => absurd hout List.not_mem_nil, List.nil_prefix⟩
  exact ⟨⟨_, rfl, hconfig, rfl, rfl, rfl⟩, hsettings ▸ h.settings,
    List.forall_mem_cons.mpr ⟨hnew, h.sound⟩⟩

/-- A session is entered under the latest filling. -/
theorem handOut (hcount : 1 ≤ count) (h : Accounted count c w (f :: rest))
    (hs : w.source = some s)
    (henough : count ≤ s.jar.length ∨ f.sessions = [] ∧ f.material.cookies ≠ []) :
    let out := s.handOut count f.material.keys f.material.address
    Accounted count c (w.withSource (some out.2)) (JarCall.handOver [out.1] (f :: rest)) := by
  obtain ⟨⟨_, hsource, hconfig, hleft⟩, hsettings, hsound⟩ := h
  cases hs.symm.trans hsource
  rw [List.forall_mem_cons] at hsound
  obtain ⟨hsound', hleft'⟩ := hsound.1.handOut hcount hleft henough
  exact ⟨⟨_, rfl, hconfig, hleft'⟩, hsettings, List.forall_mem_cons.mpr ⟨hsound', hsound.2⟩⟩

end Accounted

namespace JarCall

variable {call : JarCall} {outs : List HandedOut} {w' : World} {opened : Nat}

/-- A step of a call that opens so many streams and keeps to the ledger: the jar that it leaves
is what the ledger says once the key establishments and the sessions are entered. -/
structure Enters (call : JarCall) (count : Int) (c : RunConfig) (w : World)
    (ledger : List Filling) (outs : List HandedOut) (w' : World) (opened : Nat) : Prop where
  streams : w'.streams.length = w.streams.length + opened
  accounted :
    Accounted count c w' (handOver outs ((Run.materials c opened w).foldl call.fill ledger))
  entered : outs = [] ∨ (Run.materials c opened w).foldl call.fill ledger ≠ []

/-- Where no session is handed out there is none to enter. -/
theorem handOver_nil (ledger : List Filling) : handOver [] ledger = ledger := by
  cases ledger with
  | nil => rfl
  | cons f rest => rw [handOver, List.append_nil]

/-- A step without a filling and without a session keeps to the ledger if it leaves the jar as it
is, up to a failure that is remembered. -/
theorem Enters.of_unfilled (h : Accounted count c w' ledger)
    (hstreams : w'.streams.length = w.streams.length + opened)
    (hunfilled : (Run.materials c opened w).foldl call.fill ledger = ledger) :
    call.Enters count c w ledger [] w' opened := by
  refine ⟨hstreams, ?_, .inl rfl⟩
  rw [hunfilled, handOver_nil]
  exact h

end JarCall

namespace Run

variable {ending : Ending KeyMaterial} {w₁ : World}

/-- What a key establishment does to the world. -/
theorem of_establishTarget (h : establishTarget c w = (ending, w₁)) :
    w₁.streams.length = w.streams.length + 1 ∧ w₁.settings = w.settings ∧
      w₁.source = w.source ∧ materials c 1 w = ending.results := by
  have hstreams := length_streams_establishTarget c w
  have hsettings := settings_establishTarget c w
  have hsource := source_establishTarget c w
  have hmaterials : materials c 1 w = (establishTarget c w).1.results := List.append_nil _
  rw [h] at hstreams hsettings hsource hmaterials
  exact ⟨hstreams, hsettings, hsource, hmaterials⟩

/-- A key establishment without a result keeps to the ledger, also if its failure is remembered. -/
theorem enters_of_results_eq_nil {call : JarCall} (h : Accounted count c w ledger)
    (hestablish : establishTarget c w = (ending, w₁)) (hnone : ending.results = []) :
    call.Enters count c w ledger [] w₁ 1 ∧
      ∀ s : SessionSource, s.config = c → s.LeftBy ledger →
        call.Enters count c w ledger [] (w₁.withSource (some s)) 1 := by
  obtain ⟨hstreams, hsettings, hsource, hmaterials⟩ := of_establishTarget hestablish
  have hunfilled : (materials c 1 w).foldl call.fill ledger = ledger := by
    rw [hmaterials, hnone, List.foldl_nil]
  obtain ⟨s, hs, hconfig, hleft⟩ := h.source
  refine ⟨.of_unfilled ?_ hstreams hunfilled, fun s' hconfig' hleft' => ?_⟩
  · exact h.of_leftBy (hsource.trans hs) hconfig hleft hsettings
  · exact .of_unfilled (h.of_leftBy rfl hconfig' hleft' hsettings) hstreams hunfilled

/-- A key establishment in advance keeps to the ledger. -/
theorem enters_bootstrap (h : Accounted count c w ledger) :
    JarCall.bootstrap.Enters count c w ledger [] (bootstrap w).2 1 := by
  obtain ⟨s, hs, rfl, hleft⟩ := h.source
  rw [bootstrap_eq hs]
  rcases hestablish : establishTarget s.config w with ⟨ending, w₁⟩
  cases ending with
  | done m =>
    obtain ⟨hstreams, hsettings, -, hmaterials⟩ := of_establishTarget hestablish
    refine ⟨hstreams, ?_, .inl rfl⟩
    rw [hmaterials, JarCall.handOver_nil]
    cases ledger <;> exact h.fill rfl hsettings m
  | failed f =>
    obtain ⟨hunchanged, hremembering⟩ := enters_of_results_eq_nil h hestablish rfl
    dsimp only
    split
    · exact hremembering _ rfl hleft
    · exact hunchanged
  | cutOff => exact (enters_of_results_eq_nil h hestablish rfl).1

/-- Taking a session from a jar in use keeps to the ledger, with one key establishment at most. -/
theorem enters_takeInstalled (hcount : 1 ≤ count) (h : Accounted count c w (f :: rest))
    (other : KeyPair) :
    ∃ opened ≤ 1, JarCall.take.Enters count c w (f :: rest) (takeInstalled other w).1.results
      (takeInstalled other w).2 opened := by
  obtain ⟨s, hs, rfl, hleft⟩ := h.source
  have ⟨hkeys, haddress, _⟩ := hleft
  obtain rfl := h.settings
  cases hlow : s.isLow w.settings.ntsSessionCookies with
  | false =>
    rw [takeInstalled_of_full hs hkeys haddress hlow]
    refine ⟨0, by omega, rfl, h.handOut hcount hs (.inl ?_), .inr (List.cons_ne_nil _ _)⟩
    simpa [SessionSource.isLow] using hlow
  | true =>
    rw [takeInstalled_of_low hs hlow]
    rcases hestablish : establishTarget s.config w with ⟨ending, w₁⟩
    refine ⟨1, Nat.le_refl 1, ?_⟩
    cases ending with
    | done m =>
      obtain ⟨hstreams, hsettings, hsource, hmaterials⟩ := of_establishTarget hestablish
      have hfilled : (materials s.config 1 w).foldl JarCall.take.fill (f :: rest) =
          if m.address = f.material.address then { material := m } :: f :: rest else f :: rest := by
        rw [hmaterials]
        rfl
      dsimp only
      by_cases hsame : m.address = f.material.address
      · rw [if_pos hsame] at hfilled
        rw [if_pos (haddress ▸ congrArg some hsame)]
        refine ⟨hstreams, ?_, .inr (hfilled ▸ List.cons_ne_nil _ _)⟩
        rw [hfilled]
        have hcookies := cookies_ne_nil_of_establishTarget hestablish
        have haccounted := (h.fill rfl hsettings m).handOut hcount rfl (.inr ⟨rfl, hcookies⟩)
        exact haccounted
      · rw [if_neg hsame] at hfilled
        rw [if_neg fun hsome => hsame (Option.some.inj (hsome.trans haddress))]
        exact .of_unfilled (h.of_leftBy (hsource.trans hs) rfl hleft hsettings) hstreams hfilled
    | failed cause => exact (enters_of_results_eq_nil h hestablish rfl).1
    | cutOff => exact (enters_of_results_eq_nil h hestablish rfl).1

/-- Taking a session keeps to the ledger, with two key establishments at most, and with one at
most if the jar was filled before. -/
theorem enters_takeSession (hcount : 1 ≤ count) (h : Accounted count c w ledger) :
    ∃ opened ≤ if ledger = [] then 2 else 1,
      JarCall.take.Enters count c w ledger (takeSession w).1.results (takeSession w).2 opened := by
  obtain ⟨s, hs, rfl, hleft⟩ := h.source
  cases herror : s.error with
  | some cause =>
    rw [takeSession_of_error hs herror]
    exact ⟨0, Nat.zero_le _, .of_unfilled h rfl rfl⟩
  | none =>
    cases ledger with
    | cons f rest =>
      rw [takeSession_of_keys hs herror hleft.1]
      exact enters_takeInstalled hcount h _
    | nil =>
      rw [takeSession_of_empty hs herror hleft.1]
      rcases hestablish : establishTarget s.config w with ⟨ending, w₁⟩
      cases ending with
      | done m =>
        obtain ⟨hstreams, hsettings, -, -⟩ := of_establishTarget hestablish
        obtain ⟨opened, hopened, hstreams', haccounted, hentered⟩ :=
          enters_takeInstalled hcount (h.fill rfl hsettings m) m.keys
        have hopened₁ : (w₁.withSource (some (s.install m))).streams.length =
            w.streams.length + 1 := hstreams
        -- The first key establishment is entered before those of the jar that it filled.
        have hfilled : (materials s.config (opened + 1) w).foldl JarCall.take.fill [] =
            (materials s.config opened (w₁.withSource (some (s.install m)))).foldl
              JarCall.take.fill [{ material := m }] := by
          rw [materials_withSource, materials, hestablish]
          rfl
        rw [← hfilled] at haccounted hentered
        refine ⟨opened + 1, Nat.succ_le_succ hopened, ?_, haccounted, hentered⟩
        dsimp only
        omega
      | failed f =>
        obtain ⟨hunchanged, hremembering⟩ := enters_of_results_eq_nil h hestablish rfl
        refine ⟨1, by decide, ?_⟩
        dsimp only
        split
        · exact hremembering _ rfl hleft
        · exact hunchanged
      | cutOff => exact ⟨1, by decide, (enters_of_results_eq_nil h hestablish rfl).1⟩

end Run

namespace Filling

/-- Entering fillings adds no session. -/
theorem sessionsOf_fill (call : JarCall) (ms : List KeyMaterial) (ledger : List Filling) :
    sessionsOf (ms.foldl call.fill ledger) = sessionsOf ledger := by
  induction ms generalizing ledger with
  | nil => rfl
  | cons m ms ih =>
    have hfill : sessionsOf (call.fill ledger m) = sessionsOf ledger := by
      unfold JarCall.fill
      split
      · split <;> simp [sessionsOf]
      · simp [sessionsOf]
    rw [List.foldl_cons, ih, hfill]

/-- Sessions that are entered come last. -/
theorem sessionsOf_handOver {outs : List HandedOut} (h : outs = [] ∨ ledger ≠ []) :
    sessionsOf (JarCall.handOver outs ledger) = sessionsOf ledger ++ outs := by
  cases ledger with
  | nil =>
    obtain rfl := h.resolve_right (not_not_intro rfl)
    rfl
  | cons f rest => simp [JarCall.handOver, sessionsOf]

/-- The cookies of all sessions are cookies of the fillings, each at one place. -/
theorem cookies_sublist (hsound : ∀ f ∈ ledger, f.Sound count) :
    List.Sublist ((sessionsOf ledger).flatMap (·.session.pool.cookies))
      (ledger.reverse.flatMap (·.material.cookies)) := by
  rw [sessionsOf, List.flatMap_assoc]
  exact List.Sublist.flatMap_right _ fun f hf =>
    (hsound f (List.mem_reverse.mp hf)).inOrder.sublist

end Filling

/-- A call keeps to the ledger. -/
theorem JarCall.exists_enters (call : JarCall) (hcount : 1 ≤ count)
    (h : Accounted count c w ledger) :
    ∃ opened, call.Enters count c w ledger (call.run w).1 (call.run w).2 opened := by
  cases call with
  | bootstrap => exact ⟨1, Run.enters_bootstrap h⟩
  | take =>
    obtain ⟨opened, -, henters⟩ := Run.enters_takeSession hcount h
    exact ⟨opened, henters⟩

/-- The number of key establishments of a call is the number of streams it opens. -/
theorem JarCall.Enters.opened_eq {call : JarCall} {opened : Nat}
    (h : call.Enters count c w ledger (call.run w).1 (call.run w).2 opened) :
    call.opened w = opened := by
  rw [JarCall.opened, h.streams, Nat.add_sub_cancel_left]

/-- Along a history the jar is what the ledger says, and the ledger has all sessions. -/
theorem JarHistory.accounted {w' : World} {outs : List HandedOut} (hcount : 1 ≤ count)
    (hsource : w.source = some { config := c }) (hsettings : w.settings.ntsSessionCookies = count)
    (hhistory : JarHistory c w w' ledger outs) :
    Accounted count c w' ledger ∧ outs = Filling.sessionsOf ledger := by
  induction hhistory with
  | start =>
    refine ⟨⟨⟨_, hsource, rfl, rfl, rfl, rfl⟩, hsettings, ?_⟩, rfl⟩
    exact fun f hf => absurd hf List.not_mem_nil
  | elsewhere before source settings ih =>
    exact ⟨⟨source ▸ ih.1.source, settings.trans ih.1.settings, ih.1.sound⟩, ih.2⟩
  | call before call ih =>
    obtain ⟨opened, henters⟩ := call.exists_enters hcount ih.1
    rw [JarCall.enter, henters.opened_eq]
    refine ⟨henters.accounted, ?_⟩
    rw [Filling.sessionsOf_handOver henters.entered, Filling.sessionsOf_fill, ih.2]

/-- **Every session has its cookies from one filling of the jar.** Over any history of calls on a
jar that was empty at first, the jar holds what is left of the latest filling, with the keys and
the time server of that filling. The sessions handed out are those of the fillings, in order:
each has the keys and the time server of its filling, and as many cookies as are asked for or
else all of a filling that brought fewer; the sessions of a filling share its cookies out from
the front, so no cookie that was brought is in two sessions. The next session asked for costs two
key establishments at most, and one at most if there was a filling before. -/
theorem sessions_share_fillings {w' : World} {outs : List HandedOut} (hcount : 1 ≤ count)
    (hsource : w.source = some { config := c }) (hsettings : w.settings.ntsSessionCookies = count)
    (hhistory : JarHistory c w w' ledger outs) :
    (∃ s, w'.source = some s ∧ s.config = c ∧ s.LeftBy ledger) ∧
    (∀ f ∈ ledger, f.Sound count) ∧
    outs = Filling.sessionsOf ledger ∧
    List.Sublist (outs.flatMap (·.session.pool.cookies))
      (ledger.reverse.flatMap (·.material.cookies)) ∧
    (Run.takeSession w').2.streams.length ≤ w'.streams.length + (if ledger = [] then 2 else 1) := by
  obtain ⟨haccounted, houts⟩ := hhistory.accounted hcount hsource hsettings
  obtain ⟨opened, hopened, henters⟩ := Run.enters_takeSession hcount haccounted
  refine ⟨haccounted.source, haccounted.sound, houts, ?_, ?_⟩
  · rw [houts]
    exact Filling.cookies_sublist haccounted.sound
  · rw [henters.streams]
    exact Nat.add_le_add_left hopened _

/-- The jar is filled with three cookies, a session takes two, and the next session finds the one
left too few: it takes its two from a second filling. -/
theorem sessions_share_fillings_refilled :
    let c : RunConfig := { (default : RunConfig) with target := "192.0.2.1" }
    let answer (cookies : List Bytes) : Bytes :=
      [128, 1, 0, 2, 0, 0, 128, 4, 0, 2, 0, 15] ++ cookies.flatMap ([0, 5, 0, 1] ++ ·) ++
        [128, 0, 0, 0]
    let w : World :=
      { source := some { config := c }
        keScripts := [{ chunks := [.octets (answer [[1], [2], [3]])] },
          { chunks := [.octets (answer [[4], [5]])] }]
        exporter := fun _ x => List.replicate x.length 7 }
    let w₁ := (JarCall.take.run w).2
    let w₂ := (JarCall.take.run w₁).2
    let ledger := JarCall.take.enter c w₁ (JarCall.take.enter c w [])
    let outs := (JarCall.take.run w).1 ++ (JarCall.take.run w₁).1
    JarHistory c w w₂ ledger outs ∧
    outs.map (·.session.pool.cookies) = [[[1], [2]], [[4], [5]]] ∧
    ledger.map (·.material.cookies) = [[[4], [5]], [[1], [2], [3]]] ∧
    (∃ s, w₂.source = some s ∧ s.config = c ∧ s.LeftBy ledger) ∧
    (∀ f ∈ ledger, f.Sound 2) ∧ outs = Filling.sessionsOf ledger := by
  intro c answer w w₁ w₂ ledger outs
  have hcookies : outs.map (·.session.pool.cookies) = [[[1], [2]], [[4], [5]]] ∧
      ledger.map (·.material.cookies) = [[[4], [5]], [[1], [2], [3]]] := by
    decide +kernel +revert
  have hhistory : JarHistory c w w₂ ledger outs := .call (.call .start .take) .take
  obtain ⟨hsource, hsound, houts, -⟩ :=
    sessions_share_fillings (show (1 : Int) ≤ 2 by decide) rfl rfl hhistory
  exact ⟨hhistory, hcookies.1, hcookies.2, hsource, hsound, houts⟩

end TimeProbe

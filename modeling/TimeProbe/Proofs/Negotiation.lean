import TimeProbe.Proofs.Inventory
import TimeProbe.Proofs.StreamSteps

/-!
# What keys are derived from

A key establishment judges the answer to its request by objections that count in a fixed order.
It raises the first one that applies, and then nothing was exported; if none applies, keys are
exported for both directions, and the material has these, the cookies of the answer, and the time
server that the answer points to.
-/

namespace TimeProbe

/-- The proposed algorithm that identifiers settle on, if it is a single one that can be used. -/
def settled? (proposed : List Int) : List Nat → Option Aead.Algorithm
  | [id] => if (id : Int) ∈ proposed then Aead.Algorithm.ofNumber? id else none
  | _ => none

/-- Why a response brings no keys. -/
inductive Objection
  | serverErrors
  | noProtocol
  | otherProtocol
  | noAlgorithm
  | unknownAlgorithm
  | noCookies
deriving DecidableEq

namespace Objection

/-- The objections in the order in which they count. -/
def inOrder : List Objection :=
  [serverErrors, noProtocol, otherProtocol, noAlgorithm, unknownAlgorithm, noCookies]

variable (proposed : List Int) (r : KeResponse)

/-- Whether an objection applies to a response. -/
def applies : Objection → Bool
  | serverErrors => !r.errors.isEmpty
  | noProtocol => r.nextProtocol.isNone
  | otherProtocol => r.nextProtocol ≠ some [0]
  | noAlgorithm => r.aead.isNone
  | unknownAlgorithm => (r.aead.bind (settled? proposed)).isNone
  | noCookies => r.cookies.isEmpty

/-- The kind of fault that an objection is raised as. -/
def kind : Objection → FaultKind
  | serverErrors => .keServer
  | noProtocol => .keNegotiation
  | otherProtocol => .unknownNextProtocol
  | noAlgorithm => .keNegotiation
  | unknownAlgorithm => .unknownAead
  | noCookies => .keNegotiation

/-- What is said about identifiers that settle on no algorithm. -/
def unsettled (ids : List Nat) : String :=
  let selected :=
    "Server selected AEAD " ++ KeResponse.numbers ids ++ ", proposed " ++
      Text.listed (proposed.map toString)
  match ids with
  | [id] => if (id : Int) ∈ proposed then s!"AEAD {id} is not supported" else selected
  | _ => selected

/-- What an objection says. -/
def message : Objection → String
  | serverErrors => "Server replied with error codes " ++ (Fault.numbers r.errors).literal
  | noProtocol => "Server did not reply with a Next Protocol Negotiation record"
  | otherProtocol =>
    "Server selected next protocol " ++ KeResponse.numbers (r.nextProtocol.getD []) ++
      ", expected [0]"
  | noAlgorithm => "Server did not reply with an AEAD Algorithm Negotiation record"
  | unknownAlgorithm => unsettled proposed (r.aead.getD [])
  | noCookies => "Server did not supply any cookies"

/-- What an objection points out of the response. -/
def details : Objection → List (String × Value)
  | serverErrors => [("codes", Fault.numbers r.errors)]
  | otherProtocol => [("next_protocol", Fault.numbers (r.nextProtocol.getD []))]
  | unknownAlgorithm => [("aead", Fault.numbers (r.aead.getD []))]
  | noProtocol | noAlgorithm | noCookies => []

/-- The fault that an objection is raised as. -/
def fault (o : Objection) : Fault :=
  { kind := o.kind, message := o.message proposed r, details := o.details r }

/-- The fault of identifiers that settle on no algorithm names them. -/
theorem fault_unknownAlgorithm :
    unknownAlgorithm.fault proposed r =
      { kind := .unknownAead
        message := unsettled proposed (r.aead.getD [])
        details := [("aead", Fault.numbers (r.aead.getD []))] } := rfl

end Objection

namespace KeResponse

variable {proposed : List Int} {r : KeResponse}

/-- The objection to a response that counts: the first one that applies. -/
def objection? (proposed : List Int) (r : KeResponse) : Option Objection :=
  Objection.inOrder.find? (·.applies proposed r)

/-- Errors count before anything else that is wrong with a response. -/
example : objection? [15] { errors := [2, 0], server := "192.0.2.9", port := some 123 } =
    some .serverErrors := by decide

/-- A response to which there is no objection, with the algorithm that it settles on. -/
structure Settles (proposed : List Int) (r : KeResponse) (aead : Aead.Algorithm) : Prop where
  errors : r.errors = []
  nextProtocol : r.nextProtocol = some [0]
  selected : r.aead = some [aead.number]
  proposed : (aead.number : Int) ∈ proposed
  cookies : r.cookies ≠ []

/-- What comes of a response: the first objection, or else the algorithm it settles on. -/
inductive Judgement (proposed : List Int) (r : KeResponse) :
    Except Fault Aead.Algorithm → Prop
  | refused {o : Objection} (first : r.objection? proposed = some o) :
      Judgement proposed r (.error (o.fault proposed r))
  | settled {aead : Aead.Algorithm} (settles : r.Settles proposed aead) :
      Judgement proposed r (.ok aead)

/-- Identifiers that settle on no algorithm are objected to, and named. -/
theorem judgement_of_unsettled {ids : List Nat} (herrors : r.errors = [])
    (hprotocol : r.nextProtocol = some [0]) (hids : r.aead = some ids)
    (hnone : settled? proposed ids = none) :
    Judgement proposed r (.error
      { kind := .unknownAead
        message := Objection.unsettled proposed ids
        details := [("aead", Fault.numbers ids)] }) := by
  have hfirst : r.objection? proposed = some .unknownAlgorithm := by
    simp [objection?, Objection.inOrder, Objection.applies, herrors, hprotocol, hids, hnone]
  have hjudged := Judgement.refused hfirst
  rwa [Objection.fault_unknownAlgorithm, hids] at hjudged

/-- An answer to a request is judged by the objections to it. -/
theorem judgement_negotiate (proposed : List Int) (r : KeResponse) :
    Judgement proposed r (negotiate proposed r) := by
  obtain ⟨protocols, algorithms, errors, warnings, cookies, server, port, ignored⟩ := r
  rcases errors with _ | ⟨code, codes⟩
  case cons => exact .refused (o := .serverErrors) rfl
  rcases protocols with _ | protocols
  case none => exact .refused (o := .noProtocol) rfl
  unfold negotiate
  simp only [failure?, List.isEmpty_nil, if_true]
  split
  next hprotocols =>
    have hother : protocols ≠ [0] := hprotocols
    refine .refused (o := .otherProtocol) ?_
    simp [objection?, Objection.inOrder, Objection.applies, hother]
  next hprotocols =>
    obtain rfl : protocols = [0] := Decidable.not_not.mp hprotocols
    rcases algorithms with _ | _ | ⟨id, _ | ⟨second, ids⟩⟩
    case none => exact .refused (o := .noAlgorithm) rfl
    case some.nil =>
      exact judgement_of_unsettled rfl rfl rfl (show settled? proposed [] = none from rfl)
    case some.cons.cons =>
      exact judgement_of_unsettled rfl rfl rfl
        (show settled? proposed (id :: second :: ids) = none from rfl)
    dsimp only
    split
    next hproposed =>
      have hjudged := judgement_of_unsettled (r := ⟨_, _, _, warnings, cookies, server, port,
        ignored⟩) rfl rfl rfl (show settled? proposed [id] = none from if_neg hproposed)
      rwa [Objection.unsettled, if_neg hproposed] at hjudged
    next hproposed =>
      have hproposed := Decidable.not_not.mp hproposed
      have hsettled : settled? proposed [id] = Aead.Algorithm.ofNumber? id := if_pos hproposed
      cases haead : Aead.Algorithm.ofNumber? id with
      | none =>
        have hjudged := judgement_of_unsettled (r := ⟨_, _, _, warnings, cookies, server, port,
          ignored⟩) rfl rfl rfl (hsettled.trans haead)
        rwa [Objection.unsettled, if_pos hproposed] at hjudged
      | some aead =>
        obtain rfl := Aead.Algorithm.number_of_ofNumber? haead
        rcases cookies with _ | ⟨cookie, cookies⟩
        · refine .refused (o := .noCookies) ?_
          simp [objection?, Objection.inOrder, Objection.applies, hsettled, haead]
        · exact .settled ⟨rfl, rfl, rfl, hproposed, List.cons_ne_nil _ _⟩

/-- No objection applies to a response that settles on an algorithm. -/
theorem Settles.objection?_eq_none {aead : Aead.Algorithm} (h : r.Settles proposed aead) :
    r.objection? proposed = none := by
  have hsettled : settled? proposed [aead.number] = some aead := by
    rw [settled?, if_pos h.proposed, Aead.Algorithm.ofNumber?_number]
  simp [objection?, Objection.inOrder, Objection.applies, h.errors, h.nextProtocol, h.selected,
    hsettled, h.cookies]

/-- A response settles on one algorithm at most. -/
theorem Settles.unique {aead other : Aead.Algorithm} (h : r.Settles proposed aead)
    (hother : r.Settles proposed other) : other = aead := by
  have hnumber := hother.selected.symm.trans h.selected
  simp only [Option.some.injEq, List.cons.injEq, and_true] at hnumber
  have hofNumber := Aead.Algorithm.ofNumber?_number other
  rw [hnumber, Aead.Algorithm.ofNumber?_number] at hofNumber
  exact (Option.some.inj hofNumber).symm

/-- The algorithm that keys are derived for is the one that the response settles on. -/
theorem negotiate_eq_ok_iff {aead : Aead.Algorithm} :
    negotiate proposed r = .ok aead ↔ r.Settles proposed aead := by
  have hjudged := judgement_negotiate proposed r
  constructor
  · intro hok
    rw [hok] at hjudged
    cases hjudged with
    | settled settles => exact settles
  · intro hsettles
    generalize negotiate proposed r = verdict at hjudged
    cases hjudged with
    | refused first =>
      rw [hsettles.objection?_eq_none] at first
      cases first
    | settled settles => rw [settles.unique hsettles]

/-- There is no objection exactly to responses without errors that agree to the one protocol and
to a single algorithm that was proposed and can be used, and that bring cookies. -/
theorem exists_settles_iff :
    (∃ aead, r.Settles proposed aead) ↔
      r.errors = [] ∧ r.nextProtocol = some [0] ∧
        (∃ id : Nat, r.aead = some [id] ∧ (id : Int) ∈ proposed ∧
          (id = 15 ∨ id = 16 ∨ id = 17)) ∧ r.cookies ≠ [] := by
  constructor
  · rintro ⟨aead, h⟩
    refine ⟨h.errors, h.nextProtocol, ⟨aead.number, h.selected, h.proposed, ?_⟩, h.cookies⟩
    cases aead <;> decide
  · rintro ⟨herrors, hprotocol, ⟨id, hselected, hproposed, hid⟩, hcookies⟩
    obtain ⟨aead, rfl⟩ : ∃ aead : Aead.Algorithm, aead.number = id := by
      rcases hid with rfl | rfl | rfl
      · exact ⟨.sivCmac256, rfl⟩
      · exact ⟨.sivCmac384, rfl⟩
      · exact ⟨.sivCmac512, rfl⟩
    exact ⟨aead, herrors, hprotocol, hselected, hproposed, hcookies⟩

/-- What is raised is the first objection. -/
theorem exists_of_negotiate_eq_error {f : Fault} (h : negotiate proposed r = .error f) :
    ∃ o, r.objection? proposed = some o ∧ f = o.fault proposed r := by
  have hjudged := judgement_negotiate proposed r
  rw [h] at hjudged
  cases hjudged with
  | refused first => exact ⟨_, first, rfl⟩

end KeResponse

namespace World

/-- What keys and time servers are derived from besides an answer, and what was exported so far on
each of the streams. -/
def exporting (w : World) : (Nat → Export → Bytes) × Settings × List (Address × List Export) :=
  (w.exporter, w.settings, w.streams.map fun s => (s.address, s.exports))

variable {w w' : World} {i : Nat}

/-- A stream may change in other ways than its address and what was exported on it. -/
theorem exporting_setStream {s : KeStream} (haddress : s.address = (w.stream i).address)
    (hexports : s.exports = (w.stream i).exports) : (w.setStream i s).exporting = w.exporting := by
  have hmap : (w.streams.set i s).map (fun s => (s.address, s.exports)) =
      w.streams.map fun s => (s.address, s.exports) := by
    refine map_set_eq_map _ _ fun found hfound => ?_
    rw [haddress, hexports, stream, hfound]
    rfl
  simp only [exporting, setStream, hmap]

/-- Each stream has an address and what was exported on it. -/
theorem stream_of_exporting (h : w'.exporting = w.exporting) (j : Nat) :
    (w'.stream j).address = (w.stream j).address ∧
      (w'.stream j).exports = (w.stream j).exports := by
  have hmap := congrArg (fun e => e.2.2[j]?.getD default) h
  have hlook (v : World) : v.exporting.2.2[j]?.getD default =
      ((v.stream j).address, (v.stream j).exports) := by
    rw [exporting, stream, List.getElem?_map]
    cases v.streams[j]? <;> rfl
  simp only [hlook, Prod.mk.injEq] at hmap
  exact hmap

/-- The world after some more uses of the exporter of a stream. -/
def withExports (w : World) (i : Nat) (uses : List Export) : World :=
  w.setStream i { w.stream i with exports := (w.stream i).exports ++ uses }

/-- The uses of the exporter of a stream are recorded on it. -/
theorem exports_withExports (hi : i < w.streams.length) (uses : List Export) :
    ((w.withExports i uses).stream i).exports = (w.stream i).exports ++ uses := by
  rw [withExports, stream, setStream, List.getElem?_set_self hi]
  rfl

/-- Nothing is recorded on another stream. -/
theorem stream_withExports_of_ne {j : Nat} (hj : j ≠ i) (uses : List Export) :
    (w.withExports i uses).stream j = w.stream j := by
  rw [withExports, stream, setStream, List.getElem?_set_ne hj.symm]
  rfl

/-- Uses of the exporter may be recorded one by one. -/
theorem withExports_withExports (hi : i < w.streams.length) (uses more : List Export) :
    (w.withExports i uses).withExports i more = w.withExports i (uses ++ more) := by
  have hstream : (w.withExports i uses).stream i =
      { w.stream i with exports := (w.stream i).exports ++ uses } := by
    rw [withExports, stream, setStream, List.getElem?_set_self hi]
    rfl
  rw [withExports, hstream, withExports, withExports]
  simp only [setStream, List.set_set, List.append_assoc]

end World

namespace Run

variable {w w₁ : World} {i : Nat} {aead : Aead.Algorithm}

/-- What was exported has nothing to do with time. -/
theorem untimed_exporting : Untimed World.exporting := untimed_of_eq fun _ _ _ _ _ _ _ => rfl

/-- Sending octets exports nothing. -/
theorem exporting_sendOctets (i : Nat) (data : Bytes) :
    Leaves World.exporting (sendOctets i data) := by
  have hsuffer (fault : Option Fault) : Leaves World.exporting (suffer fault) := by
    cases fault <;> exact fun _ => rfl
  have hrecord : Leaves World.exporting
      (updateStream i fun s => { s with sent := s.sent ++ [data] }) :=
    fun _ => World.exporting_setStream rfl rfl
  have hdrain : Leaves World.exporting awaitDrained :=
    leaves_iff_keeps.mpr fun value => keeps_awaitDrained (untimed_exporting value)
  exact (leaves_read _ _).bind fun fault => hrecord.bind fun _ => hdrain.bind fun _ => hsuffer fault

/-- Receiving a record exports nothing. -/
theorem exporting_receiveRecord (i : Nat) : Leaves World.exporting (receiveRecord i) :=
  fun w => World.exporting_setStream (w := w) rfl rfl

/-- Sending a request and reading the answer exports nothing. -/
theorem exporting_exchangeRequest (i : Nat) (q : KeRequest) :
    Leaves World.exporting (exchangeRequest i q) := by
  have hexcept {α : Type} (r : Except Fault α) : Leaves World.exporting (ofExcept r) := by
    cases r <;> exact fun _ => rfl
  have hcollect : Leaves World.exporting (collect i) := by
    refine (built_collect (fun _ _ => trivial) i).leaves untimed_exporting fun α x h => ?_
    cases h with
    | receive => exact exporting_receiveRecord i
    | look f => exact leaves_read _ _
  exact (hexcept _).bind fun rs => (exporting_sendOctets i _).bind fun _ =>
    hcollect.bind fun answer => hexcept _

/-- A key of the right length is the one that is exported. -/
theorem deriveKey_eq {direction : Nat} {key : Aead.Cipher} (halgorithm : key.algorithm = aead)
    (hkey : key.key = w.exporter i (directionExport aead direction)) :
    deriveKey i aead direction w =
      (.done key, w.withExports i [directionExport aead direction]) := by
  obtain ⟨algorithm, octets, length⟩ := key
  obtain rfl : algorithm = aead := halgorithm
  obtain rfl : octets = _ := hkey
  have hexport : exportKey i (directionExport algorithm direction) w =
    (.done _, w.withExports i [directionExport algorithm direction]) := rfl
  rw [deriveKey, bind_done hexport, Aead.Cipher.make, dif_pos length]
  rfl

/-- The keys of both directions are those that are exported, client to server first. -/
theorem deriveKeys_eq {keys : KeyPair} (hi : i < w.streams.length)
    (hclient : keys.clientToServer.algorithm = aead)
    (hclientKey : keys.clientToServer.key = w.exporter i (directionExport aead 0))
    (hserver : keys.serverToClient.algorithm = aead)
    (hserverKey : keys.serverToClient.key = w.exporter i (directionExport aead 1)) :
    deriveKeys i aead w =
      (.done keys, w.withExports i [directionExport aead 0, directionExport aead 1]) := by
  have hsecond : deriveKey i aead 1 (w.withExports i [directionExport aead 0]) = (.done _, _) :=
    deriveKey_eq hserver hserverKey
  rw [deriveKeys, bind_done (deriveKey_eq hclient hclientKey), bind_done hsecond,
    World.withExports_withExports hi]
  rfl

/-- A response to which there is an objection ends a key establishment with it. -/
theorem establish_of_objection {q : KeRequest} {r : KeResponse} {o : Objection}
    (hexchange : exchangeRequest i q w = (.done r, w₁)) (hfirst : r.objection? q.aead = some o) :
    establish i q w = (.failed (o.fault q.aead r), w₁) := by
  rw [establish, bind_done hexchange]
  cases hnegotiate : negotiate q.aead r with
  | ok aead =>
    rw [(KeResponse.negotiate_eq_ok_iff.mp hnegotiate).objection?_eq_none] at hfirst
    cases hfirst
  | error f =>
    obtain ⟨other, hother, rfl⟩ := KeResponse.exists_of_negotiate_eq_error hnegotiate
    obtain rfl : other = o := Option.some.inj (hother.symm.trans hfirst)
    exact bind_failed rfl _

/-- A response that settles on an algorithm ends a key establishment with material for it. -/
theorem establish_of_settles {q : KeRequest} {r : KeResponse} {keys : KeyPair}
    (hi : i < w₁.streams.length) (hexchange : exchangeRequest i q w = (.done r, w₁))
    (hsettles : r.Settles q.aead aead) (hclient : keys.clientToServer.algorithm = aead)
    (hclientKey : keys.clientToServer.key = w₁.exporter i (directionExport aead 0))
    (hserver : keys.serverToClient.algorithm = aead)
    (hserverKey : keys.serverToClient.key = w₁.exporter i (directionExport aead 1)) :
    establish i q w =
      (.done ⟨aead, r.cookies, keys,
          r.addressOr (w₁.stream i).address.host w₁.settings.defaultPort⟩,
        w₁.withExports i [directionExport aead 0, directionExport aead 1]) := by
  have hsettled : ofExcept (negotiate q.aead r) w₁ = (.done aead, w₁) := by
    rw [KeResponse.negotiate_eq_ok_iff.mpr hsettles]
    rfl
  have haddress : ((w₁.withExports i [directionExport aead 0, directionExport aead 1]).stream
      i).address = (w₁.stream i).address := by
    rw [World.withExports, World.stream, World.setStream, List.getElem?_set_self hi]
    rfl
  rw [establish, bind_done hexchange, bind_done hsettled,
    bind_done (deriveKeys_eq hi hclient hclientKey hserver hserverKey), ← haddress]
  rfl

end Run

/-- What key material has to do with the response it was made of: the algorithm that the response
settles on, its cookies, the keys that the exporter of the stream gives for this algorithm, and
the time server that the response names, or else the host of the key establishment and the
default port. -/
structure KeyMaterial.MadeOf (m : KeyMaterial) (w : World) (i : Nat) (r : KeResponse) : Prop where
  selected : r.aead = some [m.aead.number]
  cookies : m.cookies = r.cookies
  algorithms : m.keys.clientToServer.algorithm = m.aead ∧ m.keys.serverToClient.algorithm = m.aead
  clientToServer : m.keys.clientToServer.key = w.exporter i
    { label := "EXPORTER-network-time-security".toUTF8.toList
      length := m.aead.keyLength
      context := [0, 0] ++ Bytes.ofNat 2 m.aead.number ++ [0] }
  serverToClient : m.keys.serverToClient.key = w.exporter i
    { label := "EXPORTER-network-time-security".toUTF8.toList
      length := m.aead.keyLength
      context := [0, 0] ++ Bytes.ofNat 2 m.aead.number ++ [1] }
  host : m.address.host = (r.server.filter (· ≠ "")).getD (w.stream i).address.host
  port : m.address.port = ((r.port.filter (· ≠ 0)).map Int.ofNat).getD w.settings.defaultPort

/-- The time server that a response points to. -/
theorem KeResponse.addressOr_eq (r : KeResponse) (host : String) (defaultPort : Int) :
    r.addressOr host defaultPort =
      { host := (r.server.filter (· ≠ "")).getD host
        port := ((r.port.filter (· ≠ 0)).map Int.ofNat).getD defaultPort } := by
  rw [addressOr]
  congr 1
  · cases r.server with
    | none => rfl
    | some name => by_cases hname : name = "" <;> simp [Option.filter, hname]
  · cases r.port with
    | none => rfl
    | some port => by_cases hport : port = 0 <;> simp [Option.filter, hport]

namespace Run

variable {w w₁ : World} {i : Nat}

/-- **Material is made of acceptable answers only.** On the answer to a request a key
establishment has material exactly if the answer has no errors, the one protocol 0, one single
algorithm, which was proposed and is one of the three that can be used, and cookies. The material
is made of the answer, and the exporter of the stream was used for the two keys only, that of the
client first. On any other answer no exporter was used, and what is raised is the first of the
objections that apply. -/
theorem establish_exact {q : KeRequest} {r : KeResponse} (hi : i < w.streams.length)
    (hexporter : ∀ x : Export, (w.exporter i x).length = x.length)
    (hexchange : exchangeRequest i q w = (.done r, w₁)) :
    ((∃ m w₂, establish i q w = (.done m, w₂)) ↔
      r.errors = [] ∧ r.nextProtocol = some [0] ∧
        (∃ id : Nat, r.aead = some [id] ∧ (id : Int) ∈ q.aead ∧ (id = 15 ∨ id = 16 ∨ id = 17)) ∧
        r.cookies ≠ []) ∧
    (∀ m w₂, establish i q w = (.done m, w₂) →
      m.MadeOf w i r ∧
        (w₂.stream i).exports = (w.stream i).exports ++
          [directionExport m.aead 0, directionExport m.aead 1] ∧
        ∀ j, j ≠ i → (w₂.stream j).exports = (w.stream j).exports) ∧
    ((¬ ∃ m w₂, establish i q w = (.done m, w₂)) →
      ∃ o, r.objection? q.aead = some o ∧
        establish i q w = (.failed (o.fault q.aead r), w₁) ∧
        ∀ j, (w₁.stream j).exports = (w.stream j).exports) := by
  have hleft : w₁.exporting = w.exporting := by
    rw [← exporting_exchangeRequest i q w, hexchange]
  have hsame : w₁.exporter = w.exporter := congrArg (·.1) hleft
  have hsettings : w₁.settings = w.settings := congrArg (·.2.1) hleft
  have hstreams := World.stream_of_exporting hleft
  have hi₁ : i < w₁.streams.length := by
    have hlength := congrArg (·.2.2.length) hleft
    simp only [World.exporting, List.length_map] at hlength
    omega
  rw [← KeResponse.exists_settles_iff]
  cases hnegotiate : negotiate q.aead r with
  | error f =>
    obtain ⟨o, hfirst, rfl⟩ := KeResponse.exists_of_negotiate_eq_error hnegotiate
    have hrun := establish_of_objection hexchange hfirst
    have hnone : ¬ ∃ m w₂, establish i q w = (.done m, w₂) := by
      rintro ⟨m, w₂, hdone⟩
      rw [hrun] at hdone
      cases hdone
    refine ⟨⟨fun h => absurd h hnone, ?_⟩, fun m w₂ h => absurd ⟨m, w₂, h⟩ hnone,
      fun _ => ⟨o, hfirst, hrun, fun j => (hstreams j).2⟩⟩
    rintro ⟨aead, hsettles⟩
    rw [hsettles.objection?_eq_none] at hfirst
    cases hfirst
  | ok aead =>
    have hsettles := KeResponse.negotiate_eq_ok_iff.mp hnegotiate
    let keys : KeyPair :=
      ⟨⟨aead, w₁.exporter i (directionExport aead 0), by rw [hsame, hexporter]; rfl⟩,
        ⟨aead, w₁.exporter i (directionExport aead 1), by rw [hsame, hexporter]; rfl⟩⟩
    have hclient : keys.clientToServer.algorithm = aead := rfl
    have hrun := establish_of_settles hi₁ hexchange hsettles hclient rfl rfl rfl
    refine ⟨⟨fun _ => ⟨aead, hsettles⟩, fun _ => ⟨_, _, hrun⟩⟩, fun m w₂ hdone => ?_,
      fun hnone => absurd ⟨_, _, hrun⟩ hnone⟩
    rw [hrun] at hdone
    cases hdone
    refine ⟨⟨hsettles.selected, rfl, ⟨rfl, rfl⟩, ?_, ?_, ?_, ?_⟩, ?_, fun j hj => ?_⟩
    · exact congrArg (fun exporter => exporter i (directionExport aead 0)) hsame
    · exact congrArg (fun exporter => exporter i (directionExport aead 1)) hsame
    · rw [KeResponse.addressOr_eq, (hstreams i).1]
    · rw [KeResponse.addressOr_eq, hsettings]
    · rw [World.exports_withExports hi₁, (hstreams i).2]
    · rw [World.stream_withExports_of_ne hj, (hstreams j).2]

/-- An answer that names another time server, but no port, leads to material for that server and
the default port. -/
theorem establish_exact_redirected :
    let w : World :=
      { streams :=
          [{ address := ⟨"192.0.2.1", 4460⟩
             maxRecords := 8
             chunks := [.octets ([128, 1, 0, 2, 0, 0, 128, 4, 0, 2, 0, 15, 0, 5, 0, 1, 7] ++
               [0, 6, 0, 1, 98, 0, 7, 0, 2, 0, 0, 128, 0, 0, 0])] }] }
    let r : KeResponse :=
      { nextProtocol := some [0], aead := some [15], cookies := [[7]]
        server := some "b", port := some 0 }
    0 < w.streams.length ∧ (∀ x : Export, (w.exporter 0 x).length = x.length) ∧
      (exchangeRequest 0 {} w).1 = .done r ∧
      ∃ m w₂, establish 0 {} w = (.done m, w₂) ∧ m.MadeOf w 0 r ∧ m.address = ⟨"b", 123⟩ := by
  intro w r
  have hcomputed : (match (exchangeRequest 0 {} w).1 with
      | .done answer => decide (answer = r)
      | _ => false) = true := by
    decide +kernel +revert
  have hexchange : (exchangeRequest 0 {} w).1 = .done r := by
    split at hcomputed
    next answer hanswer => rw [hanswer, of_decide_eq_true hcomputed]
    next => cases hcomputed
  have hexporter (x : Export) : (w.exporter 0 x).length = x.length := by
    change ((List.range x.length).map x.octet).length = x.length
    rw [List.length_map, List.length_range]
  have hexact := establish_exact (i := 0) (q := {}) (by decide) hexporter
    (Prod.ext hexchange rfl : exchangeRequest 0 {} w = (.done r, _))
  obtain ⟨m, w₂, hdone⟩ := hexact.1.mpr
    ⟨rfl, rfl, ⟨15, rfl, List.mem_singleton.mpr rfl, .inl rfl⟩, List.cons_ne_nil _ _⟩
  have hmade := (hexact.2.1 m w₂ hdone).1
  have haddress : m.address = ⟨"b", 123⟩ := congr (congrArg Address.mk hmade.host) hmade.port
  exact ⟨by decide, hexporter, hexchange, m, w₂, hdone, hmade, haddress⟩

end Run

end TimeProbe

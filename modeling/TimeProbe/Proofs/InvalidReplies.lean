import TimeProbe.Proofs.ExchangeOutcome

/-!
# Invalid replies

An exchange that ends at its deadline reports the last invalid datagram it took, if it took one,
also if unrelated datagrams were taken with it. So the report of an invalid datagram does not mean
that there was no valid one.
-/

namespace TimeProbe

/-- The fault of an invalid datagram marks it as such. -/
theorem Fault.isInvalidReply_ofReplyError (e : ReplyError) :
    (Fault.ofReplyError e).kind.isInvalidReply = true := by
  cases e with
  | packet e => cases e <;> rfl
  | authenticator e => rfl
  | cipher e => cases e <;> rfl
  | encrypted e => rfl

section

variable {α : Type} {accept : Bytes → Except ReplyError (Option α)}
  {arrivals : List (Nat × Arrival)}

/-- A datagram is not both unrelated and invalid. -/
theorem Arrival.Unrelated.not_invalid {arrival : Arrival} (h : arrival.Unrelated accept) :
    ¬ arrival.Invalid accept := by
  obtain ⟨hnone⟩ := h
  rintro ⟨herror⟩
  rw [hnone] at herror
  cases herror

/-- The last invalid datagram stands in front of unrelated ones only. -/
theorem exists_last_invalid
    (harrivals : ∀ a ∈ arrivals, a.2.Unrelated accept ∨ a.2.Invalid accept)
    (hinvalid : ∃ a ∈ arrivals, a.2.Invalid accept) :
    ∃ earlier time octets error later,
      arrivals = earlier ++ (time, .datagram octets) :: later ∧ accept octets = .error error ∧
      (∀ a ∈ later, a.2.Unrelated accept) ∧
      (rejections accept arrivals).getLast? = some (error, octets) := by
  induction arrivals with
  | nil =>
    obtain ⟨a, ha, -⟩ := hinvalid
    cases ha
  | cons first arrivals ih =>
    obtain ⟨hfirst, hothers⟩ := List.forall_mem_cons.mp harrivals
    by_cases hmore : ∃ a ∈ arrivals, a.2.Invalid accept
    · obtain ⟨earlier, time, octets, error, later, rfl, herror, hlater, hlast⟩ := ih hothers hmore
      refine ⟨first :: earlier, time, octets, error, later, rfl, herror, hlater, ?_⟩
      have hcons := getLast?_rejections_cons accept first.1 first.2
        (earlier ++ (time, .datagram octets) :: later) none
      rwa [Option.or_none, hlast] at hcons
    · have hlater : ∀ a ∈ arrivals, a.2.Unrelated accept := fun a ha =>
        (hothers a ha).resolve_right fun h => hmore ⟨a, ha, h⟩
      obtain ⟨a, ha, hbad⟩ := hinvalid
      obtain rfl : a = first :=
        (List.mem_cons.mp ha).resolve_right fun h => hmore ⟨a, h, hbad⟩
      obtain ⟨time, arrival⟩ := a
      obtain ⟨octets, error, rfl, herror, hrejected⟩ := hbad.exists_rejected
      refine ⟨[], time, octets, error, arrivals, rfl, herror, hlater, ?_⟩
      have hcons := getLast?_rejections_cons accept time (.datagram octets) arrivals none
      rwa [Option.or_none, rejections_eq_nil hlater, hrejected] at hcons

end

namespace Run

variable {α : Type} {i : Nat} {data : Bytes} {accept : Bytes → Except ReplyError (Option α)}
  {timeout : Option Binary64} {T : Binary64} {w : World} {e : Endpoint}
  {front rest : List (Nat × Arrival)}

/-- **What an exchange reports at its deadline.** It is a receive timeout if all datagrams taken
were unrelated, and else the error of the last invalid one, whatever unrelated ones were taken
before or after it. So an invalid datagram is reported only where nothing else was taken exactly
if the datagrams taken were of one kind. -/
theorem exchangeRaw_expired_fault (hi : i < w.endpoints.length)
    (htimeout : timeout.getD (w.endpoint i).timeout = T)
    (hsend : (w.endpoint i).send w.now.time data = (none, e))
    (hlimit : w.limitPassesBy (w.now.deadline T) = false) (hpending : e.pending = front ++ rest)
    (hfront : ∀ a ∈ front, a.1 < w.now.closing T ∧
      (a.2.Unrelated accept ∨ a.2.Invalid accept))
    (hrest : ∀ a ∈ rest.head?, w.now.closing T ≤ a.1) :
    ∃ f w', exchangeRaw i data accept timeout w = (.failed f, w') ∧
      w'.now = w.now.deadline T ∧
      ((∀ a ∈ front, a.2.Unrelated accept) → f =
        { kind := .receiveTimeout
          message := "No matching reply from " ++ e.address.describe
          details := [("timeout_sec", .float T)] }) ∧
      ((∃ a ∈ front, a.2.Invalid accept) → ∃ earlier time octets error later,
        front = earlier ++ (time, .datagram octets) :: later ∧ accept octets = .error error ∧
        (∀ a ∈ later, a.2.Unrelated accept) ∧
        f = { Fault.ofReplyError error with datagram := some octets }) ∧
      ((f.kind.isInvalidReply = true → ∀ a ∈ front, a.2.Invalid accept) ↔
        (∀ a ∈ front, a.2.Unrelated accept) ∨ ∀ a ∈ front, a.2.Invalid accept) := by
  obtain ⟨w', hexchange, -, hnow⟩ :=
    exchangeRaw_expired hi htimeout hsend hlimit hpending hfront hrest
  refine ⟨_, w', hexchange, hnow, ?_, ?_, ?_⟩
  · intro hunrelated
    rw [rejections_eq_nil hunrelated]
    rfl
  · intro hinvalid
    obtain ⟨earlier, time, octets, error, later, hsplit, herror, hlater, hlast⟩ :=
      exists_last_invalid (fun a ha => (hfront a ha).2) hinvalid
    refine ⟨earlier, time, octets, error, later, hsplit, herror, hlater, ?_⟩
    rw [hlast]
    rfl
  · by_cases hinvalid : ∃ a ∈ front, a.2.Invalid accept
    · obtain ⟨_, _, octets, error, _, _, _, _, hlast⟩ :=
        exists_last_invalid (fun a ha => (hfront a ha).2) hinvalid
      rw [hlast]
      have hmarked : (noReply e.address T (some (error, octets))).kind.isInvalidReply = true :=
        Fault.isInvalidReply_ofReplyError error
      obtain ⟨a, ha, hbad⟩ := hinvalid
      constructor
      · exact fun hrule => .inr (hrule hmarked)
      · rintro (hunrelated | hall) -
        · exact absurd hbad (hunrelated a ha).not_invalid
        · exact hall
    · have hunrelated : ∀ a ∈ front, a.2.Unrelated accept := fun a ha =>
        (hfront a ha).2.resolve_right fun h => hinvalid ⟨a, ha, h⟩
      rw [rejections_eq_nil hunrelated]
      constructor
      · exact fun _ => .inl hunrelated
      · rintro - ⟨⟩

/-- A well-formed reply to something else and behind it an octet that is no packet: the octet is
reported. -/
theorem exchangeRaw_expired_fault_mixed :
    let packet : Packet := { transmitTimestamp := 77 }
    let reply : Packet := { mode := 4, stratum := 2, originTimestamp := 5 }
    let before : Endpoint :=
      { address := ⟨"192.0.2.1", 123⟩, timeout := Binary64.ofMillis 100, datagramLimit := 9000
        pending := [(0, .datagram reply.encode), (0, .datagram [0])] }
    let w : World := { endpoints := [before] }
    (w.endpoint 0).send w.now.time packet.encode =
      (none, { before with sent := [packet.encode] }) ∧
    (Arrival.datagram reply.encode).Unrelated (acceptPacket ⟨77, none⟩) ∧
    (Arrival.datagram [0]).Invalid (acceptPacket ⟨77, none⟩) ∧
    ∃ w', exchangePacket 0 packet none none w = (.failed
        { Fault.ofReplyError (.packet (.truncated 1)) with datagram := some [0] }, w') ∧
      w'.now = w.now.deadline (Binary64.ofMillis 100) := by
  intro packet reply before w
  have hsend : (w.endpoint 0).send w.now.time packet.encode =
      (none, { before with sent := [packet.encode] }) := rfl
  have hread : (Packet.decode reply.encode).toOption = some reply := by decide +kernel
  have hreply : acceptPacket ⟨77, none⟩ reply.encode = .ok none := by
    rw [acceptPacket]
    cases hdecode : Packet.decode reply.encode with
    | error e =>
      rw [hdecode] at hread
      cases hread
    | ok p =>
      rw [hdecode] at hread
      obtain rfl := Option.some.inj hread
      rfl
  have hoctet : acceptPacket ⟨77, none⟩ [0] = .error (.packet (.truncated 1)) := rfl
  have hclosing : 0 < w.now.closing (Binary64.ofMillis 100) := by decide +kernel
  have hfront : ∀ a ∈ before.pending, a.1 < w.now.closing (Binary64.ofMillis 100) ∧
      (a.2.Unrelated (acceptPacket ⟨77, none⟩) ∨ a.2.Invalid (acceptPacket ⟨77, none⟩)) := by
    intro a ha
    simp only [before, List.mem_cons, List.not_mem_nil, or_false] at ha
    rcases ha with rfl | rfl
    · exact ⟨hclosing, .inl ⟨hreply⟩⟩
    · exact ⟨hclosing, .inr ⟨hoctet⟩⟩
  have hlimit : w.limitPassesBy (w.now.deadline (Binary64.ofMillis 100)) = false := rfl
  have hrest : ∀ a ∈ ([] : List (Nat × Arrival)).head?,
      w.now.closing (Binary64.ofMillis 100) ≤ a.1 := by simp
  have hi : 0 < w.endpoints.length := Nat.zero_lt_one
  have htimeout : (none : Option Binary64).getD (w.endpoint 0).timeout = Binary64.ofMillis 100 :=
    rfl
  have hpending : ({ before with sent := [packet.encode] } : Endpoint).pending =
      before.pending ++ [] := (List.append_nil _).symm
  obtain ⟨f, w', hexchange, hnow, -, hinvalid, -⟩ :=
    exchangeRaw_expired_fault hi htimeout hsend hlimit hpending hfront hrest
  obtain ⟨earlier, time, octets, error, later, hsplit, herror, -, rfl⟩ :=
    hinvalid ⟨(0, .datagram [0]), List.mem_cons_of_mem _ List.mem_cons_self, ⟨hoctet⟩⟩
  refine ⟨hsend, ⟨hreply⟩, ⟨hoctet⟩, w', ?_, hnow⟩
  have hall : [(0, .datagram reply.encode), (0, .datagram [0])] =
      earlier ++ (time, .datagram octets) :: later := hsplit
  rcases earlier with _ | ⟨first, _ | ⟨second, earlier⟩⟩
  · obtain ⟨hfirst, -⟩ := List.cons.inj hall
    rw [← Arrival.datagram.inj (congrArg Prod.snd hfirst), hreply] at herror
    cases herror
  · obtain ⟨-, hsecond⟩ := List.cons.inj hall
    obtain ⟨hsecond, -⟩ := List.cons.inj hsecond
    obtain rfl := Arrival.datagram.inj (congrArg Prod.snd hsecond)
    rw [hoctet] at herror
    obtain rfl := Except.error.inj herror
    exact hexchange
  · have hlength := congrArg List.length hall
    simp at hlength

end Run

end TimeProbe

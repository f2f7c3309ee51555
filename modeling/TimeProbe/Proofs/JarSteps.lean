import TimeProbe.Proofs.ElementarySteps
import TimeProbe.Proofs.UnseenChanges

/-!
# What a call does to the jar

A key establishment neither reads nor changes the jar; it opens one stream, however it ends, and
where it succeeds the material has at least one cookie. The jar changes only by key establishments
and by the sessions that are taken from it. Each call is determined by how the key establishments
end that it makes: it makes one in advance where there is no jar yet, and one more where the jar is
low.
-/

namespace TimeProbe

/-- The world with another jar. -/
def World.withSource (w : World) (s : Option SessionSource) : World := { w with source := s }

/-- A negotiation that settles on an algorithm brought cookies. -/
theorem cookies_ne_nil_of_negotiate {proposed : List Int} {r : KeResponse}
    {aead : Aead.Algorithm} (h : negotiate proposed r = .ok aead) : r.cookies ≠ [] := by
  rintro hnone
  unfold negotiate at h
  rw [hnone] at h
  dsimp only at h
  repeat' split at h
  all_goals first
    | cases h; done
    | exact absurd rfl ‹¬ ([] : List Bytes).isEmpty = true›

namespace Run

open World

/-! ## Key establishments -/

/-- The jar has to do neither with time nor with streams. -/
theorem streamless_withSource (s : Option SessionSource) : Streamless (·.withSource s) :=
  ⟨fun _ _ _ _ _ _ _ => rfl, fun _ => rfl, fun _ => rfl, fun _ _ _ => rfl⟩

/-- With another jar a key establishment ends in the same way, and it leaves that jar. -/
theorem establishTarget_withSource (c : RunConfig) (w : World) (s : Option SessionSource) :
    establishTarget c (w.withSource s) =
      ((establishTarget c w).1, (establishTarget c w).2.withSource s) :=
  unaware_establishTarget (streamless_withSource s) c w

/-- A key establishment leaves the jar. -/
theorem source_establishTarget (c : RunConfig) : Leaves World.source (establishTarget c) :=
  fun w => congrArg (·.2.source) (establishTarget_withSource c w w.source)

/-- A key establishment leaves the settings. -/
theorem settings_establishTarget (c : RunConfig) : Leaves World.settings (establishTarget c) := by
  have hbuilt : Built (Elementary True) (establishTarget c) :=
    (built_establishTarget (fun _ _ => trivial) c).elementary
  exact leaves_settings hbuilt

/-- What is done on streams that are there opens none. -/
theorem closingLaw_length (n : Nat) :
    ClosingLaw (fun _ => True) fun w : World => w.streams.length = n where
  timeless _ _ _ _ _ _ _ hw := hw
  used w i s hw _ := by simpa [World.setStream] using hw
  marked w i _ _ hw := by simpa [World.setStream] using hw
  unsent _ _ _ _ _ := trivial
  broken _ _ _ _ _ := trivial
  refused _ _ _ _ _ _ _ := trivial
  own _ _ := trivial

/-- A key establishment opens one stream, also where no server answers. -/
theorem length_streams_establishTarget (c : RunConfig) (w : World) :
    (establishTarget c w).2.streams.length = w.streams.length + 1 := by
  have law := closingLaw_length (w.streams.length + 1)
  have hopen := law.ensures_openStream ⟨c.target, c.kePort⟩ c.caFile none
    (q := (·.streams.length = w.streams.length))
    (fun v hv => by rw [← hv]; exact List.length_append) fun _ _ _ _ _ _ => trivial
  have hestablish (i : Nat) := (built_establish_default (fun _ _ => trivial) i).keeps law.timeless
    fun _ _ h => law.keeps h
  exact ((hopen.bind fun i => (hestablish i).ensuring law.timeless (law.keeps_closeStream i))
    w rfl).1

/-- The material of a key establishment has cookies. -/
theorem cookies_ne_nil_of_establishTarget {c : RunConfig} {w w' : World} {m : KeyMaterial}
    (h : establishTarget c w = (.done m, w')) : m.cookies ≠ [] := by
  obtain ⟨i, w₁, -, h⟩ := exists_of_bind_done h
  obtain ⟨w₂, h, -⟩ := exists_of_ensuring_done h
  obtain ⟨response, w₃, -, h⟩ := exists_of_bind_done h
  obtain ⟨aead, w₄, hnegotiate, h⟩ := exists_of_bind_done h
  obtain ⟨keys, w₅, -, h⟩ := exists_of_bind_done h
  obtain ⟨host, w₆, -, h⟩ := exists_of_bind_done h
  obtain ⟨defaultPort, w₇, -, h⟩ := exists_of_bind_done h
  cases h
  exact cookies_ne_nil_of_negotiate (eq_ok_of_ofExcept hnegotiate).1

/-! ## Calls -/

variable {w : World} {s : SessionSource} {keys : KeyPair}

/-- A jar that is there is found, and the world stays as it is. -/
theorem source_eq (hs : w.source = some s) : source w = (.done s, w) := by
  rw [source, bind_done (show read (·.source) w = (.done w.source, w) from rfl), hs]
  rfl

/-- A key establishment in advance fills the jar, or else its failure is remembered unless it is
neither the prober's own nor the system's. -/
theorem bootstrap_eq (hs : w.source = some s) :
    bootstrap w = match establishTarget s.config w with
      | (.done m, w₁) => (.done (), w₁.withSource (some (s.install m)))
      | (.failed f, w₁) =>
        match SessionSource.remembered? f with
        | some cause => (.done (), w₁.withSource (some { s with error := some cause }))
        | none => (.failed f, w₁)
      | (.cutOff, w₁) => (.cutOff, w₁) := by
  rw [bootstrap, bind_done (source_eq hs)]
  rcases hestablish : establishTarget s.config w with ⟨ending, w₁⟩
  cases ending with
  | done m =>
    rw [bind_done (attempt_done hestablish)]
    rfl
  | failed f =>
    rw [bind_done (attempt_failed hestablish)]
    cases hremembered : SessionSource.remembered? f <;> simp only [hremembered] <;> rfl
  | cutOff => rw [bind_cutOff (attempt_cutOff hestablish)]

/-- A refill fills the jar if it names the same time server as before. -/
theorem refill_eq (hs : w.source = some s) :
    refill w = match establishTarget s.config w with
      | (.done m, w₁) =>
        if some m.address = s.address then (.done (), w₁.withSource (some (s.install m)))
        else (.failed (s.moved m.address), w₁)
      | (.failed f, w₁) => (.failed f, w₁)
      | (.cutOff, w₁) => (.cutOff, w₁) := by
  rw [refill, bind_done (source_eq hs)]
  rcases hestablish : establishTarget s.config w with ⟨ending, w₁⟩
  cases ending with
  | done m =>
    rw [bind_done hestablish, SessionSource.refilled]
    dsimp only
    split <;> rfl
  | failed f => rw [bind_failed hestablish]
  | cutOff => rw [bind_cutOff hestablish]

/-- A jar that is not low gives a session. -/
theorem takeInstalled_of_full {address : Address} (hs : w.source = some s)
    (hkeys : s.keys = some keys) (haddress : s.address = some address)
    (hfull : s.isLow w.settings.ntsSessionCookies = false) (other : KeyPair) :
    takeInstalled other w =
      (.done (s.handOut w.settings.ntsSessionCookies keys address).1,
        w.withSource (some (s.handOut w.settings.ntsSessionCookies keys address).2)) := by
  rw [takeInstalled, bind_done (show read _ w = (.done w.settings.ntsSessionCookies, w) from rfl),
    bind_done (source_eq hs), hfull]
  dsimp only
  rw [if_neg Bool.false_ne_true, bind_done (source_eq hs), haddress]
  rw [hkeys]
  rfl

/-- A jar that is low gives a session if it can be refilled. -/
theorem takeInstalled_of_low (hs : w.source = some s)
    (hlow : s.isLow w.settings.ntsSessionCookies = true) (other : KeyPair) :
    takeInstalled other w = match establishTarget s.config w with
      | (.done m, w₁) =>
        if some m.address = s.address then
          (.done ((s.install m).handOut w.settings.ntsSessionCookies m.keys m.address).1,
            w₁.withSource
              (some ((s.install m).handOut w.settings.ntsSessionCookies m.keys m.address).2))
        else (.failed (s.moved m.address), w₁)
      | (.failed f, w₁) => (.failed f, w₁)
      | (.cutOff, w₁) => (.cutOff, w₁) := by
  have hrefill := refill_eq hs
  rw [takeInstalled, bind_done (show read _ w = (.done w.settings.ntsSessionCookies, w) from rfl),
    bind_done (source_eq hs), hlow]
  dsimp only
  rw [if_pos rfl]
  rcases hestablish : establishTarget s.config w with ⟨ending, w₁⟩
  rw [hestablish] at hrefill
  cases ending with
  | done m =>
    dsimp only at hrefill ⊢
    by_cases hsame : some m.address = s.address
    · rw [if_pos hsame] at hrefill
      rw [if_pos hsame, bind_done hrefill, bind_done (source_eq rfl)]
      rfl
    · rw [if_neg hsame] at hrefill
      rw [if_neg hsame, bind_failed hrefill]
  | failed f => rw [bind_failed hrefill]
  | cutOff => rw [bind_cutOff hrefill]

/-- A failure that is remembered is reported, and nothing else happens. -/
theorem takeSession_of_error {cause : Fault} (hs : w.source = some s)
    (herror : s.error = some cause) : takeSession w = (.failed (s.refusal cause), w) := by
  rw [takeSession, bind_done (source_eq hs), herror]
  rfl

/-- A jar that was filled before is used. -/
theorem takeSession_of_keys (hs : w.source = some s) (herror : s.error = none)
    (hkeys : s.keys = some keys) : takeSession w = takeInstalled keys w := by
  rw [takeSession, bind_done (source_eq hs), herror, hkeys]

/-- A jar that was never filled is filled first. -/
theorem takeSession_of_empty (hs : w.source = some s) (herror : s.error = none)
    (hkeys : s.keys = none) :
    takeSession w = match establishTarget s.config w with
      | (.done m, w₁) => takeInstalled m.keys (w₁.withSource (some (s.install m)))
      | (.failed f, w₁) =>
        match SessionSource.remembered? f with
        | some cause => (.failed (s.refusal cause),
            w₁.withSource (some { s with error := some cause }))
        | none => (.failed f, w₁)
      | (.cutOff, w₁) => (.cutOff, w₁) := by
  obtain ⟨config, _, jar, address, _⟩ := s
  dsimp only at herror hkeys
  subst herror hkeys
  have hbootstrap := bootstrap_eq hs
  rw [takeSession, bind_done (source_eq hs)]
  dsimp only at hbootstrap ⊢
  rcases hestablish : establishTarget config w with ⟨ending, w₁⟩
  rw [hestablish] at hbootstrap
  cases ending with
  | done m =>
    rw [bind_done hbootstrap, bind_done (source_eq rfl)]
    rfl
  | failed f =>
    dsimp only at hbootstrap ⊢
    cases hremembered : SessionSource.remembered? f with
    | some cause =>
      rw [hremembered] at hbootstrap
      rw [bind_done hbootstrap, bind_done (source_eq rfl)]
      rfl
    | none =>
      rw [hremembered] at hbootstrap
      rw [bind_failed hbootstrap]
  | cutOff => rw [bind_cutOff hbootstrap]

end Run

end TimeProbe

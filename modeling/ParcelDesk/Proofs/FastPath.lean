import ParcelDesk.Proofs.Logins
import ParcelDesk.Proofs.Revocation

/-!
The cache as a fast path. The gate takes a token from the cache or from the token store, and the two
ways have a test of expiry each: a signature holds through the second in which it expires, a row
only up to it. While the cache mirrors the store, they agree at all other times.
-/

namespace ParcelDesk.Desk

open World

/-- The world in which the texts of the cache are gone, so that the token store has to decide. -/
def World.storeOnly (w : World) : World := { w with cache := { w.cache with texts := [] } }

def World.atTime (now : Instant) (w : World) : World := { w with clock := now }

theorem alike_atTime (now : Instant) (w : World) : w.Alike (w.atTime now) :=
  ⟨rfl, rfl, Nat.le_refl _, rfl, Nat.le_refl _⟩

theorem storeOnly_authenticate_iff (w : World) (r : SessionRules) (token : String) (c : Claims) :
    w.storeOnly.answer (authenticate r token) = .ok c ↔
      Jwt.verify r.token.secret w.clock token = .ok c ∧ w.tokens.isDown = false ∧
        w.Live token c.userId := by
  have hnone : ¬ w.storeOnly.Mirrors token c.userId := by
    intro h
    obtain ⟨e, he, -⟩ := Cache.Memory.text?_eq_some h.owner
    cases he
  rw [authenticate_iff]
  constructor
  · rintro ⟨hverify, hmirror | hstored⟩
    · exact absurd hmirror hnone
    · exact ⟨hverify, hstored⟩
  · rintro ⟨hverify, hstored⟩
    exact ⟨hverify, .inr hstored⟩

/-- Within the calendar a row expires with the second in which its claims expire. -/
theorem isExpired_iff {secret : String} {c : Claims} {t : StoredToken} (h : t.Signs secret c)
    (hvalid : 0 ≤ c.expiresAt) (hcalendar : c.expiresAt ≤ Instant.latest) (now : Instant) :
    t.isExpired now = true ↔ c.expiresAt ≤ now.seconds := by
  have hexpiry : t.expiresAt = ⟨c.expiresAt, 0⟩ := by
    have hreached : (Instant.earliest ≤ c.expiresAt && c.expiresAt ≤ Instant.latest) = true := by
      have hearliest : Instant.earliest ≤ 0 := by decide
      simp only [Bool.and_eq_true, decide_eq_true_eq]
      exact ⟨Int.le_trans hearliest hvalid, hcalendar⟩
    rw [h.expiresAt, Claims.expiry, Instant.ofSeconds?, if_pos hreached]
    rfl
  rw [StoredToken.isExpired, hexpiry]
  simp only [Instant.le, Nat.zero_le, decide_true, Bool.and_true, Bool.or_eq_true,
    decide_eq_true_eq]
  omega

/-- In a world whose rows are the desk's own and mirrored faithfully, a token that is taken has a
row that is not revoked. -/
theorem row_of_accepted {r : SessionRules} {w : World} (hmirrored : w.Mirrored) {token : String}
    {c : Claims} (h : w.answer (authenticate r token) = .ok c) :
    ∃ t ∈ w.tokens.rows, t.kind = .access ∧ t.userId = c.userId ∧ t.token = token ∧
      t.isRevoked = false := by
  obtain ⟨-, hmirror | ⟨-, t, ht, hkind, howner, htoken, hactive⟩⟩ :=
    (authenticate_iff w r token c).mp h
  · obtain ⟨e, he, -, hvalue⟩ := Cache.Memory.text?_eq_some hmirror.owner
    obtain ⟨t, ht, hkind, htoken, hopen, howner⟩ := hmirrored token e he
    exact ⟨t, ht, hkind, ownerText_injective (howner.symm.trans hvalue), htoken, hopen⟩
  · simp only [StoredToken.isActive, Bool.and_eq_true, Bool.not_eq_true'] at hactive
    exact ⟨t, ht, hkind, howner, htoken, hactive.1⟩

/-- The store alone takes exactly those tokens that the gate takes before the second in which they
expire. -/
theorem storeOnly_iff_of_mirrored {r : SessionRules} {w : World}
    (hminted : w.Minted r.token.secret) (hmirrored : w.Mirrored)
    (hup : w.tokens.isDown = false) {token : String} {c : Claims}
    (hcalendar : c.expiresAt ≤ Instant.latest) :
    w.storeOnly.answer (authenticate r token) = .ok c ↔
      w.answer (authenticate r token) = .ok c ∧ w.clock.seconds < c.expiresAt := by
  rw [storeOnly_authenticate_iff]
  constructor
  · rintro ⟨hverify, -, hlive⟩
    refine ⟨(authenticate_iff w r token c).mpr ⟨hverify, .inr ⟨hup, hlive⟩⟩, ?_⟩
    obtain ⟨t, ht, -, -, rfl, hactive⟩ := hlive
    obtain ⟨hsigns, hvalid, -⟩ := hminted.verified ht hverify
    have hexpiry := isExpired_iff hsigns hvalid hcalendar w.clock
    simp only [StoredToken.isActive, Bool.and_eq_true, Bool.not_eq_true'] at hactive
    rw [hactive.2] at hexpiry
    by_contra hlate
    exact absurd (hexpiry.mpr (by omega)) (by decide)
  · rintro ⟨haccepted, hearly⟩
    have hverify := ((authenticate_iff w r token c).mp haccepted).1
    obtain ⟨t, ht, hkind, howner, rfl, hopen⟩ := row_of_accepted hmirrored haccepted
    obtain ⟨hsigns, hvalid, -⟩ := hminted.verified ht hverify
    have hunexpired : t.isExpired w.clock = false := by
      rw [← Bool.not_eq_true, isExpired_iff hsigns hvalid hcalendar]
      omega
    refine ⟨hverify, hup, t, ht, hkind, howner, rfl, ?_⟩
    simp [StoredToken.isActive, hopen, hunexpired]

/-- As long as the cache can be reached whenever sessions end, and with the token store in reach,
the gate answers at any time and for any token as if the cache had no texts, but for one second:
the token is taken from the cache through the second in which it expires, and from the store only
before it. The calendar reaches the time of expiry whenever the lifetime could be added to the
clock. -/
theorem fast_path_iff (s : Setup) {w : World} (hw : w.IsFresh) {es : List Event}
    (hup : s.Throughout (fun v e => e.endsSessions = true → v.cache.isDown = false) w es)
    (htokens : (s.run w es).tokens.isDown = false) (now : Instant) (token : String) {c : Claims}
    (hcalendar : c.expiresAt ≤ Instant.latest) :
    (((s.run w es).atTime now).storeOnly.answer (authenticate s.sessions token) = .ok c ↔
      ((s.run w es).atTime now).answer (authenticate s.sessions token) = .ok c ∧
        now.seconds < c.expiresAt) ∧
    (((s.run w es).atTime now).answer (authenticate s.sessions token) = .ok c →
      now.seconds ≤ c.expiresAt) := by
  have hminted := (minted_keeps s).alike (alike_atTime now _) (minted_run s hw es)
  have hmirrored := (mirrored_keeps s).alike (alike_atTime now _)
    ((mirrored_keeps s).run hup (by simp [World.Mirrored, hw.texts]))
  refine ⟨storeOnly_iff_of_mirrored hminted hmirrored htokens hcalendar, fun haccepted => ?_⟩
  have hverify := ((authenticate_iff _ _ token c).mp haccepted).1
  obtain ⟨t, ht, -, -, rfl, -⟩ := row_of_accepted hmirrored haccepted
  exact (hminted.verified ht hverify).2.2

def momentary : Setup := { sessions := { token := { accessLifetime := 0 } } }

/-- Such a token is taken from the cache and refused by the store. -/
theorem karims_momentary_token :
    karimsDesk.IsFresh ∧
    momentary.Throughout (fun v e => e.endsSessions = true → v.cache.isDown = false) karimsDesk
      [.login true karimsForm] ∧
    (momentary.run karimsDesk [.login true karimsForm]).tokens.isDown = false ∧
    (karimsDesk.pair momentary.sessions.token karim.id).access.claims.expiresAt ≤
      Instant.latest ∧
    ((momentary.run karimsDesk [.login true karimsForm]).atTime karimsDesk.clock).answer
      (authenticate momentary.sessions
        (karimsDesk.pair momentary.sessions.token karim.id).access.text) =
        .ok (karimsDesk.pair momentary.sessions.token karim.id).access.claims ∧
    ((momentary.run karimsDesk [.login true karimsForm]).atTime
      karimsDesk.clock).storeOnly.answer (authenticate momentary.sessions
        (karimsDesk.pair momentary.sessions.token karim.id).access.text) ≠
        .ok (karimsDesk.pair momentary.sessions.token karim.id).access.claims := by
  have hup : momentary.Throughout (fun v e => e.endsSessions = true → v.cache.isDown = false)
      karimsDesk [.login true karimsForm] :=
    Setup.throughout_cons.mpr ⟨fun _ => rfl, Setup.throughout_nil _ _⟩
  have htokens := (inReach_karimsLogin momentary).2
  have hcalendar : (karimsDesk.pair momentary.sessions.token karim.id).access.claims.expiresAt ≤
      Instant.latest := by decide
  have hmirror := mirrors_signedIn (w := karimsDesk.signedOut karim.id) rfl
    (r := momentary.sessions) (by decide) karim.id
  rw [pair_signedOut] at hmirror
  have haccepted : ((momentary.run karimsDesk [.login true karimsForm]).atTime
      karimsDesk.clock).answer (authenticate momentary.sessions
        (karimsDesk.pair momentary.sessions.token karim.id).access.text) =
        .ok (karimsDesk.pair momentary.sessions.token karim.id).access.claims := by
    rw [run_karimsLogin, authenticate_iff]
    refine ⟨verify_pair (w := karimsDesk) (fits_karim (by decide) (by decide)) (by decide)
      (by decide), .inl ⟨hmirror.inReach, hmirror.owner⟩⟩
  refine ⟨isFresh_karimsDesk, hup, htokens, hcalendar, haccepted, fun hstored => ?_⟩
  have hearly := ((fast_path_iff momentary isFresh_karimsDesk hup htokens karimsDesk.clock _
    hcalendar).1.mp hstored).2
  exact absurd hearly (by decide)

end ParcelDesk.Desk

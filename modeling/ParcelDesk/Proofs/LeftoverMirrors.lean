import ParcelDesk.Proofs.Logins
import ParcelDesk.Proofs.Revocation

/-!
Mirrors that are left over. A logout takes out of the cache what it has just revoked itself. What an
earlier logout revoked while the cache was out of reach keeps its mirror, and a later logout does
not look for it: until the mirror expires, the gate takes the token. These are all the tokens that
outlast a logout with everything in reach.
-/

namespace ParcelDesk.Desk

open World

/-- A sign-out passes over the key of a token of its user exactly if every row for the token has
been revoked already. -/
theorem notMem_signOutKeys_iff {secret : String} {w : World} (hminted : w.Minted secret)
    {userId : Int} {token : String} (hrow : w.HasRow .access userId token) :
    Cache.tokenKey .access token ∉ w.signOutKeys userId ↔
      ∀ t ∈ w.tokens.rows, t.kind = .access → t.token = token → t.isRevoked = true := by
  constructor
  · intro hpassed t ht hkind htoken
    obtain ⟨own, hown, -, howner, hsame⟩ := hrow
    have huser := (hminted.owner ht hown (htoken.trans hsame.symm)).trans howner
    by_contra hopen
    have hmem := mem_signOutKeys ht huser (Bool.not_eq_true _ ▸ hopen)
    rw [hkind, htoken] at hmem
    exact hpassed hmem
  · intro hrevoked hmem
    rcases List.mem_cons.mp hmem with hsession | hkeys
    · exact Cache.sessionKey_ne_tokenKey userId .access token hsession.symm
    · obtain ⟨t, ht, hkey⟩ := List.mem_map.mp hkeys
      obtain ⟨hkind, htoken⟩ := Cache.tokenKey_inj hkey
      rw [List.mem_append, List.mem_filter, List.mem_filter, isOpen_iff, isOpen_iff] at ht
      rcases ht with ⟨hin, -, -, hopen⟩ | ⟨hin, -, -, hopen⟩ <;>
        simp [hrevoked t hin hkind htoken] at hopen

/-- With the cache in reach, a token outlasts a sign-out of its owner exactly if it had been revoked
before and is still mirrored. -/
theorem accepted_signedOut_iff {r : SessionRules} {w : World} (hminted : w.Minted r.token.secret)
    {userId : Int} {token : String} (hrow : w.HasRow .access userId token)
    (hup : w.cache.isDown = false) (c : Claims) :
    (w.signedOut userId).answer (authenticate r token) = .ok c ↔
      Jwt.verify r.token.secret w.clock token = .ok c ∧
        (∀ t ∈ w.tokens.rows, t.kind = .access → t.token = token → t.isRevoked = true) ∧
        w.cache.text? (Cache.tokenKey .access token) = some (ownerText userId) := by
  have hpassed := notMem_signOutKeys_iff hminted hrow
  have htext : (w.signedOut userId).cache.text? (Cache.tokenKey .access token) =
      if Cache.tokenKey .access token ∈ w.signOutKeys userId then none
      else w.cache.text? (Cache.tokenKey .access token) :=
    Cache.Memory.text?_deleteAll hup _ _
  have hnotLive : ¬ (w.signedOut userId).Live token c.userId := by
    rintro ⟨t, ht, -, -, htoken, hactive⟩
    have hrevoked := revoked_signedOut hminted hrow t ht htoken
    simp [StoredToken.isActive, hrevoked] at hactive
  have howner (hverify : Jwt.verify r.token.secret w.clock token = .ok c) : c.userId = userId := by
    obtain ⟨own, hown, -, howner, rfl⟩ := hrow
    rw [← (hminted.verified hown hverify).1.userId, howner]
  rw [authenticate_iff]
  constructor
  · rintro ⟨hverify, hmirror | ⟨-, hlive⟩⟩
    · have hmirrored := hmirror.owner
      rw [htext, howner hverify] at hmirrored
      split at hmirrored
      · cases hmirrored
      · rename_i hkept
        exact ⟨hverify, hpassed.mp hkept, hmirrored⟩
    · exact absurd hlive hnotLive
  · rintro ⟨hverify, hrevoked, hmirrored⟩
    refine ⟨hverify, .inl ⟨by rw [signedOut_cache_isDown, hup], ?_⟩⟩
    rw [htext, if_neg (hpassed.mpr hrevoked), hmirrored, howner hverify]

def missedEviction (f : LoginForm) (userId : Int) : List Event :=
  [.login true f, .cacheDown true, .logout userId, .cacheDown false]

section MissedEviction

variable {s : Setup} {w : World} {f : LoginForm} {u : User}

/-- Afterwards the rows are revoked, and the cache is as the login left it. -/
theorem run_missedEviction (htokens : w.tokens.isDown = false) (hcache : w.cache.isDown = false)
    (hwho : w.answer (identify f) = .ok u) :
    s.run w (missedEviction f u.id) =
      { ((w.signedOut u.id).signedIn s.sessions u.id).signedOut u.id with
        cache := ((w.signedOut u.id).signedIn s.sessions u.id).cache } := by
  have hlogin : w.after (login (s.rules true) f) =
      (w.signedOut u.id).signedIn s.sessions u.id := by
    rw [World.after, perform_login hwho htokens]
    rfl
  generalize hv : (w.signedOut u.id).signedIn s.sessions u.id = v at hlogin ⊢
  have hvTokens : v.tokens.isDown = false := by simp [← hv, htokens]
  have hvCache : v.cache.isDown = false := by simp [← hv, hcache]
  have hlogout : ({ v with cache := { v.cache with isDown := true } } : World).after
      (logout u.id) = { v.signedOut u.id with cache := { v.cache with isDown := true } } := by
    rw [World.after, perform_logout (by exact hvTokens), signedOut,
      Cache.Memory.deleteAll_of_isDown rfl]
    rfl
  simp only [missedEviction, Setup.run, List.foldl_cons, List.foldl_nil, Setup.step, hlogin,
    hlogout, ← hvCache]

theorem inReach_missedEviction (htokens : w.tokens.isDown = false)
    (hcache : w.cache.isDown = false) (hwho : w.answer (identify f) = .ok u) :
    (s.run w (missedEviction f u.id)).tokens.isDown = false ∧
      (s.run w (missedEviction f u.id)).cache.isDown = false := by
  rw [run_missedEviction htokens hcache hwho]
  constructor
  · simp [htokens]
  · simp [hcache]

theorem issued_missedEviction (htokens : w.tokens.isDown = false)
    (hwho : w.answer (identify f) = .ok u) :
    s.Issued w (missedEviction f u.id) .access u.id
      (w.pair s.sessions.token u.id).access.text :=
  ⟨[], _, _, rfl, handsOut_login htokens hwho true .access⟩

theorem revoked_missedEviction (hw : w.IsFresh) (htokens : w.tokens.isDown = false)
    (hcache : w.cache.isDown = false) (hwho : w.answer (identify f) = .ok u) :
    ∀ t ∈ (s.run w (missedEviction f u.id)).tokens.rows,
      t.token = (w.pair s.sessions.token u.id).access.text → t.isRevoked = true := by
  have hminted := minted_run s hw [.login true f]
  have hissued : s.Issued w [.login true f] .access u.id
      (w.pair s.sessions.token u.id).access.text :=
    ⟨[], _, _, rfl, handsOut_login htokens hwho true .access⟩
  have hrow := hasRow_of_issued hissued
  rw [run_login htokens hwho] at hminted hrow
  rw [run_missedEviction htokens hcache hwho]
  exact revoked_signedOut hminted hrow

theorem text?_missedEviction (htokens : w.tokens.isDown = false)
    (hcache : w.cache.isDown = false) (hwho : w.answer (identify f) = .ok u)
    (hlifetime : 0 < s.sessions.cacheLifetime) :
    (s.run w (missedEviction f u.id)).cache.text?
      (Cache.tokenKey .access (w.pair s.sessions.token u.id).access.text) =
        some (ownerText u.id) := by
  have hmirror := mirrors_signedIn (w := w.signedOut u.id) (by simp [hcache]) hlifetime u.id
  rw [pair_signedOut] at hmirror
  have hsame : (s.run w (missedEviction f u.id)).cache =
      ((w.signedOut u.id).signedIn s.sessions u.id).cache := by
    rw [run_missedEviction htokens hcache hwho]
  rw [hsame]
  exact hmirror.owner

/-- The token of the session opens the gate even after another logout with everything in reach. -/
theorem accepted_missedEviction (hw : w.IsFresh) (htokens : w.tokens.isDown = false)
    (hcache : w.cache.isDown = false) (hwho : w.answer (identify f) = .ok u)
    (hlifetime : 0 < s.sessions.cacheLifetime) (haccess : 0 ≤ s.sessions.token.accessLifetime)
    (hpast : 0 ≤ w.clock.seconds)
    (hfits : (w.pair s.sessions.token u.id).access.claims.Fits) :
    ((s.run w (missedEviction f u.id)).after (logout u.id)).answer
        (authenticate s.sessions (w.pair s.sessions.token u.id).access.text) =
      .ok (w.pair s.sessions.token u.id).access.claims := by
  have hclock : (s.run w (missedEviction f u.id)).clock = w.clock := by
    rw [run_missedEviction htokens hcache hwho]
    rfl
  obtain ⟨hup, hreach⟩ := inReach_missedEviction (s := s) htokens hcache hwho
  have hrow := hasRow_of_issued (issued_missedEviction (s := s) htokens hwho)
  rw [World.after, perform_logout hup]
  refine (accepted_signedOut_iff (minted_run s hw _) hrow hreach _).mpr ⟨?_, ?_, ?_⟩
  · rw [hclock]
    exact verify_pair hfits hpast haccess
  · exact fun t ht _ => revoked_missedEviction hw htokens hcache hwho t ht
  · exact text?_missedEviction htokens hcache hwho hlifetime

end MissedEviction

/-- A logout with everything in reach does not make up for an eviction that was missed before. -/
theorem logout_leaves_missed_mirror : ¬ ∀ (s : Setup) (w : World) (es : List Event) (userId : Int)
    (token : String) (c : Claims), w.IsFresh → (s.run w es).cache.isDown = false →
      (s.run w es).tokens.isDown = false → (s.run w es).answer (logout userId) = .ok () →
        s.Issued w es .access userId token →
          ((s.run w es).after (logout userId)).answer (authenticate s.sessions token) ≠
            .ok c := by
  intro hclaim
  obtain ⟨hup, hreach⟩ := inReach_missedEviction (s := {}) (w := karimsDesk) rfl rfl
    identify_karim
  have hlogout : (({} : Setup).run karimsDesk (missedEviction karimsForm karim.id)).answer
      (logout karim.id) = .ok () := by rw [World.answer, perform_logout hup]
  have hissued := issued_missedEviction (s := {}) (w := karimsDesk) rfl identify_karim
  have hfits := fits_karim (t := {}) (by decide) (by decide)
  have haccepted := accepted_missedEviction (s := {}) isFresh_karimsDesk rfl rfl identify_karim
    (by decide) (by decide) (by decide) hfits
  exact hclaim {} karimsDesk _ karim.id _ _ isFresh_karimsDesk hreach hup hlogout hissued
    haccepted

/-- After a logout with everything in reach, an access token that was issued to the user is taken
exactly if it had been revoked before already, and its mirror has neither been taken out nor expired
since. No token that could still be revoked outlasts the logout. -/
theorem outlasts_logout_iff (s : Setup) {w : World} (hw : w.IsFresh) {es : List Event}
    {userId : Int} (hcache : (s.run w es).cache.isDown = false)
    (hlogout : (s.run w es).answer (logout userId) = .ok ()) {token : String}
    (hissued : s.Issued w es .access userId token) (c : Claims) :
    ((s.run w es).after (logout userId)).answer (authenticate s.sessions token) = .ok c ↔
      Jwt.verify s.sessions.token.secret (s.run w es).clock token = .ok c ∧
        (∀ t ∈ (s.run w es).tokens.rows, t.kind = .access → t.token = token →
          t.isRevoked = true) ∧
        (s.run w es).cache.text? (Cache.tokenKey .access token) = some (ownerText userId) := by
  rw [(of_answer_logout hlogout).2]
  exact accepted_signedOut_iff (minted_run s hw es) (hasRow_of_issued hissued) hcache c

/-- Right after a login a logout takes the mirror out, and the token is refused. -/
theorem karims_token_does_not_outlast :
    karimsDesk.IsFresh ∧
    (({} : Setup).run karimsDesk [.login true karimsForm]).cache.isDown = false ∧
    (({} : Setup).run karimsDesk [.login true karimsForm]).answer (logout karim.id) = .ok () ∧
    ({} : Setup).Issued karimsDesk [.login true karimsForm] .access karim.id
      (karimsDesk.pair {} karim.id).access.text ∧
    ((({} : Setup).run karimsDesk [.login true karimsForm]).after (logout karim.id)).answer
      (authenticate {} (karimsDesk.pair {} karim.id).access.text) ≠
        .ok (karimsDesk.pair {} karim.id).access.claims := by
  obtain ⟨hreach, hup⟩ := inReach_karimsLogin {}
  have hlogout : (({} : Setup).run karimsDesk [.login true karimsForm]).answer
      (logout karim.id) = .ok () := by rw [World.answer, perform_logout hup]
  have hissued := issued_karim {} []
  refine ⟨isFresh_karimsDesk, hreach, hlogout, hissued, fun haccepted => ?_⟩
  have hrevoked := ((outlasts_logout_iff {} isFresh_karimsDesk hreach hlogout hissued _).mp
    haccepted).2.1
  rw [run_karimsLogin, rows_signedIn (w := karimsDesk.signedOut karim.id) rfl, pair_signedOut]
    at hrevoked
  exact Bool.false_ne_true
    (hrevoked _ (List.mem_append_right _ List.mem_cons_self) rfl rfl)

end ParcelDesk.Desk

import ParcelDesk.Proofs.Logins

/-!
What the gate decides. Whatever the cache and the token store hold, and whether they can be reached
or not, a token is passed for exactly two reasons and refused for exactly three. A signature that
does not hold is never made up for, and an outage never looks like a bad token. Of the whole world
only the one text that names the owner of the token can change, and it does so when the token store
has vouched for the token.
-/

namespace ParcelDesk.Desk

open World

namespace World

inductive TurnsAway (r : SessionRules) (token : String) (w : World) : Failure → Prop
  | unverified {flaw : TokenFlaw}
      (hflaw : Jwt.verify r.token.secret w.clock token = .error flaw) :
      w.TurnsAway r token (.token flaw)
  | unreachable {c : Claims} (hverify : Jwt.verify r.token.secret w.clock token = .ok c)
      (hmirror : ¬ w.Mirrors token c.userId) (hdown : w.tokens.isDown = true) :
      w.TurnsAway r token (.persistence "token store unavailable")
  | notLive {c : Claims} (hverify : Jwt.verify r.token.secret w.clock token = .ok c)
      (hmirror : ¬ w.Mirrors token c.userId) (hup : w.tokens.isDown = false)
      (hlive : ¬ w.Live token c.userId) : w.TurnsAway r token (.token .revoked)

/-- The token store vouches for a token that the cache does not name the owner of. -/
structure Vouches (r : SessionRules) (token : String) (c : Claims) (w : World) : Prop where
  verified : Jwt.verify r.token.secret w.clock token = .ok c
  unmirrored : ¬ w.Mirrors token c.userId
  inReach : w.tokens.isDown = false
  live : w.Live token c.userId

inductive Judges (r : SessionRules) (token : String) (w : World) :
    Except Failure Claims × World → Prop
  | refused {f : Failure} (haway : w.TurnsAway r token f) : w.Judges r token (.error f, w)
  | mirrored {c : Claims} (hverify : Jwt.verify r.token.secret w.clock token = .ok c)
      (hmirror : w.Mirrors token c.userId) : w.Judges r token (.ok c, w)
  | stored {c : Claims} (hvouch : w.Vouches r token c) :
      w.Judges r token (.ok c, w.remembered r .access token c.userId)

end World

variable {r : SessionRules} {token : String} {w : World} {c : Claims} {f : Failure}

/-- With the token store in reach, nothing is found exactly if the token is not live. -/
theorem findActive_eq_none_iff (hup : w.tokens.isDown = false) (token : String) (userId : Int) :
    w.tokens.findActive w.clock .access userId token = .ok none ↔ ¬ w.Live token userId := by
  rw [← findActive_iff hup]
  unfold TokenStore.findActive
  rw [if_neg (by simp [hup])]
  generalize w.tokens.rows.find? _ = found
  cases found <;> simp

/-- The cases follow the gate: the signature first, then the cache, and the token store last. -/
theorem judges_authenticate (r : SessionRules) (token : String) (w : World) :
    w.Judges r token (w.perform (authenticate r token)) := by
  cases hverify : Jwt.verify r.token.secret w.clock token with
  | error flaw =>
    rw [perform_authenticate_flaw hverify]
    exact .refused (.unverified hverify)
  | ok c =>
    by_cases hmirror : w.Mirrors token c.userId
    · rw [perform_authenticate_mirrored hverify hmirror]
      exact .mirrored hverify hmirror
    · rw [perform_authenticate_stored hverify hmirror]
      cases hdown : w.tokens.isDown with
      | true =>
        have hfails : w.tokens.findActive w.clock .access c.userId token =
            .error TokenStore.outage := if_pos hdown
        rw [hfails]
        exact .refused (.unreachable hverify hmirror hdown)
      | false =>
        by_cases hlive : w.Live token c.userId
        · obtain ⟨t, hfound⟩ := (findActive_iff hdown token c.userId).mpr hlive
          rw [hfound]
          exact .stored ⟨hverify, hmirror, hdown, hlive⟩
        · rw [(findActive_eq_none_iff hdown token c.userId).mpr hlive]
          exact .refused (.notLive hverify hmirror hdown hlive)

/-- A token has one claims, so the reasons to refuse it exclude the reasons to pass it. -/
theorem World.TurnsAway.not_accepted (h : w.TurnsAway r token f) (c : Claims) :
    w.answer (authenticate r token) ≠ .ok c := by
  intro haccepted
  obtain ⟨hclaims, hreason⟩ := (authenticate_iff w r token c).mp haccepted
  cases h with
  | unverified hflaw =>
    rw [hflaw] at hclaims
    cases hclaims
  | unreachable hverify hmirror hdown =>
    obtain rfl := Except.ok.inj (hverify.symm.trans hclaims)
    rcases hreason with hmirrored | ⟨hup, -⟩
    · exact hmirror hmirrored
    · rw [hdown] at hup
      cases hup
  | notLive hverify hmirror hup hlive =>
    obtain rfl := Except.ok.inj (hverify.symm.trans hclaims)
    rcases hreason with hmirrored | ⟨-, hlives⟩
    · exact hmirror hmirrored
    · exact hlive hlives

/-- There is one reason at a time to refuse a token. -/
theorem World.TurnsAway.unique {g : Failure} (h : w.TurnsAway r token f)
    (hother : w.TurnsAway r token g) : f = g := by
  cases h with
  | unverified hflaw =>
    cases hother with
    | unverified hsame =>
      obtain rfl := Except.error.inj (hflaw.symm.trans hsame)
      rfl
    | unreachable hverify | notLive hverify => cases hflaw.symm.trans hverify
  | unreachable hverify _ hdown =>
    cases hother with
    | unverified hflaw => cases hflaw.symm.trans hverify
    | unreachable => rfl
    | notLive _ _ hup => cases hdown.symm.trans hup
  | notLive hverify _ hup =>
    cases hother with
    | unverified hflaw => cases hflaw.symm.trans hverify
    | unreachable _ _ hdown => cases hdown.symm.trans hup
    | notLive => rfl

theorem turnsAway_of_error (h : w.answer (authenticate r token) = .error f) :
    w.TurnsAway r token f := by
  have hjudges := judges_authenticate r token w
  unfold World.answer at h
  generalize w.perform (authenticate r token) = verdict at hjudges h
  cases hjudges with
  | refused haway =>
    obtain rfl := Except.error.inj h
    exact haway
  | mirrored => cases h
  | stored => cases h

/-- The gate refuses a token for one of the reasons, and each of them is enough. -/
theorem authenticate_eq_error_iff (w : World) (r : SessionRules) (token : String) (f : Failure) :
    w.answer (authenticate r token) = .error f ↔ w.TurnsAway r token f := by
  refine ⟨turnsAway_of_error, fun haway => ?_⟩
  cases hanswer : w.answer (authenticate r token) with
  | ok c => exact absurd hanswer (haway.not_accepted c)
  | error g => rw [haway.unique (turnsAway_of_error hanswer)]

/-- A token that the token store vouches for is the only one that the cache is told about. -/
theorem after_authenticate_of_vouches (h : w.Vouches r token c) :
    w.after (authenticate r token) = w.remembered r .access token c.userId := by
  obtain ⟨t, hfound⟩ := (findActive_iff h.inReach token c.userId).mpr h.live
  rw [World.after, perform_authenticate_stored h.verified h.unmirrored, hfound]

theorem after_authenticate_of_not_vouches (h : ∀ c, ¬ w.Vouches r token c) :
    w.after (authenticate r token) = w := by
  have hjudges := judges_authenticate r token w
  unfold World.after
  generalize w.perform (authenticate r token) = verdict at hjudges
  cases hjudges with
  | refused => rfl
  | mirrored => rfl
  | stored hvouch => exact absurd hvouch (h _)

/-- Out of reach, the cache is told nothing. -/
theorem remembered_of_isDown (hdown : w.cache.isDown = true) (kind : TokenKind) (userId : Int) :
    w.remembered r kind token userId = w := by
  have hstays : (w.cache.set (Cache.tokenKey kind token) (ownerText userId) r.cacheLifetime).2 =
      w.cache := by
    rw [Cache.Memory.set, Cache.Memory.change_of_isDown hdown]
  rw [World.remembered, hstays]

/-- For every world and every token: the gate answers claims exactly if the token is verified for
them and the cache, within reach, names their user as the owner, or the token store, within reach,
has a row for token and user that still counts. It refuses a token for a flaw in it, because the
token store has to decide and is out of reach, or because it has been revoked, in this order. If the
token store has vouched for the token and the cache is within reach, the owner is written under the
key of the token, to expire after the lifetime. In all other cases nothing changes. -/
theorem gate_decides (w : World) (r : SessionRules) (token : String) :
    (∀ c, w.answer (authenticate r token) = .ok c ↔
      Jwt.verify r.token.secret w.clock token = .ok c ∧
        (w.Mirrors token c.userId ∨ w.tokens.isDown = false ∧ w.Live token c.userId)) ∧
    (∀ f, w.answer (authenticate r token) = .error f ↔ w.TurnsAway r token f) ∧
    (∀ c, w.Vouches r token c → w.cache.isDown = false →
      w.after (authenticate r token) = { w with
        cache := { w.cache with
          texts := w.cache.texts.put (Cache.tokenKey .access token)
            ⟨ownerText c.userId, w.cache.clock + r.cacheLifetime * 1000⟩ } }) ∧
    ((∀ c, w.Vouches r token c → w.cache.isDown = true) →
      w.after (authenticate r token) = w) := by
  refine ⟨authenticate_iff w r token, authenticate_eq_error_iff w r token, ?_, ?_⟩
  · intro c hvouch hup
    rw [after_authenticate_of_vouches hvouch, World.remembered, Cache.Memory.set,
      Cache.Memory.change_of_isUp hup]
  · intro hdown
    by_cases hvouch : ∃ c, w.Vouches r token c
    · obtain ⟨c, hvouch⟩ := hvouch
      rw [after_authenticate_of_vouches hvouch, remembered_of_isDown (hdown c hvouch)]
    · exact after_authenticate_of_not_vouches fun c hc => hvouch ⟨c, hc⟩

def karimsDeskWith (cache : Cache.Memory) : World := { karimsSession {} with cache }

/-- A cache without texts names nobody. -/
theorem not_mirrors_of_texts (h : w.cache.texts = []) (token : String) (userId : Int) :
    ¬ w.Mirrors token userId := by
  rintro ⟨-, howner⟩
  rw [Cache.Memory.text?, h] at howner
  cases howner

theorem vouches_karimsToken (isDown : Bool) :
    (karimsDeskWith { isDown }).Vouches {} karimsToken.text karimsToken.claims where
  verified := verify_karimsToken
  unmirrored := not_mirrors_of_texts rfl _ _
  inReach := rfl
  live := live_karimsToken

theorem not_live_signedOut : ¬ ((karimsDeskWith {}).signedOut karim.id).Live karimsToken.text
    karimsToken.claims.userId := by
  rintro ⟨t, ht, -, howner, -, hactive⟩
  obtain ⟨t, -, rfl⟩ := List.mem_map.mp ht
  have howns : t.userId = karim.id := by rwa [revokedFor_userId] at howner
  rw [StoredToken.isActive, isRevoked_revokedFor (.inl howns)] at hactive
  cases hactive

/-- With a blank cache the token is passed and remembered, or only passed if the cache is out of
reach. It is refused while the token store is out of reach, and after a logout; and a text that is
no token is malformed. -/
theorem gate_decides_for_karim :
    (karimsDeskWith {}).Vouches {} karimsToken.text karimsToken.claims ∧
    (karimsDeskWith {}).answer (authenticate {} karimsToken.text) = .ok karimsToken.claims ∧
    (karimsDeskWith {}).after (authenticate {} karimsToken.text) = karimsDeskWith
      { texts := [(Cache.tokenKey .access karimsToken.text, ⟨"1", 600000⟩)] } ∧
    (karimsDeskWith { isDown := true }).answer (authenticate {} karimsToken.text) =
      .ok karimsToken.claims ∧
    (karimsDeskWith { isDown := true }).after (authenticate {} karimsToken.text) =
      karimsDeskWith { isDown := true } ∧
    World.answer { karimsDeskWith {} with tokens := { isDown := true } }
      (authenticate {} karimsToken.text) = .error (.persistence "token store unavailable") ∧
    ((karimsDeskWith {}).signedOut karim.id).answer (authenticate {} karimsToken.text) =
      .error (.token .revoked) ∧
    (karimsDeskWith {}).answer (authenticate {} "karim") = .error (.token .malformed) := by
  have hblank := vouches_karimsToken false
  obtain ⟨hpasses, -, hwrites, -⟩ := gate_decides (karimsDeskWith {}) {} karimsToken.text
  obtain ⟨hpassesDown, -, -, hkeeps⟩ :=
    gate_decides (karimsDeskWith { isDown := true }) {} karimsToken.text
  have hunreachable := (gate_decides { karimsDeskWith {} with tokens := { isDown := true } } {}
    karimsToken.text).2.1
  have hrevoked := (gate_decides ((karimsDeskWith {}).signedOut karim.id) {}
    karimsToken.text).2.1
  have hmalformed := (gate_decides (karimsDeskWith {}) {} "karim").2.1
  refine ⟨hblank, ?_, hwrites _ hblank rfl, ?_, hkeeps fun _ _ => rfl, ?_, ?_, ?_⟩
  · exact (hpasses _).mpr ⟨hblank.verified, .inr ⟨rfl, hblank.live⟩⟩
  · exact (hpassesDown _).mpr ⟨verify_karimsToken, .inr ⟨rfl, live_karimsToken⟩⟩
  · exact (hunreachable _).mpr (.unreachable verify_karimsToken (not_mirrors_of_texts rfl _ _) rfl)
  · exact (hrevoked _).mpr
      (.notLive verify_karimsToken (not_mirrors_of_texts rfl _ _) rfl not_live_signedOut)
  · exact (hmalformed _).mpr (.unverified rfl)

end ParcelDesk.Desk

import ParcelDesk.Desk.Sessions
import ParcelDesk.Proofs.Attempts
import ParcelDesk.Proofs.CacheEntries

/-!
What the calls of a session do to a world. Each call is described by its answer and the world that
it leaves: a login signs in or changes nothing but the drawn ids, a logout signs out, and the gate
changes at most what the cache remembers. Nothing that is said here depends on how the calls are
strung together.
-/

namespace ParcelDesk

def StoredToken.ofSigned (id : Int) (kind : TokenKind) (t : SignedToken) (userId : Int)
    (now : Instant) : StoredToken :=
  ⟨id, kind, t.text, userId, t.claims.expiry now, now, none⟩

@[simp]
theorem TokenStore.save_isDown (s : TokenStore) (t : StoredToken) :
    (s.save t).2.isDown = s.isDown := by
  unfold save
  split <;> rfl

namespace Desk

namespace World

variable {α β : Type}

def perform (w : World) (a : Work α) : Except Failure α × World := Attempt.run serve a w

def answer (w : World) (a : Work α) : Except Failure α := (w.perform a).1

def after (w : World) (a : Work α) : World := (w.perform a).2

@[simp]
theorem perform_of (w : World) (c : Call (Except Failure α)) :
    w.perform (Attempt.of c) = serve c w := rfl

@[simp]
theorem perform_ask (w : World) (c : Call α) :
    w.perform (ask c) = (.ok (serve c w).1, (serve c w).2) := rfl

@[simp]
theorem perform_ofExcept (w : World) (r : Except Failure α) :
    w.perform (Attempt.ofExcept r) = (r, w) := rfl

@[simp]
theorem perform_bestEffort (w : World) (c : Call (Except Cache.Outage Unit)) :
    w.perform (bestEffort c) = (.ok (), (serve c w).2) := by
  rw [perform, bestEffort, Attempt.run_ignore, Attempt.run_of]

theorem perform_bind (w : World) (a : Work α) (f : α → Work β) :
    w.perform (a >>= f) =
      match w.perform a with
      | (.ok x, v) => v.perform (f x)
      | (.error e, v) => (.error e, v) := by
  have h := Attempt.run_bind serve a f w
  unfold perform
  rw [h]
  cases Attempt.run serve a w with
  | mk r v => cases r <;> rfl

/-- What follows a call that answers is done in the world that the call leaves. -/
theorem perform_bind_ok {w v : World} {a : Work α} {x : α} (h : w.perform a = (.ok x, v))
    (f : α → Work β) : w.perform (a >>= f) = v.perform (f x) := by
  rw [perform_bind, h]

theorem perform_bind_error {w v : World} {a : Work α} {e : Failure}
    (h : w.perform a = (.error e, v)) (f : α → Work β) :
    w.perform (a >>= f) = (.error e, v) := by
  rw [perform_bind, h]

def drawn (n : Nat) (w : World) : World :=
  { w with chance := { w.chance with tokenIds := w.chance.tokenIds + n } }

def pair (t : TokenSettings) (userId : Int) (w : World) : TokenPair :=
  ⟨Jwt.issue t.secret userId t.accessLifetime w.clock (w.chance.tokenId w.chance.tokenIds),
    Jwt.issue t.secret userId t.refreshLifetime w.clock
      (w.chance.tokenId (w.chance.tokenIds + 1))⟩

def remembered (r : SessionRules) (kind : TokenKind) (token : String) (userId : Int)
    (w : World) : World :=
  { w with cache := (w.cache.set (Cache.tokenKey kind token) (ownerText userId)
      r.cacheLifetime).2 }

def kept (r : SessionRules) (kind : TokenKind) (t : SignedToken) (userId : Int)
    (w : World) : World :=
  remembered r kind t.text userId
    { w with tokens := (w.tokens.save (.ofSigned 0 kind t userId w.clock)).2 }

def signedIn (r : SessionRules) (userId : Int) (w : World) : World :=
  kept r .refresh (w.pair r.token userId).refresh userId
    (kept r .access (w.pair r.token userId).access userId (w.drawn 2))

def signOutKeys (userId : Int) (w : World) : List String :=
  Cache.sessionKey userId ::
    (w.tokens.rows.filter (TokenStore.isOpen .access userId) ++
      w.tokens.rows.filter (TokenStore.isOpen .refresh userId)).map
        fun t => Cache.tokenKey t.kind t.token

def revokedFor (userId : Int) (now : Instant) (t : StoredToken) : StoredToken :=
  if t.userId = userId ∧ t.isRevoked = false then { t with deletedAt := some now } else t

def signedOut (userId : Int) (w : World) : World :=
  { w with
    tokens := { w.tokens with rows := w.tokens.rows.map (revokedFor userId w.clock) }
    cache := w.cache.deleteAll (w.signOutKeys userId) }

section Frame

variable (r : SessionRules) (kind : TokenKind) (token : String) (userId : Int) (w : World)

@[simp]
theorem remembered_cache_clock :
    (w.remembered r kind token userId).cache.clock = w.cache.clock :=
  Cache.Memory.set_clock _ _ _ _

@[simp]
theorem remembered_cache_isDown :
    (w.remembered r kind token userId).cache.isDown = w.cache.isDown :=
  Cache.Memory.set_isDown _ _ _ _

@[simp]
theorem signedIn_cache_clock : (w.signedIn r userId).cache.clock = w.cache.clock := by
  simp [signedIn, kept, drawn]

@[simp]
theorem signedIn_cache_isDown : (w.signedIn r userId).cache.isDown = w.cache.isDown := by
  simp [signedIn, kept, drawn]

@[simp]
theorem signedIn_tokens_isDown : (w.signedIn r userId).tokens.isDown = w.tokens.isDown := by
  simp [signedIn, kept, remembered, drawn]

@[simp]
theorem signedOut_cache_clock : (w.signedOut userId).cache.clock = w.cache.clock :=
  Cache.Memory.deleteAll_clock _ _

@[simp]
theorem signedOut_cache_isDown : (w.signedOut userId).cache.isDown = w.cache.isDown :=
  Cache.Memory.deleteAll_isDown _ _

@[simp]
theorem signedOut_tokens_isDown : (w.signedOut userId).tokens.isDown = w.tokens.isDown := rfl

end Frame

end World

open World

theorem perform_forget (w : World) (keys : List String) :
    w.perform (forget keys) = (.ok (), { w with cache := w.cache.deleteAll keys }) := by
  induction keys generalizing w with
  | nil => rfl
  | cons key keys ih =>
    rw [forget, perform_bind_ok (perform_bestEffort w _), ih]
    rfl

theorem perform_issuePair (w : World) (t : TokenSettings) (userId : Int) :
    w.perform (issuePair t userId) = (.ok (w.pair t userId), w.drawn 2) := rfl

theorem perform_keep_down {w : World} (hdown : w.tokens.isDown = true) (r : SessionRules)
    (kind : TokenKind) (t : SignedToken) (userId : Int) :
    w.perform (keep r kind t userId) = (.error TokenStore.outage, w) := by
  have hsave : w.perform (Attempt.of (.saveToken (.ofSigned 0 kind t userId w.clock))) =
      (.error TokenStore.outage, w) := by
    rw [perform_of]
    simp only [serve, TokenStore.save, hdown, ↓reduceIte, withTokens]
  rw [keep, perform_bind_ok (perform_ask w .now)]
  exact perform_bind_error hsave _

theorem perform_keep {w : World} (hup : w.tokens.isDown = false) (r : SessionRules)
    (kind : TokenKind) (t : SignedToken) (userId : Int) :
    w.perform (keep r kind t userId) = (.ok (), w.kept r kind t userId) := by
  have hsave : w.perform (Attempt.of (.saveToken (.ofSigned 0 kind t userId w.clock))) =
      (.ok { StoredToken.ofSigned 0 kind t userId w.clock with id := w.tokens.lastId + 1 },
        { w with tokens := (w.tokens.save (.ofSigned 0 kind t userId w.clock)).2 }) := by
    rw [perform_of]
    simp only [serve, TokenStore.save, hup, Bool.false_eq_true, ↓reduceIte, withTokens]
  rw [keep, perform_bind_ok (perform_ask w .now)]
  refine (perform_bind_ok hsave _).trans ?_
  rw [perform_bestEffort]
  rfl

theorem perform_logout_down {w : World} (hdown : w.tokens.isDown = true) (userId : Int) :
    w.perform (logout userId) = (.error TokenStore.outage, w) := by
  have hrevoke : w.perform (Attempt.of (.revokeTokens .access userId)) =
      (.error TokenStore.outage, w) := by
    rw [perform_of]
    simp only [serve, TokenStore.revokeAll, hdown, ↓reduceIte, withTokens]
  rw [logout]
  exact perform_bind_error hrevoke _

theorem isOpen_iff (kind : TokenKind) (userId : Int) (t : StoredToken) :
    TokenStore.isOpen kind userId t = true ↔
      t.kind = kind ∧ t.userId = userId ∧ t.isRevoked = false := by
  simp [TokenStore.isOpen, and_assoc]

def revokedOf (kind : TokenKind) (userId : Int) (now : Instant) (t : StoredToken) : StoredToken :=
  if TokenStore.isOpen kind userId t then { t with deletedAt := some now } else t

theorem revokedOf_of_ne {kind : TokenKind} {t : StoredToken} (h : t.kind ≠ kind) (userId : Int)
    (now : Instant) : revokedOf kind userId now t = t :=
  if_neg fun hopen => h ((isOpen_iff kind userId t).mp hopen).1

theorem isOpen_revokedOf {kind other : TokenKind} (h : kind ≠ other) (userId : Int)
    (now : Instant) (t : StoredToken) :
    TokenStore.isOpen other userId (revokedOf kind userId now t) =
      TokenStore.isOpen other userId t := by
  unfold revokedOf
  split
  · rename_i hopen
    have hkind : t.kind ≠ other := ((isOpen_iff kind userId t).mp hopen).1 ▸ h
    simp [TokenStore.isOpen, hkind]
  · rfl

/-- Revoking tokens of one kind leaves those of the other as they are. -/
theorem filter_revokedOf {kind other : TokenKind} (h : kind ≠ other) (rows : List StoredToken)
    (userId : Int) (now : Instant) :
    (rows.map (revokedOf kind userId now)).filter (TokenStore.isOpen other userId) =
      rows.filter (TokenStore.isOpen other userId) := by
  induction rows with
  | nil => rfl
  | cons t rows ih =>
    rw [List.map_cons, List.filter_cons, List.filter_cons, isOpen_revokedOf h, ih]
    split
    · rename_i hopen
      have hkind : t.kind ≠ kind := ((isOpen_iff other userId t).mp hopen).1 ▸ h.symm
      rw [revokedOf_of_ne hkind]
    · rfl

theorem map_revokedOf_both (rows : List StoredToken) (userId : Int) (now : Instant) :
    (rows.map (revokedOf .access userId now)).map (revokedOf .refresh userId now) =
      rows.map (revokedFor userId now) := by
  rw [List.map_map]
  refine List.map_congr_left fun t _ => ?_
  rw [Function.comp_apply]
  by_cases hopen : t.userId = userId ∧ t.isRevoked = false
  · have hrevoked : revokedFor userId now t = { t with deletedAt := some now } := if_pos hopen
    have hown : revokedOf t.kind userId now t = { t with deletedAt := some now } :=
      if_pos ((isOpen_iff t.kind userId t).mpr ⟨rfl, hopen⟩)
    rw [hrevoked]
    cases hkind : t.kind with
    | access =>
      rw [hkind] at hown
      rw [hown, revokedOf_of_ne (by simp)]
    | refresh =>
      have haccess : revokedOf .access userId now t = t :=
        revokedOf_of_ne (by simp [hkind]) userId now
      rw [hkind] at hown
      rw [haccess, hown]
  · have hnot (kind : TokenKind) : ¬ TokenStore.isOpen kind userId t = true :=
      fun h => hopen ((isOpen_iff kind userId t).mp h).2
    have hstays (kind : TokenKind) : revokedOf kind userId now t = t := if_neg (hnot kind)
    rw [hstays, hstays, revokedFor, if_neg hopen]

theorem perform_revoke {w : World} (hup : w.tokens.isDown = false) (kind : TokenKind)
    (userId : Int) :
    w.perform (Attempt.of (.revokeTokens kind userId)) =
      (.ok (w.tokens.rows.filter (TokenStore.isOpen kind userId)),
        { w with tokens := { w.tokens with
          rows := w.tokens.rows.map (revokedOf kind userId w.clock) } }) := by
  rw [perform_of]
  simp only [serve, TokenStore.revokeAll, hup, Bool.false_eq_true, ↓reduceIte, withTokens]
  rfl

theorem perform_logout {w : World} (hup : w.tokens.isDown = false) (userId : Int) :
    w.perform (logout userId) = (.ok (), w.signedOut userId) := by
  rw [logout, perform_bind_ok (perform_revoke hup .access userId)]
  refine (perform_bind_ok (perform_revoke (by exact hup) .refresh userId) _).trans ?_
  rw [perform_forget, filter_revokedOf (by decide), map_revokedOf_both]
  rfl

/-- Finding out who logs in changes nothing. -/
theorem perform_identify (w : World) (f : LoginForm) :
    w.perform (identify f) = (w.answer (identify f), w) := by
  have hstays : (w.perform (identify f)).2 = w := by
    unfold identify
    dsimp only
    split
    · rfl
    · rw [perform_bind, perform_of]
      simp only [serve]
      cases w.users.find f.identifiers.1 f.identifiers.2 with
      | none => rfl
      | some u =>
        dsimp only
        split <;> rfl
  exact Prod.ext rfl hstays

/-- Keeping the tokens of a login, once the user is known and earlier sessions have ended. -/
theorem perform_signIn {w : World} (hup : w.tokens.isDown = false) (r : SessionRules)
    (userId : Int) :
    w.perform (do
      let pair ← issuePair r.token userId
      keep r .access pair.access userId
      keep r .refresh pair.refresh userId
      pure (.ofPair pair)) =
      (.ok (LoginReceipt.ofPair (w.pair r.token userId)), w.signedIn r userId) := by
  have hkept : ((w.drawn 2).kept r .access (w.pair r.token userId).access userId).tokens.isDown =
      false := by
    simp [kept, remembered, drawn, hup]
  rw [perform_bind_ok (perform_issuePair w r.token userId),
    perform_bind_ok (perform_keep (w := w.drawn 2) hup r .access _ userId),
    perform_bind_ok (perform_keep hkept r .refresh _ userId)]
  rfl

theorem perform_login_unknown {w : World} {f : LoginForm} {e : Failure}
    (h : w.answer (identify f) = .error e) (r : SessionRules) :
    w.perform (login r f) = (.error e, w) := by
  have hwho := perform_identify w f
  rw [h] at hwho
  exact perform_bind_error hwho _

/-- With the token store out of reach a login fails, and at most two ids are spent. -/
theorem perform_login_down {w : World} {f : LoginForm} {u : User}
    (h : w.answer (identify f) = .ok u) (hdown : w.tokens.isDown = true) (r : SessionRules) :
    w.perform (login r f) =
      (.error TokenStore.outage, if r.single then w else w.drawn 2) := by
  have hwho := perform_identify w f
  rw [h] at hwho
  refine (perform_bind_ok hwho _).trans ?_
  cases hsingle : r.single with
  | true =>
    simp only [↓reduceIte]
    exact perform_bind_error (perform_logout_down hdown u.id) _
  | false =>
    simp only [Bool.false_eq_true, ↓reduceIte]
    refine (perform_bind_ok (perform_issuePair w r.token u.id) _).trans ?_
    exact perform_bind_error (perform_keep_down (w := w.drawn 2) hdown r .access _ u.id) _

/-- The world in which a login signs in: one without the earlier sessions, if they have to end. -/
def World.cleared (r : SessionRules) (userId : Int) (w : World) : World :=
  if r.single then w.signedOut userId else w

theorem perform_login {w : World} {f : LoginForm} {u : User}
    (h : w.answer (identify f) = .ok u) (hup : w.tokens.isDown = false) (r : SessionRules) :
    w.perform (login r f) =
      (.ok (.ofPair (w.pair r.token u.id)), (w.cleared r u.id).signedIn r u.id) := by
  have hwho := perform_identify w f
  rw [h] at hwho
  refine (perform_bind_ok hwho _).trans ?_
  unfold cleared
  cases hsingle : r.single with
  | true =>
    simp only [↓reduceIte]
    refine (perform_bind_ok (perform_logout hup u.id) _).trans ?_
    exact perform_signIn (w := w.signedOut u.id) hup r u.id
  | false =>
    simp only [Bool.false_eq_true, ↓reduceIte]
    exact perform_signIn hup r u.id

/-- A login draws some ids, or it signs a user in. -/
theorem after_login (w : World) (r : SessionRules) (f : LoginForm) :
    (∃ n, w.after (login r f) = w.drawn n) ∨
      ∃ u, w.answer (identify f) = .ok u ∧ w.tokens.isDown = false ∧
        w.after (login r f) = (w.cleared r u.id).signedIn r u.id := by
  unfold World.after
  cases hwho : w.answer (identify f) with
  | error e => exact .inl ⟨0, by rw [perform_login_unknown hwho]; rfl⟩
  | ok u =>
    cases hdown : w.tokens.isDown with
    | true =>
      rw [perform_login_down hwho hdown]
      cases r.single with
      | true => exact .inl ⟨0, rfl⟩
      | false => exact .inl ⟨2, rfl⟩
    | false => exact .inr ⟨u, rfl, rfl, by rw [perform_login hwho hdown]⟩

/-- A logout changes nothing, or it signs out. -/
theorem after_logout (w : World) (userId : Int) :
    w.after (logout userId) = w ∨
      w.answer (logout userId) = .ok () ∧ w.after (logout userId) = w.signedOut userId := by
  unfold World.after World.answer
  cases hdown : w.tokens.isDown with
  | true => exact .inl (by rw [perform_logout_down hdown])
  | false => exact .inr ⟨by rw [perform_logout hdown], by rw [perform_logout hdown]⟩

/-- A login that succeeds hands out the pair that it signs in with. -/
theorem of_answer_login {w : World} {r : SessionRules} {f : LoginForm} {u : User}
    {receipt : LoginReceipt} (hwho : w.answer (identify f) = .ok u)
    (h : w.answer (login r f) = .ok receipt) :
    w.tokens.isDown = false ∧ receipt = .ofPair (w.pair r.token u.id) ∧
      w.after (login r f) = (w.cleared r u.id).signedIn r u.id := by
  unfold World.answer at h
  cases hdown : w.tokens.isDown with
  | true =>
    rw [perform_login_down hwho hdown] at h
    simp at h
  | false =>
    rw [perform_login hwho hdown] at h
    exact ⟨rfl, (Except.ok.inj h).symm, by rw [World.after, perform_login hwho hdown]⟩

/-- A logout that succeeds signs out. -/
theorem of_answer_logout {w : World} {userId : Int} (h : w.answer (logout userId) = .ok ()) :
    w.tokens.isDown = false ∧ w.after (logout userId) = w.signedOut userId := by
  unfold World.answer at h
  cases hdown : w.tokens.isDown with
  | true =>
    rw [perform_logout_down hdown] at h
    simp at h
  | false => exact ⟨rfl, by rw [World.after, perform_logout hdown]⟩

structure World.Mirrors (token : String) (userId : Int) (w : World) : Prop where
  inReach : w.cache.isDown = false
  owner : w.cache.text? (Cache.tokenKey .access token) = some (ownerText userId)

def World.Live (token : String) (userId : Int) (w : World) : Prop :=
  ∃ t ∈ w.tokens.rows, t.kind = .access ∧ t.userId = userId ∧ t.token = token ∧
    t.isActive w.clock = true

theorem mirrors_iff (w : World) (token : String) (userId : Int) :
    (w.cache.get (Cache.tokenKey .access token)).toOption.join = some (ownerText userId) ↔
      w.Mirrors token userId := by
  unfold Cache.Memory.get
  split
  · rename_i hdown
    constructor
    · intro h
      simp [Except.toOption] at h
    · intro h
      simp [h.inReach] at hdown
  · rename_i hup
    exact ⟨fun h => ⟨by simpa using hup, h⟩, fun h => h.owner⟩

/-- With the token store in reach, a token is found exactly if it is live. -/
theorem findActive_iff {w : World} (hup : w.tokens.isDown = false) (token : String)
    (userId : Int) :
    (∃ t, w.tokens.findActive w.clock .access userId token = .ok (some t)) ↔
      w.Live token userId := by
  simp only [TokenStore.findActive, hup, Bool.false_eq_true, ↓reduceIte, Except.ok.injEq]
  constructor
  · rintro ⟨t, ht⟩
    have hmem := List.mem_of_find?_eq_some ht
    have hfits := List.find?_some ht
    simp only [Bool.and_eq_true, decide_eq_true_eq, beq_iff_eq] at hfits
    exact ⟨t, hmem, hfits.1.1.1, hfits.1.1.2, hfits.1.2, hfits.2⟩
  · rintro ⟨t, hmem, hkind, huser, htoken, hactive⟩
    have hsome : (w.tokens.rows.find? fun t =>
        t.kind = .access && t.userId == userId && t.token == token &&
          t.isActive w.clock).isSome := by
      rw [List.find?_isSome]
      exact ⟨t, hmem, by simp [hkind, huser, htoken, hactive]⟩
    exact Option.isSome_iff_exists.mp hsome

theorem perform_authenticate_flaw {w : World} {r : SessionRules} {token : String} {e : TokenFlaw}
    (h : Jwt.verify r.token.secret w.clock token = .error e) :
    w.perform (authenticate r token) = (.error (.token e), w) := by
  have hverify : w.perform (Attempt.ofExcept ((Jwt.verify r.token.secret w.clock token).mapError
      Failure.token)) = (.error (.token e), w) := by
    rw [perform_ofExcept, h]
    rfl
  rw [authenticate, perform_bind_ok (perform_ask w .now)]
  exact perform_bind_error hverify _

/-- A verified token is asked for in the cache first. -/
theorem perform_authenticate {w : World} {r : SessionRules} {token : String} {c : Claims}
    (h : Jwt.verify r.token.secret w.clock token = .ok c) :
    w.perform (authenticate r token) =
      w.perform (if (w.cache.get (Cache.tokenKey .access token)).toOption.join =
          some (ownerText c.userId) then pure c
        else do
          match ← Attempt.of (.findToken .access c.userId token) with
          | none => throw (.token .revoked)
          | some _ =>
            bestEffort (.cache (Cache.tokenKey .access token) (ownerText c.userId)
              r.cacheLifetime)
            pure c) := by
  have hverify : w.perform (Attempt.ofExcept ((Jwt.verify r.token.secret w.clock token).mapError
      Failure.token)) = (.ok c, w) := by
    rw [perform_ofExcept, h]
    rfl
  rw [authenticate, perform_bind_ok (perform_ask w .now)]
  refine (perform_bind_ok hverify _).trans ?_
  exact perform_bind_ok (perform_ask w (.cached _)) _

theorem perform_authenticate_mirrored {w : World} {r : SessionRules} {token : String} {c : Claims}
    (h : Jwt.verify r.token.secret w.clock token = .ok c) (hmirror : w.Mirrors token c.userId) :
    w.perform (authenticate r token) = (.ok c, w) := by
  rw [perform_authenticate h, if_pos ((mirrors_iff w token c.userId).mpr hmirror)]
  rfl

/-- Without a mirror the token store decides, and a token that it knows is mirrored again. -/
theorem perform_authenticate_stored {w : World} {r : SessionRules} {token : String} {c : Claims}
    (h : Jwt.verify r.token.secret w.clock token = .ok c) (hmirror : ¬ w.Mirrors token c.userId) :
    w.perform (authenticate r token) =
      match w.tokens.findActive w.clock .access c.userId token with
      | .error e => (.error e, w)
      | .ok none => (.error (.token .revoked), w)
      | .ok (some _) => (.ok c, w.remembered r .access token c.userId) := by
  rw [perform_authenticate h, if_neg fun hcached => hmirror ((mirrors_iff w token c.userId).mp
    hcached), perform_bind, perform_of]
  simp only [serve]
  cases w.tokens.findActive w.clock .access c.userId token with
  | error e => rfl
  | ok found =>
    cases found with
    | none => rfl
    | some t => exact perform_bind_ok (perform_bestEffort w _) _

theorem answer_authenticate_stored {w : World} {r : SessionRules} {token : String} {c d : Claims}
    (h : Jwt.verify r.token.secret w.clock token = .ok c) (hmirror : ¬ w.Mirrors token c.userId) :
    w.answer (authenticate r token) = .ok d ↔
      c = d ∧ w.tokens.isDown = false ∧ w.Live token c.userId := by
  rw [World.answer, perform_authenticate_stored h hmirror]
  cases hup : w.tokens.isDown with
  | true => simp [TokenStore.findActive, hup]
  | false =>
    rw [← findActive_iff hup]
    cases w.tokens.findActive w.clock .access c.userId token with
    | error e => simp
    | ok found => cases found <;> simp

/-- The gate lets a token pass that is verified and is either mirrored or live. -/
theorem authenticate_iff (w : World) (r : SessionRules) (token : String) (c : Claims) :
    w.answer (authenticate r token) = .ok c ↔
      Jwt.verify r.token.secret w.clock token = .ok c ∧
        (w.Mirrors token c.userId ∨ w.tokens.isDown = false ∧ w.Live token c.userId) := by
  cases hverify : Jwt.verify r.token.secret w.clock token with
  | error e =>
    rw [World.answer, perform_authenticate_flaw hverify]
    simp
  | ok d =>
    rw [Except.ok.injEq]
    by_cases hmirror : w.Mirrors token d.userId
    · rw [World.answer, perform_authenticate_mirrored hverify hmirror, Except.ok.injEq]
      constructor
      · rintro rfl
        exact ⟨rfl, .inl hmirror⟩
      · exact And.left
    · rw [answer_authenticate_stored hverify hmirror]
      constructor
      · rintro ⟨rfl, hstored⟩
        exact ⟨rfl, .inr hstored⟩
      · rintro ⟨rfl, hmirrored | hstored⟩
        · exact absurd hmirrored hmirror
        · exact ⟨rfl, hstored⟩

/-- The gate changes nothing, or it reminds the cache of a token that is live. -/
theorem after_authenticate (w : World) (r : SessionRules) (token : String) :
    w.after (authenticate r token) = w ∨
      ∃ userId, w.Live token userId ∧
        w.after (authenticate r token) = w.remembered r .access token userId := by
  unfold World.after
  cases hverify : Jwt.verify r.token.secret w.clock token with
  | error e => exact .inl (by rw [perform_authenticate_flaw hverify])
  | ok c =>
    by_cases hmirror : w.Mirrors token c.userId
    · exact .inl (by rw [perform_authenticate_mirrored hverify hmirror])
    · rw [perform_authenticate_stored hverify hmirror]
      cases hfound : w.tokens.findActive w.clock .access c.userId token with
      | error e => exact .inl rfl
      | ok found =>
        cases found with
        | none => exact .inl rfl
        | some t =>
          have hup : w.tokens.isDown = false := by
            cases hdown : w.tokens.isDown with
            | false => rfl
            | true => simp [TokenStore.findActive, hdown] at hfound
          exact .inr ⟨c.userId, (findActive_iff hup token c.userId).mp ⟨t, hfound⟩, rfl⟩

end Desk

end ParcelDesk

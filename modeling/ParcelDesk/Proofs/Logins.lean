import ParcelDesk.Proofs.Passwords
import ParcelDesk.Proofs.TokenRows

/-!
Logins that succeed. Whoever is found by name or email and gives the password that the hash was
made of is let in, and with everything in reach the access token from the login opens the gate at
once. A desk with a single account shows that all this can happen.
-/

namespace ParcelDesk.Desk

open World

/-- An account that is found lets in whoever has its password. -/
theorem identify_of_find {w : World} {f : LoginForm} {u : User}
    (hnamed : (f.identifiers.1.isNone && f.identifiers.2.isNone) = false)
    (hgiven : f.password.isEmpty = false)
    (hfind : w.users.find f.identifiers.1 f.identifiers.2 = some u)
    (hverify : Password.verify f.password u.passwordHash = true) :
    w.answer (identify f) = .ok u := by
  have hfound : w.perform (Attempt.of (.findUser f.identifiers.1 f.identifiers.2)) =
      (.ok (some u), w) := by
    rw [perform_of]
    simp only [serve, hfind]
  unfold World.answer identify
  dsimp only
  rw [hnamed, hgiven, if_neg (by simp)]
  refine (congrArg Prod.fst (perform_bind_ok hfound _)).trans ?_
  dsimp only
  rw [if_pos hverify]
  rfl

/-- Who is let in depends on the accounts alone. -/
theorem identify_of_users_eq {w v : World} (h : w.users = v.users) (f : LoginForm) :
    w.answer (identify f) = v.answer (identify f) := by
  unfold World.answer identify
  dsimp only
  split
  · rfl
  · rw [perform_bind, perform_bind, perform_of, perform_of]
    simp only [serve, h]
    cases v.users.find f.identifiers.1 f.identifiers.2 with
    | none => rfl
    | some u =>
      dsimp only
      split <;> rfl

section Login

variable {s : Setup} {w : World} {f : LoginForm} {u : User}

theorem handsOut_login (htokens : w.tokens.isDown = false)
    (hwho : w.answer (identify f) = .ok u) (single : Bool) (kind : TokenKind) :
    s.HandsOut w kind u.id ((LoginReceipt.ofPair (w.pair s.sessions.token u.id)).token kind)
      (.login single f) :=
  ⟨u, _, hwho, rfl, by rw [World.answer, perform_login hwho htokens]; rfl, rfl⟩

theorem run_login (htokens : w.tokens.isDown = false) (hwho : w.answer (identify f) = .ok u) :
    s.run w [.login true f] = (w.signedOut u.id).signedIn s.sessions u.id := by
  change w.after (login (s.rules true) f) = _
  rw [World.after, perform_login hwho htokens]
  rfl

end Login

theorem pair_signedOut (w : World) (userId other : Int) (t : TokenSettings) :
    (w.signedOut userId).pair t other = w.pair t other := rfl

/-- A sign-in is mirrored. -/
theorem mirrors_signedIn {w : World} (hup : w.cache.isDown = false) {r : SessionRules}
    (hlifetime : 0 < r.cacheLifetime) (userId : Int) :
    (w.signedIn r userId).Mirrors (w.pair r.token userId).access.text userId := by
  constructor
  · rw [signedIn_cache_isDown, hup]
  · have hkeys : Cache.tokenKey .access (w.pair r.token userId).access.text ≠
        Cache.tokenKey .refresh (w.pair r.token userId).refresh.text := fun h => by
      cases (Cache.tokenKey_inj h).1
    have hlookup : (w.signedIn r userId).cache.texts.lookup
        (Cache.tokenKey .access (w.pair r.token userId).access.text) =
          some ⟨ownerText userId, w.cache.clock + r.cacheLifetime * 1000⟩ :=
      (Cache.Memory.lookup_set_of_ne hkeys _ _).trans (Cache.Memory.lookup_set_self hup _ _ _)
    rw [Cache.Memory.text?, hlookup, signedIn_cache_clock]
    simp [Option.filter, hlifetime]

/-- The access token of the next login is verified until it expires. -/
theorem verify_pair {w : World} {t : TokenSettings} {userId : Int}
    (hfits : (w.pair t userId).access.claims.Fits) (hpast : 0 ≤ w.clock.seconds)
    (hlifetime : 0 ≤ t.accessLifetime) :
    Jwt.verify t.secret w.clock (w.pair t userId).access.text =
      .ok (w.pair t userId).access.claims := by
  have hexpiry : (w.pair t userId).access.claims.expiresAt =
      w.clock.seconds + t.accessLifetime := rfl
  exact Jwt.verify_encode_fits hfits (by omega) (by omega) t.secret

def World.ofAccount (u : User) (now : Instant) : World where
  users := ⟨[u]⟩
  clock := now
  chance := ⟨fun _ => [], fun n => String.ofList (Decimal.naturalDigits n), 0, 0⟩

theorem isFresh_ofAccount (u : User) (now : Instant) : (World.ofAccount u now).IsFresh :=
  ⟨rfl, rfl, fun _ _ h => Decimal.naturalDigits_injective (String.ofList_injective h)⟩

/-- An account under a name, with a password that was hashed under a salt of zeros. -/
def accountOf (name password : String) : User where
  id := 1
  name := name
  email := ""
  passwordHash := ((Password.hash password 4 (List.replicate 16 0)).toOption).getD ""
  createdAt := ⟨0, 0⟩
  updatedAt := ⟨0, 0⟩
  deletedAt := none

/-- The account is let in by its name and its password. -/
theorem identify_accountOf {name password : String} (hname : Text.named (some name) = some name)
    (hpassword : password.isEmpty = false) (now : Instant) :
    (World.ofAccount (accountOf name password) now).answer
      (identify ⟨some name, none, password⟩) = .ok (accountOf name password) := by
  have hids : LoginForm.identifiers ⟨some name, none, password⟩ = (some name, none) :=
    Prod.ext hname rfl
  obtain ⟨hash, hhash⟩ : ∃ hash, Password.hash password 4 (List.replicate 16 0) = .ok hash :=
    ⟨_, if_pos rfl⟩
  have hkept : (accountOf name password).passwordHash = hash := by
    change (Password.hash password 4 (List.replicate 16 0)).toOption.getD "" = hash
    rw [hhash]
    rfl
  refine identify_of_find ?_ hpassword ?_ ?_
  · rw [hids]
    rfl
  · rw [hids]
    simp [World.ofAccount, UserStore.find, User.isActive, User.answersTo, accountOf]
  · exact hkept ▸ Password.verify_hash rfl hhash

def karim : User := accountOf "karim" "secret"

def karimsDesk : World := .ofAccount karim ⟨1760000000, 0⟩

theorem isFresh_karimsDesk : karimsDesk.IsFresh := isFresh_ofAccount _ _

def karimsForm : LoginForm := ⟨some "karim", none, "secret"⟩

theorem identify_karim : karimsDesk.answer (identify karimsForm) = .ok karim :=
  identify_accountOf (by decide) (by decide) _

theorem issued_karim (s : Setup) (es : List Event) :
    s.Issued karimsDesk (.login true karimsForm :: es) .access karim.id
      (karimsDesk.pair s.sessions.token karim.id).access.text :=
  ⟨[], _, es, rfl, handsOut_login rfl identify_karim true .access⟩

theorem run_karimsLogin (s : Setup) : s.run karimsDesk [.login true karimsForm] =
    (karimsDesk.signedOut karim.id).signedIn s.sessions karim.id :=
  run_login rfl identify_karim

theorem inReach_karimsLogin (s : Setup) :
    (s.run karimsDesk [.login true karimsForm]).cache.isDown = false ∧
      (s.run karimsDesk [.login true karimsForm]).tokens.isDown = false := by
  rw [run_karimsLogin, signedIn_cache_isDown, signedOut_cache_isDown, signedIn_tokens_isDown]
  exact ⟨rfl, rfl⟩

/-- The claims of the first access token fit 64 bits for any lifetime of up to 62. -/
theorem fits_karim {t : TokenSettings} (hpositive : 0 ≤ t.accessLifetime)
    (hbound : t.accessLifetime < 0x4000000000000000) :
    (karimsDesk.pair t karim.id).access.claims.Fits where
  userId := by
    change Json.Fits 1
    exact ⟨by decide, by decide⟩
  issuedAt := by
    change Json.Fits 1760000000
    exact ⟨by decide, by decide⟩
  expiresAt := by
    change Json.Fits (1760000000 + t.accessLifetime)
    exact ⟨by omega, by omega⟩

def karimsSession (orders : OrderStore) : World :=
  World.signedIn {} karim.id { karimsDesk with orders }

def karimsToken : SignedToken := (karimsDesk.pair {} karim.id).access

theorem verify_karimsToken :
    Jwt.verify ({} : TokenSettings).secret karimsDesk.clock karimsToken.text =
      .ok karimsToken.claims :=
  verify_pair (fits_karim (by decide) (by decide)) (by decide) (by decide)

theorem live_karimsToken : (karimsSession {}).Live karimsToken.text karim.id :=
  ⟨.ofSigned 1 .access karimsToken karim.id karimsDesk.clock, List.mem_cons_self, rfl, rfl, rfl,
    rfl⟩

theorem accepted_karimsToken (orders : OrderStore) :
    (karimsSession orders).answer (authenticate {} karimsToken.text) = .ok karimsToken.claims := by
  have hmirrors := mirrors_signedIn (w := { karimsDesk with orders }) (r := {}) rfl (by decide)
    karim.id
  rw [authenticate_iff]
  exact ⟨verify_karimsToken, .inl hmirrors⟩

end ParcelDesk.Desk

import Mathlib.Data.List.Pairwise
import ParcelDesk.Proofs.Bearers
import ParcelDesk.Proofs.FailedLogins
import ParcelDesk.Proofs.Logins
import ParcelDesk.Proofs.Ownership
import ParcelDesk.Proofs.UniqueAccounts

/-!
Whom a login lets in. A form opens an account if it names the account and gives its password, and
then, with one identifier and the token store in reach, the login succeeds for that account. What it
hands out is signed and stored for the account, and nobody else's rows are touched. A login that
fails in any way leaves accounts, tokens and cache as they were, so no session ends by it.
-/

namespace ParcelDesk

namespace Text

def IsGiven (s : Option String) : Prop := ∃ t, s = some t ∧ trim t ≠ ""

theorem isGiven_some_iff {t : String} : IsGiven (some t) ↔ trim t ≠ "" := by
  constructor
  · intro h
    rcases h with ⟨v, hv, hsome⟩
    rw [Option.some.inj hv]
    exact hsome
  · intro hsome
    exact ⟨t, rfl, hsome⟩

theorem named_eq_none_iff {s : Option String} : named s = none ↔ ¬ IsGiven s := by
  cases s with
  | none =>
    constructor
    · intro _ h
      rcases h with ⟨t, hnone, -⟩
      cases hnone
    · intro _
      rfl
  | some t =>
    rw [isGiven_some_iff, ← notBlank_iff, named, Option.bind_some]
    by_cases hblank : notBlank t = true
    · simp [hblank]
    · simp [hblank]

/-- A text that is given is named by what is left of it between the blanks. -/
theorem any_named_iff {s : Option String} {p : String → Bool} :
    (named s).any p = true ↔ ∃ t, s = some t ∧ trim t ≠ "" ∧ p (trim t) = true := by
  rw [Option.any_eq_true]
  constructor
  · intro h
    rcases h with ⟨name, hname, hp⟩
    cases s with
    | none => cases hname
    | some t =>
      rcases named_eq_some_iff.mp hname with ⟨rfl, hsome⟩
      exact ⟨t, rfl, hsome, hp⟩
  · intro h
    rcases h with ⟨t, rfl, hsome, hp⟩
    exact ⟨trim t, named_eq_some_iff.mpr ⟨rfl, hsome⟩, hp⟩

end Text

namespace LoginForm

variable {f : LoginForm} {u : User} {s : UserStore}

/-- The form gives the name of the account, or its email in any case. Blanks around them do not
count. -/
inductive Names (f : LoginForm) (u : User) : Prop
  | name {t : String} (hgiven : f.name = some t) (hsome : Text.trim t ≠ "")
      (hsame : Text.trim t = u.name)
  | email {t : String} (hgiven : f.email = some t) (hsome : Text.trim t ≠ "")
      (hsame : Text.sameIgnoringAsciiCase (Text.trim t) u.email = true)

def GivesOne (f : LoginForm) : Prop :=
  (Text.IsGiven f.name ∧ ¬ Text.IsGiven f.email) ∨ (¬ Text.IsGiven f.name ∧ Text.IsGiven f.email)

structure Opens (f : LoginForm) (s : UserStore) (u : User) : Prop where
  stored : u ∈ s.rows
  active : u.deletedAt = none
  named : f.Names u
  given : f.password ≠ ""
  verified : Password.verify f.password u.passwordHash = true

theorem isMeantBy_iff : u.isMeantBy f = true ↔ f.Names u := by
  unfold User.isMeantBy User.answersTo identifiers
  rw [Bool.or_eq_true, Text.any_named_iff, Text.any_named_iff]
  constructor
  · intro h
    rcases h with ⟨t, hgiven, hsome, hsame⟩ | ⟨t, hgiven, hsome, hsame⟩
    · exact .name hgiven hsome (beq_iff_eq.mp hsame)
    · exact .email hgiven hsome hsame
  · intro h
    cases h with
    | name hgiven hsome hsame => exact .inl ⟨_, hgiven, hsome, beq_iff_eq.mpr hsame⟩
    | email hgiven hsome hsame => exact .inr ⟨_, hgiven, hsome, hsame⟩

/-- With one identifier the form calls the accounts that it names and that are not deleted. -/
theorem GivesOne.exists_called (h : f.GivesOne) : ∃ i : Identifier,
    ∀ v : User, v.isCalled i = (v.isActive && v.isMeantBy f) := by
  have hidentifier : ∃ i : Identifier, f.identifiers = (i.name?, i.email?) := by
    rcases h with ⟨⟨t, hname, hsome⟩, hemail⟩ | ⟨hname, t, hemail, hsome⟩
    · refine ⟨.name (Text.trim t), Prod.ext ?_ (Text.named_eq_none_iff.mpr hemail)⟩
      show Text.named f.name = some (Text.trim t)
      rw [hname, Text.named_eq_some_iff]
      exact ⟨rfl, hsome⟩
    · refine ⟨.email (Text.trim t), Prod.ext (Text.named_eq_none_iff.mpr hname) ?_⟩
      show Text.named f.email = some (Text.trim t)
      rw [hemail, Text.named_eq_some_iff]
      exact ⟨rfl, hsome⟩
  obtain ⟨i, hi⟩ := hidentifier
  refine ⟨i, fun v => ?_⟩
  unfold User.isCalled User.isMeantBy
  rw [hi]

theorem isIncomplete_iff : f.isIncomplete = true ↔
    (¬ Text.IsGiven f.name ∧ ¬ Text.IsGiven f.email) ∨ f.password = "" := by
  unfold isIncomplete identifiers
  rw [Bool.or_eq_true, Bool.and_eq_true, Option.isNone_iff_eq_none, Option.isNone_iff_eq_none,
    Text.named_eq_none_iff, Text.named_eq_none_iff, String.isEmpty_iff]

/-- A form with a right to some account is complete. -/
theorem Opens.isComplete (h : f.Opens s u) : f.isIncomplete = false := by
  rw [← Bool.not_eq_true, isIncomplete_iff]
  intro hincomplete
  rcases hincomplete with ⟨hname, hemail⟩ | hpassword
  · cases h.named with
    | name hgiven hsome _ => exact hname ⟨_, hgiven, hsome⟩
    | email hgiven hsome _ => exact hemail ⟨_, hgiven, hsome⟩
  · exact h.given hpassword

end LoginForm

theorem User.Apart.symm {u v : User} (h : u.Apart v) : v.Apart u := by
  refine ⟨h.names.symm, ?_⟩
  rw [← Bool.not_eq_true, Text.sameIgnoringAsciiCase_iff]
  intro hsame
  have hback := (Text.sameIgnoringAsciiCase_iff u.email v.email).mpr hsame.symm
  rw [h.emails] at hback
  cases hback

instance : Std.Symm User.Apart := ⟨fun _ _ => User.Apart.symm⟩

namespace UserStore

variable {s : UserStore} {f : LoginForm} {u : User}

/-- The account that a form leads to is one of those that it names. -/
theorem of_findFor (h : s.findFor f = some u) : u ∈ s.rows ∧ u.deletedAt = none ∧ f.Names u := by
  unfold findFor find at h
  have hfits := List.find?_some h
  obtain ⟨hactive, hmeant⟩ := Bool.and_eq_true_iff.mp hfits
  exact ⟨List.mem_of_find?_eq_some h, Option.isNone_iff_eq_none.mp hactive,
    LoginForm.isMeantBy_iff.mp hmeant⟩

/-- Accounts that were handed in are apart, in whatever order they are kept. -/
theorem apart_of_perm {us : List User} (h : s.rows.Perm (ofAll us).rows) {v : User}
    (hv : v ∈ s.rows) (hu : u ∈ s.rows) (hne : v ≠ u) : v.Apart u := by
  have hpairs : (ofAll us).rows.Pairwise User.Apart := (distinct_ofAll us).apart
  exact hpairs.forall (h.mem_iff.mp hv) (h.mem_iff.mp hu) hne

/-- A form with one identifier leads to the account that it names, in whatever order the accounts
are looked through. -/
theorem findFor_eq_some {us : List User} (hkept : s.rows.Perm (ofAll us).rows)
    (hone : f.GivesOne) (h : f.Opens s u) : s.findFor f = some u := by
  obtain ⟨i, hcalled⟩ := hone.exists_called
  have isCalled_of_names {v : User} (hactive : v.deletedAt = none) (hnamed : f.Names v) :
      v.isCalled i = true := by
    rw [hcalled, Bool.and_eq_true]
    exact ⟨Option.isNone_iff_eq_none.mpr hactive, LoginForm.isMeantBy_iff.mpr hnamed⟩
  have hu : u.isCalled i = true := isCalled_of_names h.active h.named
  cases hfound : s.findFor f with
  | none =>
    have hnobody := List.find?_eq_none.mp hfound u h.stored
    rw [hcalled] at hu
    exact absurd hu hnobody
  | some v =>
    obtain ⟨hstored, hactive, hnamed⟩ := of_findFor hfound
    have hv : v.isCalled i = true := isCalled_of_names hactive hnamed
    by_cases hsame : v = u
    · rw [hsame]
    · have hapart : v.Apart u := apart_of_perm hkept hstored h.stored hsame
      exact absurd hu (hapart.not_both hv)

end UserStore

namespace Jwt

/-- The token was signed for the user, and it is read as nobody else's. -/
structure Carries (secret : String) (userId : Int) (token : String) : Prop where
  signed : ∃ c, token = encode secret c ∧ c.userId = userId
  read : ∀ now c, verify secret now token = .ok c → c.userId = userId

theorem carries_encode (secret : String) (c : Claims) :
    Carries secret c.userId (encode secret c) := by
  refine ⟨⟨c, rfl, rfl⟩, fun now d hread => ?_⟩
  rw [(of_verify_encode hread).1]

end Jwt

structure StoredToken.IsOpenFor (kind : TokenKind) (userId : Int) (token : String)
    (t : StoredToken) : Prop where
  kind : t.kind = kind
  userId : t.userId = userId
  token : t.token = token
  unrevoked : t.deletedAt = none

namespace Desk

open World

/-- What a login has given a user: two tokens that are signed and stored for the user, and no change
to accounts, to orders or to the rows of anybody else. -/
structure Grants (w v : World) (secret : String) (u : User) (receipt : LoginReceipt) : Prop where
  access : Jwt.Carries secret u.id receipt.accessToken
  refresh : Jwt.Carries secret u.id receipt.refreshToken
  stored : ∃ before first second, v.tokens.rows = before ++ [first, second] ∧
    before.length = w.tokens.rows.length ∧ first.IsOpenFor .access u.id receipt.accessToken ∧
    second.IsOpenFor .refresh u.id receipt.refreshToken
  others : ∀ userId ≠ u.id, v.tokens.rows.filter (fun t => t.userId == userId) =
    w.tokens.rows.filter fun t => t.userId == userId
  users : v.users = w.users
  orders : v.orders = w.orders

structure Spares (w v : World) : Prop where
  users : v.users = w.users
  tokens : v.tokens = w.tokens
  cache : v.cache = w.cache
  sessions : ∀ r token c, v.answer (authenticate r token) = .ok c ↔
    w.answer (authenticate r token) = .ok c

theorem spares_drawn (w : World) (n : Nat) : Spares w (w.drawn n) := by
  refine ⟨rfl, rfl, rfl, fun r token c => ?_⟩
  have hmirrors : (w.drawn n).Mirrors token c.userId ↔ w.Mirrors token c.userId :=
    ⟨fun h => ⟨h.inReach, h.owner⟩, fun h => ⟨h.inReach, h.owner⟩⟩
  rw [authenticate_iff, authenticate_iff, hmirrors]
  rfl

theorem length_cleared (w : World) (r : SessionRules) (userId : Int) :
    (w.cleared r userId).tokens.rows.length = w.tokens.rows.length := by
  unfold cleared
  split
  · rw [rows_signedOut, List.length_map]
  · rfl

theorem grants_signedIn {w : World} (hup : w.tokens.isDown = false) (r : SessionRules)
    (u : User) : Grants w ((w.cleared r u.id).signedIn r u.id) r.token.secret u
      (.ofPair (w.pair r.token u.id)) := by
  have hcleared : (w.cleared r u.id).tokens.isDown = false := by
    rw [cleared_tokens_isDown, hup]
  have htouched : w.TouchedFor u.id ((w.cleared r u.id).signedIn r u.id) :=
    (touchedFor_cleared w u.id r).trans (touchedFor_signedIn u.id hcleared r)
  have hrows := rows_signedIn hcleared r u.id
  rw [pair_cleared] at hrows
  constructor
  · exact Jwt.carries_encode r.token.secret (w.pair r.token u.id).access.claims
  · exact Jwt.carries_encode r.token.secret (w.pair r.token u.id).refresh.claims
  · exact ⟨_, _, _, hrows, length_cleared w r u.id, ⟨rfl, rfl, rfl, rfl⟩, ⟨rfl, rfl, rfl, rfl⟩⟩
  · intro userId hother
    exact htouched.tokens.filter_eq hother
  · exact htouched.users
  · unfold cleared
    split <;> rfl

variable {w : World} {r : SessionRules} {f : LoginForm} {u : User}

/-- Whoever is identified has the right to the account. -/
theorem opens_of_identify (h : w.answer (identify f) = .ok u) : f.Opens w.users u := by
  cases hform : f.isIncomplete with
  | true =>
    rw [answer_identify_incomplete hform] at h
    cases h
  | false =>
    rw [answer_identify hform] at h
    cases hfound : w.users.findFor f with
    | none =>
      rw [hfound] at h
      cases h
    | some v =>
      simp only [hfound] at h
      split at h
      · rename_i hverified
        obtain rfl := Except.ok.inj h
        obtain ⟨hstored, hactive, hnamed⟩ := UserStore.of_findFor hfound
        have hgiven : f.password ≠ "" := by
          intro hnone
          rw [LoginForm.isIncomplete_iff.mpr (.inr hnone)] at hform
          cases hform
        exact ⟨hstored, hactive, hnamed, hgiven, hverified⟩
      · cases h

theorem identify_of_opens {us : List User} (hkept : w.users.rows.Perm (UserStore.ofAll us).rows)
    (hone : f.GivesOne) (h : f.Opens w.users u) : w.answer (identify f) = .ok u := by
  rw [answer_identify h.isComplete, UserStore.findFor_eq_some hkept hone h]
  exact if_pos h.verified

def loginFailures : List Failure :=
  [.login .missingCredentials, .login .userNotFound, .login .invalidCredentials, TokenStore.outage]

theorem of_answer_login_error {e : Failure} (h : w.answer (login r f) = .error e) :
    e ∈ loginFailures ∧ Spares w (w.after (login r f)) := by
  cases hwho : w.answer (identify f) with
  | error flaw =>
    have hlogin := perform_login_unknown hwho r
    rw [World.answer, hlogin] at h
    obtain rfl := Except.error.inj h
    rw [World.after, hlogin]
    refine ⟨?_, spares_drawn w 0⟩
    cases hform : f.isIncomplete with
    | true =>
      rw [answer_identify_incomplete hform] at hwho
      rw [← Except.error.inj hwho]
      simp [loginFailures]
    | false =>
      rcases of_answer_identify_error hform hwho with rfl | rfl <;> simp [loginFailures]
  | ok u =>
    cases hdown : w.tokens.isDown with
    | true =>
      have hlogin := perform_login_down hwho hdown r
      rw [World.answer, hlogin] at h
      rw [World.after, hlogin, ← Except.error.inj h]
      refine ⟨by simp [loginFailures], ?_⟩
      dsimp only
      split
      · exact spares_drawn w 0
      · exact spares_drawn w 2
    | false =>
      rw [World.answer, perform_login hwho hdown] at h
      cases h

/-- A login is sound, complete and atomic, for accounts that were handed in and are kept in any
order. Where it succeeds, the form has the right to an account that is not deleted, and it gets
tokens for that account. It does succeed for an account that the form has the right to and names in
one way, if the token store is in reach. Where it fails, it was for the credentials or for the token
store, and nobody's session has changed. -/
theorem logins_are_all_or_nothing {us : List User}
    (hkept : w.users.rows.Perm (UserStore.ofAll us).rows) (r : SessionRules) (f : LoginForm) :
    (∀ receipt, w.answer (login r f) = .ok receipt → ∃ u, f.Opens w.users u ∧
      Grants w (w.after (login r f)) r.token.secret u receipt) ∧
    (∀ u, f.GivesOne → f.Opens w.users u → w.tokens.isDown = false →
      ∃ receipt, w.answer (login r f) = .ok receipt ∧
        Grants w (w.after (login r f)) r.token.secret u receipt) ∧
    ∀ e, w.answer (login r f) = .error e →
      e ∈ loginFailures ∧ Spares w (w.after (login r f)) := by
  refine ⟨fun receipt hanswer => ?_, fun u hone hopens hup => ?_, fun e => of_answer_login_error⟩
  · cases hwho : w.answer (identify f) with
    | error e =>
      rw [World.answer, perform_login_unknown hwho] at hanswer
      cases hanswer
    | ok u =>
      obtain ⟨hup, rfl, hafter⟩ := of_answer_login hwho hanswer
      rw [hafter]
      exact ⟨u, opens_of_identify hwho, grants_signedIn hup r u⟩
  · have hlogin := perform_login (identify_of_opens hkept hone hopens) hup r
    refine ⟨_, by rw [World.answer, hlogin], ?_⟩
    rw [World.after, hlogin]
    exact grants_signedIn hup r u

theorem ofAll_karim : (UserStore.ofAll [karim]).rows = [karim] := by
  have hinsert : UserStore.insert {} karim = _ :=
    UserStore.insert_of_free (s := {}) (u := karim) (by simp)
  show (UserStore.insert {} karim).2.rows = [karim]
  rw [hinsert]
  rfl

theorem opens_karim : karimsForm.Opens karimsDesk.users karim := opens_of_identify identify_karim

theorem givesOne_karim : karimsForm.GivesOne := by
  refine .inl ⟨⟨"karim", rfl, by decide⟩, ?_⟩
  intro h
  rcases h with ⟨t, hemail, -⟩
  cases hemail

def karimsOutage : World :=
  { karimsSession {} with tokens := { (karimsSession {}).tokens with isDown := true } }

/-- The first login succeeds. A second one, with the token store out of reach, fails and leaves the
first session alone. -/
theorem karims_logins_are_all_or_nothing :
    (∃ receipt, karimsDesk.answer (login {} karimsForm) = .ok receipt ∧
      Grants karimsDesk (karimsDesk.after (login {} karimsForm)) ({} : TokenSettings).secret karim
        receipt) ∧
    karimsOutage.answer (login {} karimsForm) = .error TokenStore.outage ∧
    Spares karimsOutage (karimsOutage.after (login {} karimsForm)) := by
  have hkept : karimsDesk.users.rows.Perm (UserStore.ofAll [karim]).rows := by
    rw [ofAll_karim]
    rfl
  obtain ⟨-, hcomplete, -⟩ := logins_are_all_or_nothing (w := karimsDesk) hkept {} karimsForm
  obtain ⟨-, -, hatomic⟩ := logins_are_all_or_nothing (w := karimsOutage) hkept {} karimsForm
  have hwho : karimsOutage.answer (identify karimsForm) = .ok karim :=
    identify_of_opens (w := karimsOutage) hkept givesOne_karim opens_karim
  have hrefused : karimsOutage.answer (login {} karimsForm) = .error TokenStore.outage := by
    rw [World.answer, perform_login_down hwho rfl]
  exact ⟨hcomplete karim givesOne_karim opens_karim rfl, hrefused, (hatomic _ hrefused).2⟩

end Desk

end ParcelDesk

import ParcelDesk.Proofs.AgeingRows
import ParcelDesk.Proofs.Logins
import ParcelDesk.Proofs.TokenSteps

/-!
One session at a time. Where every login ends earlier sessions, a user never has more than one open
token of a kind, and right after a login it is the one that was handed out. Rows are numbered in the
order of their insertion and stay at their place for good; all that may ever change in one is that
it is revoked, and that only once.
-/

namespace ParcelDesk

/-- The row at a later time: nothing has changed in it, but it may have been revoked meanwhile. -/
def StoredToken.Ages : StoredToken → StoredToken → Prop :=
  AgesBy (fun t v => v = { t with deletedAt := v.deletedAt }) StoredToken.isRevoked

instance : IsPreorder StoredToken StoredToken.Ages := by
  apply AgesBy.isPreorder
  · exact fun _ => rfl
  · intro t v x htv hvx
    rw [htv] at hvx
    exact hvx

namespace TokenStore

def Ages (s t : TokenStore) : Prop := RowsAge StoredToken.Ages s.rows t.rows

/-- The tokens of a kind that a user has and that are not revoked, one for each row. -/
def openTokens (s : TokenStore) (kind : TokenKind) (userId : Int) : List String :=
  (s.rows.filter (isOpen kind userId)).map StoredToken.token

structure Tidy (s : TokenStore) : Prop where
  single : ∀ kind userId, (s.openTokens kind userId).length ≤ 1
  ordered : s.rows.Pairwise fun t v => t.id < v.id
  numbered : ∀ t ∈ s.rows, t.id ≤ s.lastId

end TokenStore

namespace Desk

open World

theorem revokedFor_id (userId : Int) (now : Instant) (t : StoredToken) :
    (revokedFor userId now t).id = t.id := by
  unfold revokedFor
  split <;> rfl

theorem ages_revokedFor (userId : Int) (now : Instant) (t : StoredToken) :
    t.Ages (revokedFor userId now t) := by
  unfold revokedFor
  split
  · rename_i hopen
    exact AgesBy.mk rfl fun hrevoked => absurd hrevoked (by simp [hopen.2])
  · exact refl t

theorem isOpen_revokedFor (kind : TokenKind) (userId other : Int) (now : Instant)
    (t : StoredToken) :
    TokenStore.isOpen kind other (revokedFor userId now t) = true ↔
      other ≠ userId ∧ TokenStore.isOpen kind other t = true := by
  rw [isOpen_iff, isOpen_iff]
  constructor
  · rintro ⟨hkind, rfl, hopen⟩
    obtain ⟨hother, -, hstays⟩ := of_isRevoked_revokedFor hopen
    rw [revokedFor_kind] at hkind
    rw [hstays] at hopen ⊢
    exact ⟨hother, hkind, rfl, hopen⟩
  · rintro ⟨hother, hkind, rfl, hopen⟩
    have hstays : revokedFor userId now t = t := if_neg fun hown => hother hown.1
    rw [hstays]
    exact ⟨hkind, rfl, hopen⟩

/-- A sign-out takes all open tokens from its user and none from anybody else. -/
theorem openTokens_signedOut (w : World) (userId : Int) (kind : TokenKind) (other : Int) :
    (w.signedOut userId).tokens.openTokens kind other =
      if other = userId then [] else w.tokens.openTokens kind other := by
  unfold TokenStore.openTokens
  rw [rows_signedOut]
  induction w.tokens.rows with
  | nil => split <;> rfl
  | cons t rows ih =>
    rw [List.map_cons, List.filter_cons, List.filter_cons]
    by_cases hother : other = userId
    · rw [if_pos hother] at ih ⊢
      rw [if_neg fun h => ((isOpen_revokedFor kind userId other w.clock t).mp h).1 hother, ih]
    · rw [if_neg hother] at ih ⊢
      have hsame : TokenStore.isOpen kind other (revokedFor userId w.clock t) =
          TokenStore.isOpen kind other t := by
        rw [Bool.eq_iff_iff, isOpen_revokedFor]
        exact and_iff_right hother
      rw [hsame]
      split
      · rw [List.map_cons, List.map_cons, ih, revokedFor_token]
      · exact ih

/-- A sign-in gives its user one open token of each kind more. -/
theorem openTokens_signedIn {w : World} (hup : w.tokens.isDown = false) (r : SessionRules)
    (userId : Int) (kind : TokenKind) (other : Int) :
    (w.signedIn r userId).tokens.openTokens kind other = w.tokens.openTokens kind other ++
      if other = userId then [(LoginReceipt.ofPair (w.pair r.token userId)).token kind] else [] := by
  unfold TokenStore.openTokens
  rw [rows_signedIn hup, List.filter_append, List.map_append]
  congr 1
  by_cases hother : other = userId
  · subst hother
    cases kind <;> simp [TokenStore.isOpen, StoredToken.ofSigned, StoredToken.isRevoked,
      LoginReceipt.ofPair, LoginReceipt.token]
  · have hnot : userId ≠ other := Ne.symm hother
    simp [TokenStore.isOpen, StoredToken.ofSigned, hother, hnot]

theorem ages_signedOut (w : World) (userId : Int) :
    w.tokens.Ages (w.signedOut userId).tokens := by
  unfold TokenStore.Ages
  rw [rows_signedOut]
  exact RowsAge.map (ages_revokedFor userId w.clock) w.tokens.rows

theorem ages_signedIn {w : World} (hup : w.tokens.isDown = false) (r : SessionRules)
    (userId : Int) : w.tokens.Ages (w.signedIn r userId).tokens := by
  unfold TokenStore.Ages
  rw [rows_signedIn hup]
  exact RowsAge.append w.tokens.rows _

theorem tidy_signedOut {w : World} (userId : Int) (h : w.tokens.Tidy) :
    (w.signedOut userId).tokens.Tidy where
  single kind other := by
    rw [openTokens_signedOut]
    split
    · exact Nat.zero_le 1
    · exact h.single kind other
  ordered := by
    rw [rows_signedOut, List.pairwise_map]
    simp only [revokedFor_id]
    exact h.ordered
  numbered t ht := by
    obtain ⟨v, hv, rfl⟩ := List.mem_map.mp ht
    rw [revokedFor_id]
    exact h.numbered v hv

/-- A sign-in of a user who has no open tokens keeps the store tidy. -/
theorem tidy_signedIn {w : World} (hup : w.tokens.isDown = false) (r : SessionRules)
    {userId : Int} (hnone : ∀ kind, w.tokens.openTokens kind userId = []) (h : w.tokens.Tidy) :
    (w.signedIn r userId).tokens.Tidy where
  single kind other := by
    rw [openTokens_signedIn hup]
    by_cases hother : other = userId
    · rw [if_pos hother, hother, hnone]
      exact Nat.le_refl 1
    · rw [if_neg hother, List.append_nil]
      exact h.single kind other
  ordered := by
    rw [rows_signedIn hup, List.pairwise_append]
    refine ⟨h.ordered, ?_, fun t ht v hv => ?_⟩
    · rw [List.pairwise_pair]
      simp only [StoredToken.ofSigned]
      omega
    · have hbound := h.numbered t ht
      rw [List.mem_cons, List.mem_singleton] at hv
      rcases hv with rfl | rfl <;> simp only [StoredToken.ofSigned] <;> omega
  numbered t ht := by
    rw [lastId_signedIn hup]
    rw [rows_signedIn hup, List.mem_append, List.mem_cons, List.mem_singleton] at ht
    rcases ht with hold | rfl | rfl
    · have hbound := h.numbered t hold
      omega
    · simp only [StoredToken.ofSigned]
      omega
    · simp only [StoredToken.ofSigned]
      omega

/-- To sign a user out and in again keeps the store tidy. -/
theorem tidy_signedOut_signedIn {w : World} (hup : w.tokens.isDown = false) (r : SessionRules)
    (userId : Int) (h : w.tokens.Tidy) :
    ((w.signedOut userId).signedIn r userId).tokens.Tidy := by
  refine tidy_signedIn (w := w.signedOut userId) hup r (fun kind => ?_)
    (tidy_signedOut userId h)
  rw [openTokens_signedOut, if_pos rfl]

theorem tidy_of_rows_eq {s t : TokenStore} (hrows : t.rows = s.rows)
    (hlast : t.lastId = s.lastId) (h : s.Tidy) : t.Tidy := by
  refine ⟨?_, ?_, ?_⟩
  · unfold TokenStore.openTokens
    rw [hrows]
    exact h.single
  · rw [hrows]
    exact h.ordered
  · rw [hrows, hlast]
    exact h.numbered

def Event.Single : Event → Prop
  | .login single _ => single = true
  | _ => True

theorem tidy_step {s : Setup} {w : World} {e : Event} (hsingle : e.Single)
    (h : w.tokens.Tidy) : (s.step w e).tokens.Tidy := by
  have hturns := turns_step s w e
  generalize (s.step w e).tokens = t at hturns ⊢
  cases hturns with
  | idle hrows hlast => exact tidy_of_rows_eq hrows hlast h
  | @ended userId hends => exact tidy_signedOut userId h
  | @begun single f u hwho hup =>
    obtain rfl : single = true := hsingle
    exact tidy_signedOut_signedIn hup s.sessions u.id h

theorem ages_step (s : Setup) (w : World) (e : Event) : w.tokens.Ages (s.step w e).tokens := by
  have hturns := turns_step s w e
  generalize (s.step w e).tokens = t at hturns ⊢
  cases hturns with
  | idle hrows hlast => exact RowsAge.of_eq hrows
  | @ended userId hends => exact ages_signedOut w userId
  | @begun single f u hwho hup =>
    have hin := ages_signedIn (w := w.cleared (s.rules single) u.id)
      (by rw [cleared_tokens_isDown, hup]) s.sessions u.id
    refine RowsAge.trans ?_ hin
    unfold World.cleared
    split
    · exact ages_signedOut w u.id
    · exact RowsAge.of_eq rfl

theorem ages_run (s : Setup) (w : World) (es : List Event) :
    w.tokens.Ages (s.run w es).tokens := by
  induction es generalizing w with
  | nil => exact RowsAge.of_eq rfl
  | cons e es ih => exact (ages_step s w e).trans (ih _)

/-- Right after a login that ended earlier sessions, its user has just the tokens from it. -/
theorem openTokens_login {s : Setup} {w : World} {f : LoginForm} {u : User}
    {receipt : LoginReceipt} (hwho : w.answer (identify f) = .ok u)
    (hlogin : w.answer (login (s.rules true) f) = .ok receipt) (kind : TokenKind) :
    (s.step w (.login true f)).tokens.openTokens kind u.id = [receipt.token kind] := by
  obtain ⟨hup, rfl, hafter⟩ := of_answer_login hwho hlogin
  change (w.after (login (s.rules true) f)).tokens.openTokens kind u.id = _
  rw [hafter]
  change ((w.signedOut u.id).signedIn s.sessions u.id).tokens.openTokens kind u.id = _
  rw [openTokens_signedIn (w := w.signedOut u.id) hup, openTokens_signedOut, if_pos rfl,
    if_pos rfl, pair_signedOut]
  rfl

/-- From an empty token store on, with logins that end earlier sessions and whatever goes out of
reach: nobody ever has two open tokens of a kind; right after a login that succeeds, its user has
just the tokens that it handed out; the numbers of the rows increase; and all earlier rows are still
there, unchanged but for a revocation, and a revoked row does not change at all. -/
theorem one_session_each (s : Setup) {w : World} (hw : w.tokens.rows = []) {es : List Event}
    (hsingle : ∀ e ∈ es, e.Single) :
    (∀ kind userId, ((s.run w es).tokens.openTokens kind userId).length ≤ 1) ∧
    (∀ before single f u receipt, es = before ++ [.login single f] →
      (s.run w before).answer (identify f) = .ok u →
      (s.run w before).answer (login (s.rules single) f) = .ok receipt →
      ∀ kind, (s.run w es).tokens.openTokens kind u.id = [receipt.token kind]) ∧
    (s.run w es).tokens.rows.Pairwise (fun t v => t.id < v.id) ∧
    ∀ before after, es = before ++ after →
      (s.run w before).tokens.Ages (s.run w es).tokens := by
  have hstart : w.tokens.Tidy := by
    refine ⟨?_, ?_, ?_⟩ <;> simp [TokenStore.openTokens, hw]
  have hall : s.Throughout (fun _ e => e.Single) w es := by
    rintro before e after rfl
    exact hsingle e (by simp)
  have htidy := hall.run (fun v => v.tokens.Tidy) tidy_step hstart
  refine ⟨htidy.single, ?_, htidy.ordered, ?_⟩
  · rintro before single f u receipt rfl hwho hlogin kind
    obtain rfl : single = true := hsingle (.login single f) (by simp)
    rw [Setup.run_concat]
    exact openTokens_login hwho hlogin kind
  · rintro before after rfl
    rw [Setup.run_append]
    exact ages_run s _ after

def karimsMorning : List Event := [.login true karimsForm, .cacheDown true, .logout 2]

theorem run_karimsMorning (s : Setup) : (s.run karimsDesk karimsMorning).users = karimsDesk.users ∧
    (s.run karimsDesk karimsMorning).tokens.isDown = false := by
  have hrest {w : World} (hup : w.tokens.isDown = false) :
      (s.run w [.cacheDown true, .logout 2]).users = w.users ∧
        (s.run w [.cacheDown true, .logout 2]).tokens.isDown = false := by
    have hlogout : s.step (s.step w (.cacheDown true)) (.logout 2) =
        (s.step w (.cacheDown true)).signedOut 2 := by
      change (s.step w (.cacheDown true)).after (logout 2) = _
      rw [World.after, perform_logout (w := s.step w (.cacheDown true)) hup]
    rw [Setup.run_cons, Setup.run_cons, hlogout]
    exact ⟨rfl, hup⟩
  have hsplit : karimsMorning = [.login true karimsForm] ++ [.cacheDown true, .logout 2] := rfl
  obtain ⟨husers, hup⟩ := hrest (inReach_karimsLogin s).2
  rw [hsplit, Setup.run_append]
  refine ⟨husers.trans ?_, hup⟩
  rw [run_karimsLogin]
  rfl

/-- A user logs in again while the cache is down and is left with the tokens of that login. -/
theorem karims_only_session :
    karimsDesk.tokens.rows = [] ∧
    (∀ e ∈ karimsMorning ++ [.login true karimsForm], e.Single) ∧
    (({} : Setup).run karimsDesk
      (karimsMorning ++ [.login true karimsForm])).tokens.rows.Pairwise (fun t v => t.id < v.id) ∧
    (∀ kind userId, ((({} : Setup).run karimsDesk
      (karimsMorning ++ [.login true karimsForm])).tokens.openTokens kind userId).length ≤ 1) ∧
    ∃ receipt, (({} : Setup).run karimsDesk karimsMorning).answer
        (login (({} : Setup).rules true) karimsForm) = .ok receipt ∧
      ∀ kind, (({} : Setup).run karimsDesk
        (karimsMorning ++ [.login true karimsForm])).tokens.openTokens kind karim.id =
          [receipt.token kind] := by
  have hsingle : ∀ e ∈ karimsMorning ++ [.login true karimsForm], e.Single := by
    simp [karimsMorning, Event.Single]
  obtain ⟨husers, hup⟩ := run_karimsMorning {}
  have hwho := (identify_of_users_eq husers karimsForm).trans identify_karim
  obtain ⟨-, receipt, -, -, hlogin, -⟩ := handsOut_login (s := {}) hup hwho true .access
  obtain ⟨hone, hreturned, hordered, -⟩ := one_session_each {} (w := karimsDesk) rfl hsingle
  exact ⟨rfl, hsingle, hordered, hone, receipt, hlogin,
    hreturned karimsMorning true karimsForm karim receipt rfl hwho hlogin⟩

end Desk

end ParcelDesk

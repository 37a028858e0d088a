import ParcelDesk.Proofs.SessionCalls
import ParcelDesk.Proofs.SignedTokens

/-!
The course of a visit: which ids of tokens it draws, and what it does, call by call, to the rows of
tokens and to the texts of the cache. Nothing is assumed about the answers that the visit gets, so
it may take the course among any other visits. With everything in reach there are four courses:
nothing at all, a gate that finds a token and notes it, a logout that clears the user's sessions,
and a login that clears them and then notes two tokens for ids of its own.
-/

namespace ParcelDesk

namespace Desk

inductive Act where
  | draw (tokenId : String)
  | revoke (kind : TokenKind) (userId : Int) (revoked : List StoredToken)
  | save (t : StoredToken)
  | find (kind : TokenKind) (userId : Int) (token : String)
  | write (key value : String)
  | erase (key : String)
  | fail

def Call.act? : {β : Type} → Call β → β → Option Act
  | _, .tokenId, drawn => some (.draw drawn)
  | _, .revokeTokens kind userId, .ok revoked => some (.revoke kind userId revoked)
  | _, .revokeTokens _ _, .error _ => some .fail
  | _, .saveToken t, .ok _ => some (.save t)
  | _, .saveToken _, .error _ => some .fail
  | _, .findToken kind userId token, .ok (some _) => some (.find kind userId token)
  | _, .findToken _ _ _, .error _ => some .fail
  | _, .cache key value _, .ok _ => some (.write key value)
  | _, .cache _ _ _, .error _ => some .fail
  | _, .uncache key, .ok _ => some (.erase key)
  | _, .uncache _, .error _ => some .fail
  | _, _, _ => none

end Desk

open Desk (Act Call Work)

/-- With some answers, the task takes the course and comes to its end. -/
def Task.Follows {α : Type} : Task Call α → List Act → α → Prop
  | done a, acts, b => acts = [] ∧ a = b
  | call c next, acts, b => ∃ x rest, acts = (c.act? x).toList ++ rest ∧ (next x).Follows rest b

theorem Task.of_follows_bind {α β : Type} {t : Task Call α} {f : α → Task Call β}
    {acts : List Act} {b : β} (h : (t >>= f).Follows acts b) :
    ∃ a first second, acts = first ++ second ∧ t.Follows first a ∧ (f a).Follows second b := by
  induction t generalizing acts with
  | done a => exact ⟨a, [], acts, rfl, ⟨rfl, rfl⟩, h⟩
  | call c next ih =>
    obtain ⟨x, rest, rfl, h⟩ := h
    obtain ⟨a, first, second, rfl, hfirst, hsecond⟩ := ih x h
    exact ⟨a, _, second, (List.append_assoc _ _ _).symm, ⟨x, first, rfl, hfirst⟩, hsecond⟩

namespace Desk

variable {α β : Type} {acts : List Act}

def Follows (a : Work α) (acts : List Act) (r : Except Failure α) : Prop :=
  Task.Follows (ExceptT.run a) acts r

theorem of_follows_bind {a : Work α} {f : α → Work β} {r : Except Failure β}
    (h : Follows (a >>= f) acts r) :
    (∃ e, Follows a acts (.error e) ∧ r = .error e) ∨
      ∃ x first second, acts = first ++ second ∧ Follows a first (.ok x) ∧
        Follows (f x) second r := by
  have hbind : (ExceptT.run a >>= ExceptT.bindCont f).Follows acts r := h
  obtain ⟨s, first, second, rfl, hfirst, hsecond⟩ := Task.of_follows_bind hbind
  cases s with
  | ok x => exact .inr ⟨x, first, second, rfl, hfirst, hsecond⟩
  | error e =>
    obtain ⟨rfl, rfl⟩ := hsecond
    exact .inl ⟨e, by rwa [List.append_nil], rfl⟩

theorem of_follows_pure {a : α} {r : Except Failure α} (h : Follows (pure a) acts r) :
    acts = [] ∧ r = .ok a := ⟨h.1, h.2.symm⟩

theorem of_follows_ofExcept {s r : Except Failure α} (h : Follows (Attempt.ofExcept s) acts r) :
    acts = [] ∧ r = s := ⟨h.1, h.2.symm⟩

theorem of_follows_of {c : Call (Except Failure α)} {r : Except Failure α}
    (h : Follows (Attempt.of c) acts r) : acts = (c.act? r).toList := by
  obtain ⟨x, rest, rfl, rfl, rfl⟩ := h
  exact List.append_nil _

theorem of_follows_ask {c : Call α} {r : Except Failure α} (h : Follows (ask c) acts r) :
    ∃ x, acts = (c.act? x).toList ∧ r = .ok x := by
  obtain ⟨x, rest, rfl, rfl, rfl⟩ := h
  exact ⟨x, List.append_nil _, rfl⟩

theorem of_follows_bestEffort {c : Call (Except Cache.Outage Unit)} {r : Except Failure Unit}
    (h : Follows (bestEffort c) acts r) : ∃ x, acts = (c.act? x).toList ∧ r = .ok () := by
  obtain ⟨x, rest, rfl, rfl, rfl⟩ := h
  exact ⟨x, List.append_nil _, rfl⟩

/-- What stands after a step that cannot fail. -/
theorem of_follows_bind_ok {a : Work α} {f : α → Work β} {r : Except Failure β}
    (hnever : ∀ acts e, ¬ Follows a acts (.error e)) (h : Follows (a >>= f) acts r) :
    ∃ x first second, acts = first ++ second ∧ Follows a first (.ok x) ∧
      Follows (f x) second r := by
  obtain ⟨e, herror, -⟩ | hok := of_follows_bind h
  · exact absurd herror (hnever acts e)
  · exact hok

theorem follows_ask_ne_error (c : Call α) (acts : List Act) (e : Failure) :
    ¬ Follows (ask c) acts (.error e) := by
  intro h
  obtain ⟨x, -, hr⟩ := of_follows_ask h
  cases hr

theorem follows_bestEffort_ne_error (c : Call (Except Cache.Outage Unit)) (acts : List Act)
    (e : Failure) : ¬ Follows (bestEffort c) acts (.error e) := by
  intro h
  obtain ⟨x, -, hr⟩ := of_follows_bestEffort h
  cases hr

def noting (t : StoredToken) : List Act :=
  [.save t, .write (Cache.tokenKey t.kind t.token) (ownerText t.userId)]

def clearing (userId : Int) (access refresh : List StoredToken) : List Act :=
  .revoke .access userId access :: .revoke .refresh userId refresh ::
    (Cache.sessionKey userId ::
      (access ++ refresh).map fun t => Cache.tokenKey t.kind t.token).map .erase

section Smooth

variable (hsmooth : .fail ∉ acts)

include hsmooth

theorem of_follows_forget {keys : List String} {r : Except Failure Unit}
    (h : Follows (forget keys) acts r) : acts = keys.map .erase ∧ r = .ok () := by
  induction keys generalizing acts with
  | nil => exact of_follows_pure h
  | cons key keys ih =>
    obtain ⟨_, first, second, rfl, herase, hrest⟩ :=
      of_follows_bind_ok (follows_bestEffort_ne_error _) h
    rw [List.mem_append, not_or] at hsmooth
    obtain ⟨x, rfl, -⟩ := of_follows_bestEffort herase
    obtain ⟨rfl, rfl⟩ := ih hsmooth.2 hrest
    cases x with
    | error outage => exact absurd List.mem_cons_self hsmooth.1
    | ok _ => exact ⟨rfl, rfl⟩

theorem of_follows_revoke {kind : TokenKind} {userId : Int} {r : Except Failure (List StoredToken)}
    (h : Follows (Attempt.of (.revokeTokens kind userId)) acts r) :
    ∃ revoked, acts = [.revoke kind userId revoked] ∧ r = .ok revoked := by
  obtain rfl := of_follows_of h
  cases r with
  | error e => exact absurd List.mem_cons_self hsmooth
  | ok revoked => exact ⟨revoked, rfl, rfl⟩

theorem of_follows_logout {userId : Int} {r : Except Failure Unit}
    (h : Follows (logout userId) acts r) :
    ∃ access refresh, acts = clearing userId access refresh ∧ r = .ok () := by
  obtain ⟨e, herror, -⟩ | ⟨access, first, rest, rfl, haccess, hrest⟩ := of_follows_bind h
  · obtain ⟨revoked, -, hr⟩ := of_follows_revoke hsmooth herror
    cases hr
  rw [List.mem_append, not_or] at hsmooth
  obtain ⟨revoked, rfl, hr⟩ := of_follows_revoke hsmooth.1 haccess
  obtain rfl := Except.ok.inj hr
  obtain ⟨e, herror, -⟩ | ⟨refresh, second, last, rfl, hrefresh, hlast⟩ := of_follows_bind hrest
  · obtain ⟨revoked, -, hr⟩ := of_follows_revoke hsmooth.2 herror
    cases hr
  rw [List.mem_append, not_or] at hsmooth
  obtain ⟨revoked, rfl, hr⟩ := of_follows_revoke hsmooth.2.1 hrefresh
  obtain rfl := Except.ok.inj hr
  obtain ⟨rfl, rfl⟩ := of_follows_forget hsmooth.2.2 hlast
  exact ⟨access, refresh, rfl, rfl⟩

theorem of_follows_keep {rules : SessionRules} {kind : TokenKind} {t : SignedToken} {userId : Int}
    {r : Except Failure Unit} (h : Follows (keep rules kind t userId) acts r) :
    ∃ row : StoredToken, row.kind = kind ∧ row.userId = userId ∧ row.isRevoked = false ∧
      row.token = t.text ∧ acts = noting row ∧ r = .ok () := by
  obtain ⟨now, first, rest, rfl, hnow, hrest⟩ := of_follows_bind_ok (follows_ask_ne_error _) h
  obtain ⟨instant, rfl, -⟩ := of_follows_ask hnow
  rw [List.mem_append, not_or] at hsmooth
  obtain ⟨e, herror, -⟩ | ⟨saved, second, last, rfl, hsaved, hlast⟩ := of_follows_bind hrest
  · obtain rfl := of_follows_of herror
    exact absurd List.mem_cons_self hsmooth.2
  obtain rfl := of_follows_of hsaved
  obtain ⟨x, rfl, rfl⟩ := of_follows_bestEffort hlast
  cases x with
  | error outage => exact absurd (by simp [Call.act?]) hsmooth.2
  | ok _ =>
    exact ⟨⟨0, kind, t.text, userId, t.claims.expiry now, now, none⟩, rfl, rfl, rfl, rfl, rfl,
      rfl⟩

omit hsmooth

theorem of_follows_identify {f : LoginForm} {r : Except Failure User}
    (h : Follows (identify f) acts r) : acts = [] := by
  unfold identify at h
  dsimp only at h
  split at h
  · exact And.left h
  · obtain ⟨e, herror, -⟩ | ⟨found, first, rest, rfl, hfound, hrest⟩ := of_follows_bind h
    · exact of_follows_of herror
    obtain rfl := of_follows_of hfound
    cases found with
    | none => exact And.left hrest
    | some u =>
      dsimp only at hrest
      split at hrest
      · exact And.left hrest
      · exact And.left hrest

theorem of_follows_issue {secret : String} {userId lifetime : Int} {r : Except Failure SignedToken}
    (h : Follows (issue secret userId lifetime) acts r) :
    ∃ now id, acts = [.draw id] ∧ r = .ok (Jwt.issue secret userId lifetime now id) := by
  obtain ⟨now, first, rest, rfl, hnow, hrest⟩ := of_follows_bind_ok (follows_ask_ne_error _) h
  obtain ⟨instant, rfl, -⟩ := of_follows_ask hnow
  obtain ⟨id, second, last, rfl, hid, hlast⟩ := of_follows_bind_ok (follows_ask_ne_error _) hrest
  obtain ⟨text, rfl, hr⟩ := of_follows_ask hid
  obtain rfl := Except.ok.inj hr
  obtain ⟨rfl, rfl⟩ := of_follows_pure hlast
  exact ⟨now, id, rfl, rfl⟩

theorem of_follows_issuePair {t : TokenSettings} {userId : Int} {r : Except Failure TokenPair}
    (h : Follows (issuePair t userId) acts r) :
    ∃ now later one two, acts = [.draw one, .draw two] ∧
      r = .ok ⟨Jwt.issue t.secret userId t.accessLifetime now one,
        Jwt.issue t.secret userId t.refreshLifetime later two⟩ := by
  have hnever (secret : String) (lifetime : Int) (acts : List Act) (e : Failure) :
      ¬ Follows (issue secret userId lifetime) acts (.error e) := by
    intro hissue
    obtain ⟨now, id, -, hr⟩ := of_follows_issue hissue
    cases hr
  obtain ⟨access, first, rest, rfl, haccess, hrest⟩ := of_follows_bind_ok (hnever _ _) h
  obtain ⟨now, one, rfl, hone⟩ := of_follows_issue haccess
  obtain rfl := Except.ok.inj hone
  obtain ⟨refresh, second, last, rfl, hrefresh, hlast⟩ := of_follows_bind_ok (hnever _ _) hrest
  obtain ⟨later, two, rfl, htwo⟩ := of_follows_issue hrefresh
  obtain rfl := Except.ok.inj htwo
  obtain ⟨rfl, rfl⟩ := of_follows_pure hlast
  exact ⟨now, later, one, two, rfl, rfl⟩

end Smooth

end Desk

def StoredToken.IsFor (id : String) (t : StoredToken) : Prop :=
  ∃ secret c, t.token = Jwt.encode secret c ∧ c.tokenId = id

theorem StoredToken.IsFor.unique {t u : StoredToken} {one two : String} (ht : t.IsFor one)
    (hu : u.IsFor two) (h : t.token = u.token) : one = two := by
  obtain ⟨secret, c, htoken, rfl⟩ := ht
  obtain ⟨other, d, hother, rfl⟩ := hu
  rw [Jwt.encode_injective (htoken.symm.trans (h.trans hother))]

namespace Desk

/-- What a visit does with everything in reach. -/
inductive Course : List Act → Prop
  | nothing : Course []
  | gate (userId : Int) (token : String) :
      Course [.find .access userId token,
        .write (Cache.tokenKey .access token) (ownerText userId)]
  | logout (userId : Int) (access refresh : List StoredToken) :
      Course (clearing userId access refresh)
  | login {userId : Int} (access refresh : List StoredToken) {one two : String}
      {t u : StoredToken} (haccess : t.kind = .access) (howner : t.userId = userId)
      (hnew : t.isRevoked = false) (hone : t.IsFor one) (hrefresh : u.kind = .refresh)
      (htwo : u.IsFor two) :
      Course (clearing userId access refresh ++
        ([.draw one, .draw two] ++ (noting t ++ noting u)))

theorem course_authenticate {rules : SessionRules} {token : String} {r : Except Failure Claims}
    (hsmooth : .fail ∉ acts) (h : Follows (authenticate rules token) acts r) : Course acts := by
  obtain ⟨now, first, rest, rfl, hnow, hrest⟩ := of_follows_bind_ok (follows_ask_ne_error _) h
  obtain ⟨instant, rfl, -⟩ := of_follows_ask hnow
  obtain ⟨e, hflaw, -⟩ | ⟨claims, second, last, rfl, hclaims, hlast⟩ := of_follows_bind hrest
  · obtain ⟨rfl, -⟩ := of_follows_ofExcept hflaw
    exact .nothing
  obtain ⟨rfl, -⟩ := of_follows_ofExcept hclaims
  obtain ⟨cached, third, found, rfl, hcached, hfound⟩ :=
    of_follows_bind_ok (follows_ask_ne_error _) hlast
  obtain ⟨text, rfl, -⟩ := of_follows_ask hcached
  split at hfound
  · obtain ⟨rfl, -⟩ := of_follows_pure hfound
    exact .nothing
  obtain ⟨e, herror, -⟩ | ⟨row, fourth, noted, rfl, hrow, hnoted⟩ := of_follows_bind hfound
  · obtain rfl := of_follows_of herror
    exact absurd List.mem_cons_self hsmooth
  obtain rfl := of_follows_of hrow
  cases row with
  | none =>
    obtain rfl : noted = [] := And.left hnoted
    exact .nothing
  | some row =>
    obtain ⟨_, fifth, none, rfl, hwrite, hnone⟩ :=
      of_follows_bind_ok (follows_bestEffort_ne_error _) hnoted
    obtain ⟨x, rfl, -⟩ := of_follows_bestEffort hwrite
    obtain ⟨rfl, -⟩ := of_follows_pure hnone
    cases x with
    | error outage => exact absurd (by simp [Call.act?]) hsmooth
    | ok _ => exact .gate claims.userId token

/-- A login that ends earlier sessions does so before it saves anything. -/
theorem course_login {rules : SessionRules} (hsingle : rules.single = true) {f : LoginForm}
    {r : Except Failure LoginReceipt} (hsmooth : .fail ∉ acts)
    (h : Follows (login rules f) acts r) : Course acts := by
  obtain ⟨e, herror, -⟩ | ⟨u, first, rest, rfl, hwho, hrest⟩ := of_follows_bind h
  · obtain rfl := of_follows_identify herror
    exact .nothing
  obtain rfl := of_follows_identify hwho
  simp only [hsingle, ↓reduceIte] at hrest
  obtain ⟨e, herror, -⟩ | ⟨_, cleared, signing, rfl, hcleared, hsigning⟩ := of_follows_bind hrest
  · obtain ⟨access, refresh, -, hr⟩ := of_follows_logout hsmooth herror
    cases hr
  rw [List.nil_append, List.mem_append, not_or] at hsmooth
  obtain ⟨access, refresh, rfl, -⟩ := of_follows_logout hsmooth.1 hcleared
  obtain ⟨e, herror, -⟩ | ⟨pair, issued, keeping, rfl, hissued, hkeeping⟩ :=
    of_follows_bind hsigning
  · obtain ⟨now, later, one, two, -, hr⟩ := of_follows_issuePair herror
    cases hr
  obtain ⟨now, later, one, two, rfl, hpair⟩ := of_follows_issuePair hissued
  obtain rfl := Except.ok.inj hpair
  have hkept : .fail ∉ keeping := fun hfail => hsmooth.2 (List.mem_append_right _ hfail)
  obtain ⟨e, herror, -⟩ | ⟨_, own, others, rfl, hown, hothers⟩ := of_follows_bind hkeeping
  · obtain ⟨row, -, -, -, -, -, hr⟩ := of_follows_keep hkept herror
    cases hr
  rw [List.mem_append, not_or] at hkept
  obtain ⟨t, hkind, howner, hnew, htext, rfl, -⟩ := of_follows_keep hkept.1 hown
  obtain ⟨e, herror, -⟩ | ⟨_, last, none, rfl, hlast, hnone⟩ := of_follows_bind hothers
  · obtain ⟨row, -, -, -, -, -, hr⟩ := of_follows_keep hkept.2 herror
    cases hr
  rw [List.mem_append, not_or] at hkept
  obtain ⟨v, hrefresh, -, -, hother, rfl, -⟩ := of_follows_keep hkept.2.1 hlast
  obtain ⟨rfl, -⟩ := of_follows_pure hnone
  rw [List.nil_append, List.append_nil]
  exact .login access refresh hkind howner hnew ⟨_, _, htext, rfl⟩ hrefresh ⟨_, _, hother, rfl⟩

inductive Visit where
  | login (f : LoginForm)
  | logout (userId : Int)
  | authenticate (token : String)

def ended {α : Type} (a : Work α) : Task Call Unit := ExceptT.run a >>= fun _ => pure ()

def Visit.task (rules : SessionRules) : Visit → Task Call Unit
  | .login f => ended (Desk.login rules f)
  | .logout userId => ended (Desk.logout userId)
  | .authenticate token => ended (Desk.authenticate rules token)

theorem of_follows_ended {a : Work α} (h : (ended a).Follows acts ()) : ∃ r, Follows a acts r := by
  obtain ⟨r, first, rest, rfl, hfirst, hrest⟩ := Task.of_follows_bind h
  obtain rfl : rest = [] := hrest.1
  exact ⟨r, by rwa [List.append_nil]⟩

theorem course_of_follows {rules : SessionRules} (hsingle : rules.single = true) {visit : Visit}
    (hsmooth : .fail ∉ acts) (h : (visit.task rules).Follows acts ()) : Course acts := by
  cases visit with
  | login f =>
    obtain ⟨r, h⟩ := of_follows_ended h
    exact course_login hsingle hsmooth h
  | logout userId =>
    obtain ⟨r, h⟩ := of_follows_ended h
    obtain ⟨access, refresh, rfl, -⟩ := of_follows_logout hsmooth h
    exact .logout userId access refresh
  | authenticate token =>
    obtain ⟨r, h⟩ := of_follows_ended h
    exact course_authenticate hsmooth h

def Act.drawn? : Act → Option String
  | .draw id => some id
  | _ => none

def Act.saved? : Act → Option StoredToken
  | .save t => some t
  | _ => none

/-- The act shows that the token of the user counted: it was found, or it was saved. -/
inductive Act.Vouches (userId : Int) (token : String) : Act → Prop
  | find : Vouches userId token (.find .access userId token)
  | save {t : StoredToken} (hkind : t.kind = .access) (howner : t.userId = userId)
      (htoken : t.token = token) (hnew : t.isRevoked = false) : Vouches userId token (.save t)

/-- What does not stand in the first part of a list stands behind it. -/
theorem split_behind {γ : Type} {x : γ} {front back before after : List γ} (hx : x ∉ front)
    (h : front ++ back = before ++ x :: after) :
    ∃ behind, before = front ++ behind ∧ back = behind ++ x :: after := by
  obtain ⟨behind, hbefore, hback⟩ | ⟨middle, hfront, hafter⟩ := List.append_eq_append_iff.mp h
  · exact ⟨behind, hbefore, hback⟩
  · cases middle with
    | nil =>
      rw [List.append_nil] at hfront
      exact ⟨[], by rw [hfront, List.append_nil], hafter.symm⟩
    | cons y middle =>
      obtain ⟨rfl, -⟩ := List.cons.inj hafter
      exact absurd (by simp [hfront]) hx

/-- What does not stand in the rest of a list stands in front of it. -/
theorem split_ahead {γ : Type} {x y : γ} {rest before after : List γ} (hx : x ∉ rest)
    (h : y :: rest = before ++ x :: after) : y = x ∧ rest = after := by
  cases before with
  | nil => exact List.cons.inj h
  | cons z before =>
    obtain ⟨-, rfl⟩ := List.cons.inj h
    exact absurd (List.mem_append_right before List.mem_cons_self) hx

namespace Course

variable {before after : List Act} {userId : Int} {revoked : List StoredToken} {token text : String}

/-- What a visit revokes, it takes out of the cache afterwards. -/
theorem erases (h : Course acts) (hacts : acts = before ++ .revoke .access userId revoked :: after)
    {t : StoredToken} (ht : t ∈ revoked) : .erase (Cache.tokenKey t.kind t.token) ∈ after := by
  have hrevoke : .revoke .access userId revoked ∈ acts := by
    rw [hacts]
    simp
  -- nothing behind the first act revokes access tokens
  have hclearing {other : Int} {access refresh : List StoredToken} {rest : List Act}
      (hrest : .revoke .access userId revoked ∉ rest)
      (hacts : clearing other access refresh ++ rest =
        before ++ .revoke .access userId revoked :: after) :
      .erase (Cache.tokenKey t.kind t.token) ∈ after := by
    obtain ⟨hfirst, rfl⟩ := split_ahead (by simp [hrest]) hacts
    obtain ⟨-, -, rfl⟩ := Act.revoke.inj hfirst
    refine List.mem_append_left _ (List.mem_cons_of_mem _ (List.mem_map_of_mem ?_))
    exact List.mem_cons_of_mem _ (List.mem_map.mpr ⟨t, List.mem_append_left _ ht, rfl⟩)
  cases h with
  | nothing => simp at hrevoke
  | gate other known => simp at hrevoke
  | logout other access refresh =>
    exact hclearing List.not_mem_nil ((List.append_nil _).trans hacts)
  | login access refresh haccess howner hnew hone hrefresh htwo =>
    exact hclearing (by simp [noting]) hacts

/-- An owner is written into the cache right after the visit has found or saved the token. -/
theorem vouched (h : Course acts)
    (hacts : acts = before ++ .write (Cache.tokenKey .access token) text :: after) :
    ∃ earlier act owner, before = earlier ++ [act] ∧ act.Vouches owner token ∧
      text = ownerText owner := by
  have hwrite : .write (Cache.tokenKey .access token) text ∈ acts := by
    rw [hacts]
    simp
  cases h with
  | nothing => simp at hwrite
  | logout other access refresh => simp [clearing] at hwrite
  | gate other known =>
    match before, hacts with
    | [_], hacts =>
      simp only [List.cons_append, List.nil_append, List.cons.injEq, Act.write.injEq] at hacts
      obtain ⟨rfl, ⟨hkey, rfl⟩, -⟩ := hacts
      obtain ⟨-, rfl⟩ := Cache.tokenKey_inj hkey
      exact ⟨[], _, other, rfl, .find, rfl⟩
    | _ :: _ :: _, hacts => simp at hacts
  | @login userId access refresh one two t u haccess howner hnew hone hrefresh htwo =>
    have hfront : .write (Cache.tokenKey .access token) text ∉
        clearing userId access refresh ++ [.draw one, .draw two] := by simp [clearing]
    rw [← List.append_assoc] at hacts
    obtain ⟨behind, rfl, hnoting⟩ := split_behind hfront hacts
    match behind, hnoting with
    | [_], hnoting =>
      simp only [noting, List.cons_append, List.nil_append, List.cons.injEq,
        Act.write.injEq] at hnoting
      obtain ⟨rfl, ⟨hkey, rfl⟩, -⟩ := hnoting
      obtain ⟨-, rfl⟩ := Cache.tokenKey_inj hkey
      exact ⟨_, _, t.userId, rfl, .save haccess rfl rfl hnew, rfl⟩
    | [_, _, _], hnoting =>
      simp only [noting, List.cons_append, List.nil_append, List.cons.injEq,
        Act.write.injEq] at hnoting
      obtain ⟨-, -, -, ⟨hkey, -⟩, -⟩ := hnoting
      obtain ⟨hkind, -⟩ := Cache.tokenKey_inj hkey
      rw [hrefresh] at hkind
      cases hkind
    | [_, _], hnoting => simp [noting] at hnoting
    | _ :: _ :: _ :: _ :: _, hnoting => simp [noting] at hnoting

/-- An access token is saved by a visit that has revoked the user's others, and only one is. -/
theorem saves (h : Course acts) {t : StoredToken} (ht : .save t ∈ acts) (hkind : t.kind = .access) :
    (∃ revoked, .revoke .access t.userId revoked ∈ acts) ∧
      ∀ u : StoredToken, .save u ∈ acts → u.kind = .access → u = t := by
  cases h with
  | nothing => simp at ht
  | gate other known => simp at ht
  | logout other access refresh => simp [clearing] at ht
  | @login userId access refresh one two v x haccess howner hnew hone hrefresh htwo =>
    have hown {u : StoredToken} (hu : .save u ∈ clearing userId access refresh ++
        ([.draw one, .draw two] ++ (noting v ++ noting x))) (hkind : u.kind = .access) : u = v := by
      simp only [clearing, noting, List.mem_append, List.mem_cons, List.mem_map, reduceCtorEq,
        and_false, exists_false, false_or, or_false, Act.save.injEq, List.not_mem_nil] at hu
      obtain rfl | rfl := hu
      · rfl
      · rw [hrefresh] at hkind
        cases hkind
    obtain rfl := hown ht hkind
    refine ⟨⟨access, ?_⟩, fun u hu hukind => hown hu hukind⟩
    rw [howner]
    exact List.mem_append_left _ List.mem_cons_self

/-- Every token that a visit saves is for an id that the visit drew. -/
theorem draws (h : Course acts) {t : StoredToken} (ht : .save t ∈ acts) :
    ∃ id, .draw id ∈ acts ∧ t.IsFor id := by
  cases h with
  | nothing => simp at ht
  | gate other known => simp at ht
  | logout other access refresh => simp [clearing] at ht
  | @login userId access refresh one two v x haccess howner hnew hone hrefresh htwo =>
    simp only [clearing, noting, List.mem_append, List.mem_cons, List.mem_map, reduceCtorEq,
      and_false, exists_false, false_or, or_false, Act.save.injEq, List.not_mem_nil] at ht
    obtain rfl | rfl := ht
    · exact ⟨one, by simp, hone⟩
    · exact ⟨two, by simp, htwo⟩

/-- A visit that draws different ids saves different tokens. -/
theorem saves_apart (h : Course acts) (hdrawn : (acts.filterMap Act.drawn?).Nodup) :
    ((acts.filterMap Act.saved?).map StoredToken.token).Nodup := by
  have hcleared (userId : Int) (access refresh : List StoredToken) :
      (clearing userId access refresh).filterMap Act.saved? = [] := by
    refine List.filterMap_eq_nil_iff.mpr fun act hact => ?_
    simp only [clearing, List.mem_cons, List.mem_map] at hact
    obtain rfl | rfl | ⟨key, -, rfl⟩ := hact <;> rfl
  cases h with
  | nothing => exact List.nodup_nil
  | gate other known => exact List.nodup_nil
  | logout other access refresh =>
    rw [hcleared]
    exact List.nodup_nil
  | @login userId access refresh one two v x haccess howner hnew hone hrefresh htwo =>
    have hids : one ≠ two := by
      rw [List.filterMap_append] at hdrawn
      have hown : [one, two].Nodup := (List.nodup_append.mp hdrawn).2.1
      simpa using hown
    have htokens : v.token ≠ x.token := fun hsame => hids (hone.unique htwo hsame)
    rw [List.filterMap_append, hcleared]
    change [v.token, x.token].Nodup
    simpa using htokens

end Course

end Desk

end ParcelDesk

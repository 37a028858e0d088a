import ParcelDesk.Proofs.Revocation
import ParcelDesk.Proofs.TokenSteps

/-!
Refresh tokens are no access tokens. Both are signed under one secret and carry the same claims, so
a refresh token passes every check of the token itself. What keeps it out is what the desk has
written down: the kind in the rows, and the kind in the keys of the cache, which knows access tokens
only from their rows.
-/

namespace ParcelDesk.Desk

open World

/-- Whatever the cache has under the key of an access token, expired or not, some row for an access
token stands behind it. -/
def World.Backed (w : World) : Prop :=
  ∀ token e, w.cache.texts.lookup (Cache.tokenKey .access token) = some e →
    ∃ t ∈ w.tokens.rows, t.kind = .access ∧ t.token = token

theorem backed_keeps (s : Setup) : s.Keeps (fun _ => True) World.Backed where
  alike h hw token e he := by
    rw [h.texts] at he
    rw [h.rows]
    exact hw token e he
  signOut {w} u _ hw token e he := by
    obtain ⟨t, ht, hkind, htoken⟩ := hw token e (Cache.Memory.lookup_of_lookup_deleteAll he)
    refine ⟨revokedFor u w.clock t, List.mem_map_of_mem ht, ?_, ?_⟩
    · rw [revokedFor_kind, hkind]
    · rw [revokedFor_token, htoken]
  signIn {w} u hup hw token e he := by
    rw [rows_signedIn hup]
    rcases of_lookup_signedIn he with hold | ⟨rfl, -⟩
    · obtain ⟨t, ht, hrow⟩ := hw token e hold
      exact ⟨t, List.mem_append_left _ ht, hrow⟩
    · exact ⟨_, List.mem_append_right _ List.mem_cons_self, rfl, rfl⟩
  remind {w shown userId} hlive hw token e he := by
    rcases Cache.Memory.lookup_of_lookup_set he with hold | ⟨hkey, -⟩
    · exact hw token e hold
    · obtain ⟨t, ht, hkind, -, htoken, -⟩ := hlive
      exact ⟨t, ht, hkind, htoken.trans (Cache.tokenKey_inj hkey).2.symm⟩

/-- The two tokens of a pair are different, whatever their lifetimes, as their ids are. -/
theorem access_ne_refresh {secret : String} {w : World} (h : w.Minted secret) (t : TokenSettings)
    (userId : Int) : (w.pair t userId).access.text ≠ (w.pair t userId).refresh.text := by
  intro hsame
  have hclaims := Jwt.encode_injective hsame
  have hid := h.tokenId (congrArg Claims.tokenId hclaims)
  omega

/-- To the gate a fresh refresh token is like one that was revoked and has faded long ago: there is
neither an access row for it nor anything in the cache under its key as an access token. -/
theorem fading_signedIn_refresh {s : Setup} {w : World} (hup : w.tokens.isDown = false)
    (hminted : w.Minted s.sessions.token.secret) (hbacked : w.Backed) (userId : Int) :
    (w.signedIn s.sessions userId).Fading s.sessions.token.secret
      (w.pair s.sessions.token userId).refresh.text 0 := by
  have hdistinct := access_ne_refresh hminted s.sessions.token userId
  have hunknown := hminted.unknown s.sessions.token.secret
    (c := (w.pair s.sessions.token userId).refresh.claims) (n := w.chance.tokenIds + 1) rfl
    (Nat.le_succ _)
  refine ⟨(minted_keeps s).signIn userId hup hminted, ?_, ?_, ?_⟩
  · rw [rows_signedIn hup]
    exact ⟨_, List.mem_append_right _ (List.mem_cons_of_mem _ List.mem_cons_self), rfl⟩
  · intro t ht hkind htoken
    rw [rows_signedIn hup, List.mem_append, List.mem_cons, List.mem_singleton] at ht
    rcases ht with hold | rfl | rfl
    · exact absurd htoken (hunknown t hold)
    · exact absurd htoken hdistinct
    · cases hkind
  · intro e he
    rcases of_lookup_signedIn he with hold | ⟨hsame, -⟩
    · obtain ⟨t, ht, -, htoken⟩ := hbacked _ e hold
      exact absurd htoken (hunknown t ht)
    · exact absurd hsame.symm hdistinct

/-- So it is after the login that hands a refresh token out. -/
theorem fading_of_handsOut {s : Setup} {w : World} {userId : Int} {token : String} {e : Event}
    (hminted : w.Minted s.sessions.token.secret) (hbacked : w.Backed)
    (h : s.HandsOut w .refresh userId token e) :
    (s.step w e).Fading s.sessions.token.secret token 0 := by
  cases e with
  | login single f =>
    obtain ⟨u, receipt, hwho, -, hanswer, rfl⟩ := h
    obtain ⟨hup, rfl, hafter⟩ := of_answer_login hwho hanswer
    change (w.after (login (s.rules single) f)).Fading _ _ _
    rw [hafter, ← pair_cleared w (s.rules single) u.id]
    refine fading_signedIn_refresh (s := s) (by rw [cleared_tokens_isDown, hup]) ?_ ?_ u.id
    · unfold World.cleared
      split
      · exact (minted_keeps s).signOut u.id trivial hminted
      · exact hminted
    · unfold World.cleared
      split
      · exact (backed_keeps s).signOut u.id trivial hbacked
      · exact hbacked
  | _ => exact h.elim

/-- Whatever happens from a fresh world on, and whatever lifetimes the tokens of a pair have: the
gate never takes a refresh token that was handed out, for any user. -/
theorem refresh_tokens_stay_outside (s : Setup) {w : World} (hw : w.IsFresh) {es : List Event}
    {userId : Int} {token : String} (hissued : s.Issued w es .refresh userId token) (c : Claims) :
    (s.run w es).answer (authenticate s.sessions token) ≠ .ok c := by
  obtain ⟨before, e, after, rfl, hout⟩ := hissued
  have hbacked : (s.run w before).Backed :=
    (backed_keeps s).run_always before (by simp [World.Backed, hw.texts])
  have hfading := fading_of_handsOut (minted_run s hw before) hbacked hout
  rw [Setup.run_append]
  exact ((fading_keeps s token 0).run_always after hfading).rejected s.sessions
    (Nat.zero_le _) c

def evenSetup : Setup where
  sessions := { token := { refreshLifetime := 3600 } }

def karimsRefreshToken : SignedToken := (karimsDesk.pair evenSetup.sessions.token karim.id).refresh

theorem issued_karimsRefreshToken :
    evenSetup.Issued karimsDesk [.login true karimsForm] .refresh karim.id
      karimsRefreshToken.text :=
  ⟨[], _, [], rfl, handsOut_login rfl identify_karim true .refresh⟩

/-- The refresh token is properly signed and has as long to live as the access token. Only the gate
turns it away. -/
theorem karims_refresh_token_stays_outside :
    karimsDesk.IsFresh ∧
    evenSetup.Issued karimsDesk [.login true karimsForm] .refresh karim.id
      karimsRefreshToken.text ∧
    Jwt.verify evenSetup.sessions.token.secret karimsDesk.clock karimsRefreshToken.text =
      .ok karimsRefreshToken.claims ∧
    (evenSetup.run karimsDesk [.login true karimsForm]).answer
      (authenticate evenSetup.sessions karimsRefreshToken.text) ≠
        .ok karimsRefreshToken.claims := by
  have hfits : karimsRefreshToken.claims.Fits := by
    have hclaims : karimsRefreshToken.claims.userId = 1 ∧
        karimsRefreshToken.claims.issuedAt = 1760000000 ∧
        karimsRefreshToken.claims.expiresAt = 1760003600 := ⟨rfl, rfl, rfl⟩
    obtain ⟨huser, hissued, hexpires⟩ := hclaims
    refine ⟨?_, ?_, ?_⟩
    · rw [huser]
      exact ⟨by decide, by decide⟩
    · rw [hissued]
      exact ⟨by decide, by decide⟩
    · rw [hexpires]
      exact ⟨by decide, by decide⟩
  have hverify : Jwt.verify evenSetup.sessions.token.secret karimsDesk.clock
      karimsRefreshToken.text = .ok karimsRefreshToken.claims :=
    Jwt.verify_encode_fits hfits (by decide) (by decide) _
  exact ⟨isFresh_karimsDesk, issued_karimsRefreshToken, hverify,
    refresh_tokens_stay_outside evenSetup isFresh_karimsDesk issued_karimsRefreshToken _⟩

end ParcelDesk.Desk

import ParcelDesk.Proofs.Logins

/-!
Revocation holds. As long as the cache can be reached when sessions end, it mirrors no token that
the token store has revoked. When it cannot, a mirror may be left over, but nobody renews it: a
revoked token fades with the last entry that was written for it, and is never taken again.
-/

namespace ParcelDesk.Desk

open World

theorem ownerText_injective : Function.Injective ownerText := fun _ _ h =>
  Decimal.integerDigits_injective (String.ofList_injective h)

/-- What the cache has for a key after a sign-in was there before, or it is the fresh token's. -/
theorem of_lookup_signedIn {w : World} {r : SessionRules} {userId : Int} {token : String}
    {e : Cache.Expiring}
    (h : (w.signedIn r userId).cache.texts.lookup (Cache.tokenKey .access token) = some e) :
    w.cache.texts.lookup (Cache.tokenKey .access token) = some e ∨
      token = (w.pair r.token userId).access.text ∧
        e = ⟨ownerText userId, w.cache.clock + r.cacheLifetime * 1000⟩ := by
  rcases Cache.Memory.lookup_of_lookup_set h with hfirst | ⟨hkey, -⟩
  · rcases Cache.Memory.lookup_of_lookup_set hfirst with hold | ⟨hkey, hentry⟩
    · exact .inl hold
    · exact .inr ⟨(Cache.tokenKey_inj hkey).2, hentry⟩
  · cases (Cache.tokenKey_inj hkey).1

theorem mem_signOutKeys {w : World} {userId : Int} {t : StoredToken} (ht : t ∈ w.tokens.rows)
    (howner : t.userId = userId) (hopen : t.isRevoked = false) :
    Cache.tokenKey t.kind t.token ∈ w.signOutKeys userId := by
  refine List.mem_cons_of_mem _ (List.mem_map.mpr ⟨t, ?_, rfl⟩)
  rw [List.mem_append, List.mem_filter, List.mem_filter, isOpen_iff, isOpen_iff]
  cases hkind : t.kind with
  | access => exact .inl ⟨ht, rfl, howner, hopen⟩
  | refresh => exact .inr ⟨ht, rfl, howner, hopen⟩

/-- Whatever the cache has for an access token, expired or not, names the owner of a row for the
token that is not revoked. -/
def World.Mirrored (w : World) : Prop :=
  ∀ token e, w.cache.texts.lookup (Cache.tokenKey .access token) = some e →
    ∃ t ∈ w.tokens.rows, t.kind = .access ∧ t.token = token ∧ t.isRevoked = false ∧
      e.value = ownerText t.userId

/-- The cache mirrors the token store if it can be reached whenever sessions end. -/
theorem mirrored_keeps (s : Setup) :
    s.Keeps (fun w => w.cache.isDown = false) World.Mirrored where
  alike h hw token e he := by
    rw [h.texts] at he
    rw [h.rows]
    exact hw token e he
  signOut {w} u hup hw token e he := by
    change (w.cache.deleteAll _).texts.lookup _ = some e at he
    rw [Cache.Memory.lookup_deleteAll hup] at he
    split at he
    · simp at he
    · rename_i hkept
      obtain ⟨t, ht, hkind, rfl, hopen, hvalue⟩ := hw token e he
      have hother : t.userId ≠ u := fun howner =>
        hkept (hkind ▸ mem_signOutKeys ht howner hopen)
      have hstays : revokedFor u w.clock t = t := if_neg fun hown => hother hown.1
      exact ⟨t, List.mem_map.mpr ⟨t, ht, hstays⟩, hkind, rfl, hopen, hvalue⟩
  signIn {w} u hup hw token e he := by
    rw [rows_signedIn hup]
    rcases of_lookup_signedIn he with hold | ⟨rfl, rfl⟩
    · obtain ⟨t, ht, hrow⟩ := hw token e hold
      exact ⟨t, List.mem_append_left _ ht, hrow⟩
    · exact ⟨_, List.mem_append_right _ List.mem_cons_self, rfl, rfl, rfl, rfl⟩
  remind {w shown userId} hlive hw token e he := by
    rcases Cache.Memory.lookup_of_lookup_set he with hold | ⟨hkey, rfl⟩
    · exact hw token e hold
    · obtain ⟨t, ht, hkind, howner, htoken, hactive⟩ := hlive
      have hopen : t.isRevoked = false := by
        simp only [StoredToken.isActive, Bool.and_eq_true, Bool.not_eq_true'] at hactive
        exact hactive.1
      exact ⟨t, ht, hkind, htoken.trans (Cache.tokenKey_inj hkey).2.symm, hopen, by rw [howner]⟩

def World.Bounded (seconds : Nat) (w : World) : Prop :=
  ∀ token e, w.cache.texts.lookup (Cache.tokenKey .access token) = some e →
    e.expiresAt ≤ w.cache.clock + seconds * 1000

theorem bounded_keeps (s : Setup) :
    s.Keeps (fun _ => True) (World.Bounded s.sessions.cacheLifetime) where
  alike h hw token e he := by
    have hbefore := hw token e (h.texts ▸ he)
    have hclock := h.clock
    omega
  signOut {w} u _ hw token e he := by
    rw [signedOut_cache_clock]
    exact hw token e (Cache.Memory.lookup_of_lookup_deleteAll he)
  signIn {w} u _ hw token e he := by
    rw [signedIn_cache_clock]
    rcases of_lookup_signedIn he with hold | ⟨-, rfl⟩
    · exact hw token e hold
    · exact Nat.le_refl _
  remind {w shown userId} _ hw token e he := by
    rw [remembered_cache_clock]
    rcases Cache.Memory.lookup_of_lookup_set he with hold | ⟨-, rfl⟩
    · exact hw token e hold
    · exact Nat.le_refl _

/-- The token has been issued, all its rows are revoked, and what the cache still has for it is
gone by the deadline. -/
structure World.Fading (secret token : String) (deadline : Nat) (w : World) : Prop where
  minted : w.Minted secret
  known : ∃ t ∈ w.tokens.rows, t.token = token
  revoked : ∀ t ∈ w.tokens.rows, t.kind = .access → t.token = token → t.isRevoked = true
  mirror : ∀ e, w.cache.texts.lookup (Cache.tokenKey .access token) = some e →
    e.expiresAt ≤ deadline

namespace World.Fading

variable {secret token : String} {deadline : Nat} {w : World}

/-- No row of a fading token is live. -/
theorem not_live (h : w.Fading secret token deadline) (userId : Int) : ¬ w.Live token userId := by
  rintro ⟨t, ht, hkind, -, htoken, hactive⟩
  have hrevoked := h.revoked t ht hkind htoken
  simp [StoredToken.isActive, hrevoked] at hactive

/-- A fading token is no longer taken once the deadline has come, whatever is in reach. -/
theorem rejected (h : w.Fading secret token deadline) (r : SessionRules)
    (hclock : deadline ≤ w.cache.clock) (c : Claims) :
    w.answer (authenticate r token) ≠ .ok c := by
  intro hanswer
  obtain ⟨-, hmirror | ⟨-, hlive⟩⟩ := (authenticate_iff w r token c).mp hanswer
  · obtain ⟨e, he, hunexpired, -⟩ := Cache.Memory.text?_eq_some hmirror.owner
    have hbound := h.mirror e he
    omega
  · exact h.not_live c.userId hlive

end World.Fading

/-- A token that fades goes on fading, whatever happens. -/
theorem fading_keeps (s : Setup) (token : String) (deadline : Nat) :
    s.Keeps (fun _ => True) (World.Fading s.sessions.token.secret token deadline) where
  alike h hw := by
    refine ⟨(minted_keeps s).alike h hw.minted, ?_, ?_, ?_⟩
    · rw [h.rows]
      exact hw.known
    · rw [h.rows]
      exact hw.revoked
    · rw [h.texts]
      exact hw.mirror
  signOut {w} u _ hw := by
    refine ⟨(minted_keeps s).signOut u trivial hw.minted, ?_, ?_, ?_⟩
    · obtain ⟨t, ht, htoken⟩ := hw.known
      exact ⟨_, List.mem_map_of_mem ht, (revokedFor_token u _ t).trans htoken⟩
    · intro v hv hkind htoken
      obtain ⟨t, ht, rfl⟩ := List.mem_map.mp hv
      rw [revokedFor_kind] at hkind
      rw [revokedFor_token] at htoken
      exact isRevoked_revokedFor (.inr (hw.revoked t ht hkind htoken))
    · exact fun e he => hw.mirror e (Cache.Memory.lookup_of_lookup_deleteAll he)
  signIn {w} u hup hw := by
    -- the ids of the fresh pair were not drawn before, so neither of its tokens is the fading one
    obtain ⟨t, ht, htoken⟩ := hw.known
    have haccess : (w.pair s.sessions.token u).access.text ≠ token := fun h =>
      hw.minted.unknown s.sessions.token.secret rfl (Nat.le_refl _) t ht (htoken.trans h.symm)
    refine ⟨(minted_keeps s).signIn u hup hw.minted, ?_, ?_, ?_⟩
    · rw [rows_signedIn hup]
      exact ⟨t, List.mem_append_left _ ht, htoken⟩
    · intro v hv hkind hsame
      rw [rows_signedIn hup, List.mem_append, List.mem_cons, List.mem_singleton] at hv
      rcases hv with hold | rfl | rfl
      · exact hw.revoked v hold hkind hsame
      · exact absurd hsame haccess
      · cases hkind
    · intro e he
      rcases of_lookup_signedIn he with hold | ⟨hsame, -⟩
      · exact hw.mirror e hold
      · exact absurd hsame.symm haccess
  remind {w shown userId} hlive hw := by
    refine ⟨(minted_keeps s).remind hlive hw.minted, hw.known, hw.revoked, ?_⟩
    intro e he
    rcases Cache.Memory.lookup_of_lookup_set he with hold | ⟨hkey, -⟩
    · exact hw.mirror e hold
    · have hsame : token = shown := (Cache.tokenKey_inj hkey).2
      exact absurd (hsame ▸ hlive) (hw.not_live userId)

/-- A sign-out revokes every row of each token that was issued to the user. -/
theorem revoked_signedOut {secret : String} {w : World} (hminted : w.Minted secret) {userId : Int}
    {token : String} (hrow : w.HasRow .access userId token) :
    ∀ t ∈ (w.signedOut userId).tokens.rows, t.token = token → t.isRevoked = true := by
  intro v hv htoken
  obtain ⟨t, ht, rfl⟩ := List.mem_map.mp hv
  obtain ⟨own, hown, -, howner, hsame⟩ := hrow
  rw [revokedFor_token] at htoken
  have huser : t.userId = userId := (hminted.owner ht hown (htoken.trans hsame.symm)).trans howner
  exact isRevoked_revokedFor (.inl huser)

/-- Ending the sessions of a user makes the tokens fade that were issued to the user. -/
theorem fading_of_ends {s : Setup} {w : World} {userId : Int} {e : Event}
    (hends : s.Ends w userId e) (hminted : w.Minted s.sessions.token.secret) {token : String}
    (hrow : w.HasRow .access userId token) {deadline : Nat}
    (hmirror : ∀ e, (w.signedOut userId).cache.texts.lookup (Cache.tokenKey .access token) =
      some e → e.expiresAt ≤ deadline) :
    (s.step w e).Fading s.sessions.token.secret token deadline := by
  have hsignedOut : (w.signedOut userId).Fading s.sessions.token.secret token deadline := by
    refine ⟨(minted_keeps s).signOut userId trivial hminted, ?_, ?_, hmirror⟩
    · obtain ⟨t, ht, -, -, htoken⟩ := (hasRow_keeps s _ _ _).signOut userId trivial hrow
      exact ⟨t, ht, htoken⟩
    · exact fun t ht _ => revoked_signedOut hminted hrow t ht
  cases e with
  | logout u =>
    obtain ⟨rfl, hanswer⟩ := hends
    change (w.after (logout u)).Fading _ _ _
    rwa [(of_answer_logout hanswer).2]
  | login single f =>
    obtain ⟨rfl, u, receipt, hwho, rfl, hanswer⟩ := hends
    obtain ⟨hup, -, hafter⟩ := of_answer_login hwho hanswer
    change (w.after (login (s.rules true) f)).Fading _ _ _
    rw [hafter]
    exact (fading_keeps s token deadline).signIn (w := w.signedOut u.id) u.id hup hsignedOut
  | _ => exact hends.elim

theorem ends_karim (s : Setup) {es : List Event}
    (hup : (s.run karimsDesk es).tokens.isDown = false) :
    s.Ends (s.run karimsDesk es) karim.id (.logout karim.id) :=
  ⟨rfl, by rw [World.answer, perform_logout hup]⟩

/-- With any outages, a token whose session has ended is taken at most until the lifetime of the
cache has passed since. -/
theorem ended_sessions_fade (s : Setup) {w : World} (hw : w.IsFresh) {before after : List Event}
    {e : Event} {userId : Int} (hends : s.Ends (s.run w before) userId e) {token : String}
    (hissued : s.Issued w before .access userId token)
    (hclock : (s.run w before).cache.clock + s.sessions.cacheLifetime * 1000 ≤
      (s.run w (before ++ e :: after)).cache.clock) (c : Claims) :
    (s.run w (before ++ e :: after)).answer (authenticate s.sessions token) ≠ .ok c := by
  have hbounded : (s.run w before).Bounded s.sessions.cacheLifetime :=
    (bounded_keeps s).run_always before (by simp [World.Bounded, hw.texts])
  have hfading := fading_of_ends hends (minted_run s hw before) (hasRow_of_issued hissued)
    fun entry hentry => hbounded token entry (Cache.Memory.lookup_of_lookup_deleteAll hentry)
  rw [Setup.run_append] at hclock ⊢
  exact ((fading_keeps s token _).run_always after hfading).rejected s.sessions hclock c

/-- A user logs out while the cache is down: ten minutes later the token is rejected even so. -/
theorem karims_session_fades :
    karimsDesk.IsFresh ∧
    ({} : Setup).Ends (({} : Setup).run karimsDesk [.login true karimsForm, .cacheDown true])
      karim.id (.logout karim.id) ∧
    ({} : Setup).Issued karimsDesk [.login true karimsForm, .cacheDown true] .access karim.id
      (karimsDesk.pair {} karim.id).access.text ∧
    (({} : Setup).run karimsDesk ([.login true karimsForm, .cacheDown true] ++
      .logout karim.id :: [.cacheDown false, .advance 600000])).answer
        (authenticate {} (karimsDesk.pair {} karim.id).access.text) ≠
          .ok (karimsDesk.pair {} karim.id).access.claims := by
  have hoffline (w : World) : (({} : Setup).step w (.cacheDown true)).tokens = w.tokens := rfl
  have htokens : (({} : Setup).run karimsDesk
      [.login true karimsForm, .cacheDown true]).tokens.isDown = false := by
    have hlogin := (inReach_karimsLogin {}).2
    rw [Setup.run_cons, Setup.run_nil] at hlogin
    rw [Setup.run_cons, Setup.run_cons, Setup.run_nil, hoffline, hlogin]
  have hends := ends_karim {} htokens
  have hissued := issued_karim {} [.cacheDown true]
  refine ⟨isFresh_karimsDesk, hends, hissued, ?_⟩
  have hclock := Setup.cacheClock_le_run {}
    (({} : Setup).run karimsDesk [.login true karimsForm, .cacheDown true])
    [.logout karim.id, .cacheDown false]
  rw [← Setup.run_append] at hclock
  have hadvanced (w : World) :
      (({} : Setup).step w (.advance 600000)).cache.clock = w.cache.clock + 600000 := rfl
  refine ended_sessions_fade {} isFresh_karimsDesk hends hissued ?_ _
  rw [show [Event.cacheDown false, .advance 600000] = [.cacheDown false] ++ [.advance 600000] from
    rfl, ← List.cons_append, ← List.append_assoc, Setup.run_concat, hadvanced]
  have hlifetime : ({} : Setup).sessions.cacheLifetime * 1000 = 600000 := rfl
  rw [hlifetime]
  exact Nat.add_le_add_right hclock 600000

end ParcelDesk.Desk

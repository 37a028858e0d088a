import ParcelDesk.Proofs.DeskRuns
import ParcelDesk.Proofs.SignedTokens

/-!
The rows of the token store over a run. Rows are only ever added and revoked, so a token that was
handed out keeps its row. Every row is for claims that the desk signed itself under an id drawn for
them. As no id comes up twice, a token is never issued again and its owner never changes.
-/

namespace ParcelDesk

structure StoredToken.Signs (secret : String) (c : Claims) (t : StoredToken) : Prop where
  token : t.token = Jwt.encode secret c
  userId : t.userId = c.userId
  expiresAt : t.expiresAt = c.expiry t.createdAt

namespace Desk

open World

theorem revokedFor_signs {secret : String} {c : Claims} {t : StoredToken}
    (h : t.Signs secret c) (userId : Int) (now : Instant) :
    (revokedFor userId now t).Signs secret c := by
  unfold revokedFor
  split
  · exact ⟨h.token, h.userId, h.expiresAt⟩
  · exact h

theorem revokedFor_kind (userId : Int) (now : Instant) (t : StoredToken) :
    (revokedFor userId now t).kind = t.kind := by
  unfold revokedFor
  split <;> rfl

theorem revokedFor_userId (userId : Int) (now : Instant) (t : StoredToken) :
    (revokedFor userId now t).userId = t.userId := by
  unfold revokedFor
  split <;> rfl

theorem revokedFor_token (userId : Int) (now : Instant) (t : StoredToken) :
    (revokedFor userId now t).token = t.token := by
  unfold revokedFor
  split <;> rfl

/-- What is still open after a sign-out was open before and belongs to somebody else. -/
theorem of_isRevoked_revokedFor {userId : Int} {now : Instant} {t : StoredToken}
    (h : (revokedFor userId now t).isRevoked = false) :
    t.userId ≠ userId ∧ t.isRevoked = false ∧ revokedFor userId now t = t := by
  unfold revokedFor at h ⊢
  by_cases hopen : t.userId = userId ∧ t.isRevoked = false
  · rw [if_pos hopen] at h
    simp [StoredToken.isRevoked] at h
  · rw [if_neg hopen] at h
    rw [if_neg hopen]
    exact ⟨fun hown => hopen ⟨hown, h⟩, h, rfl⟩

theorem isRevoked_revokedFor {userId : Int} {now : Instant} {t : StoredToken}
    (h : t.userId = userId ∨ t.isRevoked = true) :
    (revokedFor userId now t).isRevoked = true := by
  by_contra hopen
  have hbefore := of_isRevoked_revokedFor (Bool.not_eq_true _ ▸ hopen)
  rcases h with hown | hrevoked
  · exact hbefore.1 hown
  · simp [hrevoked] at hbefore

/-- A sign-in adds the two rows of its pair. -/
theorem rows_signedIn {w : World} (hup : w.tokens.isDown = false) (r : SessionRules)
    (userId : Int) :
    (w.signedIn r userId).tokens.rows = w.tokens.rows ++
      [.ofSigned (w.tokens.lastId + 1) .access (w.pair r.token userId).access userId w.clock,
        .ofSigned (w.tokens.lastId + 1 + 1) .refresh (w.pair r.token userId).refresh userId
          w.clock] := by
  simp [signedIn, kept, remembered, drawn, TokenStore.save, hup, StoredToken.ofSigned]

def World.HasRow (kind : TokenKind) (userId : Int) (token : String) (w : World) : Prop :=
  ∃ t ∈ w.tokens.rows, t.kind = kind ∧ t.userId = userId ∧ t.token = token

theorem hasRow_keeps (s : Setup) (kind : TokenKind) (userId : Int) (token : String) :
    s.Keeps (fun _ => True) (World.HasRow kind userId token) where
  alike h := by
    rintro ⟨t, hmem, hrow⟩
    exact ⟨t, h.rows ▸ hmem, hrow⟩
  signOut u _ := by
    rintro ⟨t, hmem, hkind, huser, htoken⟩
    refine ⟨revokedFor u _ t, List.mem_map_of_mem hmem, ?_, ?_, ?_⟩
    · rw [revokedFor_kind, hkind]
    · rw [revokedFor_userId, huser]
    · rw [revokedFor_token, htoken]
  signIn u hup := by
    rintro ⟨t, hmem, hrow⟩
    exact ⟨t, by rw [rows_signedIn hup]; exact List.mem_append_left _ hmem, hrow⟩
  remind _ hrow := hrow

theorem hasRow_of_handsOut {s : Setup} {w : World} {kind : TokenKind} {userId : Int}
    {token : String} {e : Event} (h : s.HandsOut w kind userId token e) :
    (s.step w e).HasRow kind userId token := by
  cases e with
  | login single f =>
    obtain ⟨u, receipt, hwho, hid, hanswer, htoken⟩ := h
    obtain ⟨hup, hreceipt, hafter⟩ := of_answer_login hwho hanswer
    have hcleared : (w.cleared (s.rules single) u.id).tokens.isDown = false := by
      unfold World.cleared
      split <;> exact hup
    have hpair : (w.cleared (s.rules single) u.id).pair (s.rules single).token u.id =
        w.pair (s.rules single).token u.id := by
      unfold World.cleared
      split <;> rfl
    change (w.after (login (s.rules single) f)).HasRow kind userId token
    rw [hafter]
    unfold World.HasRow
    rw [rows_signedIn hcleared, hpair]
    subst hreceipt htoken hid
    cases kind with
    | access =>
      exact ⟨_, List.mem_append_right _ List.mem_cons_self, rfl, rfl, rfl⟩
    | refresh =>
      exact ⟨_, List.mem_append_right _ (List.mem_cons_of_mem _ List.mem_cons_self), rfl, rfl,
        rfl⟩
  | _ => exact h.elim

/-- A token that was handed out has a row for good. -/
theorem hasRow_of_issued {s : Setup} {w : World} {es : List Event} {kind : TokenKind}
    {userId : Int} {token : String} (h : s.Issued w es kind userId token) :
    (s.run w es).HasRow kind userId token := by
  obtain ⟨before, e, after, rfl, hout⟩ := h
  rw [Setup.run_append]
  exact (hasRow_keeps s kind userId token).run_always after (hasRow_of_handsOut hout)

/-- Every row is for claims that the desk signed, under an id that was drawn for them. -/
structure World.Minted (secret : String) (w : World) : Prop where
  tokenId : Function.Injective w.chance.tokenId
  signed : ∀ t ∈ w.tokens.rows, ∃ c n, t.Signs secret c ∧ c.tokenId = w.chance.tokenId n ∧
    n < w.chance.tokenIds

namespace World.Minted

variable {secret : String} {w : World}

theorem of_isFresh (h : w.IsFresh) (secret : String) : w.Minted secret :=
  ⟨h.tokenId, by simp [h.rows]⟩

/-- Claims with an id that was not drawn yet have a token that no row is about. -/
theorem unknown (h : w.Minted secret) {c : Claims} {n : Nat} (other : String)
    (hid : c.tokenId = w.chance.tokenId n) (hn : w.chance.tokenIds ≤ n) :
    ∀ t ∈ w.tokens.rows, t.token ≠ Jwt.encode other c := by
  intro t hmem htoken
  obtain ⟨d, m, hsigns, hdrawn, hm⟩ := h.signed t hmem
  have hclaims : d = c := Jwt.encode_injective (hsigns.token.symm.trans htoken)
  have hsame : m = n := h.tokenId (by rw [← hdrawn, ← hid, hclaims])
  omega

/-- Rows about one token name the same owner. -/
theorem owner (h : w.Minted secret) {t v : StoredToken} (ht : t ∈ w.tokens.rows)
    (hv : v ∈ w.tokens.rows) (htoken : t.token = v.token) : t.userId = v.userId := by
  obtain ⟨c, _, hc, _⟩ := h.signed t ht
  obtain ⟨d, _, hd, _⟩ := h.signed v hv
  have hclaims : c = d := Jwt.encode_injective (by rw [← hc.token, htoken, hd.token])
  rw [hc.userId, hd.userId, hclaims]

/-- A token with a row is accepted only for the claims that its row stands for. -/
theorem verified (h : w.Minted secret) {t : StoredToken} (ht : t ∈ w.tokens.rows) {now : Instant}
    {c : Claims} (hverify : Jwt.verify secret now t.token = .ok c) :
    t.Signs secret c ∧ 0 ≤ c.expiresAt ∧ now.seconds ≤ c.expiresAt := by
  obtain ⟨d, _, hsigns, _⟩ := h.signed t ht
  rw [hsigns.token] at hverify
  obtain ⟨rfl, hvalid⟩ := Jwt.of_verify_encode hverify
  exact ⟨hsigns, hvalid⟩

end World.Minted

theorem minted_keeps (s : Setup) :
    s.Keeps (fun _ => True) (World.Minted s.sessions.token.secret) where
  alike h hw := by
    refine ⟨h.tokenId ▸ hw.tokenId, fun t ht => ?_⟩
    obtain ⟨c, n, hsigns, hid, hn⟩ := hw.signed t (h.rows ▸ ht)
    exact ⟨c, n, hsigns, h.tokenId ▸ hid, Nat.lt_of_lt_of_le hn h.tokenIds⟩
  signOut u _ hw := by
    refine ⟨hw.tokenId, fun t ht => ?_⟩
    obtain ⟨v, hv, rfl⟩ := List.mem_map.mp ht
    obtain ⟨c, n, hsigns, hdrawn⟩ := hw.signed v hv
    exact ⟨c, n, revokedFor_signs hsigns u _, hdrawn⟩
  signIn {w} u hup hw := by
    refine ⟨hw.tokenId, fun t ht => ?_⟩
    have hids : (w.signedIn s.sessions u).chance.tokenIds = w.chance.tokenIds + 2 := rfl
    rw [rows_signedIn hup, List.mem_append, List.mem_cons, List.mem_singleton] at ht
    rw [hids]
    rcases ht with hold | rfl | rfl
    · obtain ⟨c, n, hsigns, hid, hn⟩ := hw.signed t hold
      exact ⟨c, n, hsigns, hid, by omega⟩
    · exact ⟨_, w.chance.tokenIds, ⟨rfl, rfl, rfl⟩, rfl, by omega⟩
    · exact ⟨_, w.chance.tokenIds + 1, ⟨rfl, rfl, rfl⟩, rfl, by omega⟩
  remind _ hw := ⟨hw.tokenId, hw.signed⟩

/-- Over a run from a fresh world, whatever goes out of reach, all rows are the desk's own. -/
theorem minted_run (s : Setup) {w : World} (hw : w.IsFresh) (es : List Event) :
    (s.run w es).Minted s.sessions.token.secret :=
  (minted_keeps s).run_always es (.of_isFresh hw _)

end Desk

end ParcelDesk

import ParcelDesk.Proofs.TokenRows

/-!
What a step does to the rows of the token store. Of all that happens at the desk, only a logout and
a login touch them: a logout revokes what the user still has, and a login adds a pair, after a
sign-out if it ends earlier sessions. A fact about the rows is carried over a run once it is carried
over these.
-/

namespace ParcelDesk.Desk

open World

theorem Call.Quiet.tokens {β : Type} (c : Call β) (w : World) (h : c.Quiet) :
    (World.serve c w).2.tokens = w.tokens := by
  cases c with
  | now | suffix | insertOrder | findOrders | deleteOrder | mirror | evict => rfl
  | _ => exact h.elim

/-- Work that makes quiet calls only leaves the token store as it is. -/
theorem tokens_after_quiet {α : Type} {a : Work α} (h : a.Makes Call.Quiet) (w : World) :
    (w.after a).tokens = w.tokens :=
  Task.Makes.run (R := fun w v : World => v.tokens = w.tokens) (fun _ => rfl)
    (fun hwv hvu => hvu.trans hwv) Call.Quiet.tokens h w

theorem tokens_after_authenticate (w : World) (r : SessionRules) (token : String) :
    (w.after (authenticate r token)).tokens = w.tokens := by
  obtain hsame | ⟨userId, -, hremind⟩ := after_authenticate w r token
  · rw [hsame]
  · rw [hremind]
    rfl

theorem rows_signedOut (w : World) (userId : Int) :
    (w.signedOut userId).tokens.rows = w.tokens.rows.map (revokedFor userId w.clock) := rfl

theorem lastId_signedIn {w : World} (hup : w.tokens.isDown = false) (r : SessionRules)
    (userId : Int) : (w.signedIn r userId).tokens.lastId = w.tokens.lastId + 1 + 1 := by
  simp [signedIn, kept, remembered, drawn, TokenStore.save, hup]

theorem cleared_tokens_isDown (w : World) (r : SessionRules) (userId : Int) :
    (w.cleared r userId).tokens.isDown = w.tokens.isDown := by
  unfold World.cleared
  split <;> rfl

theorem pair_cleared (w : World) (r : SessionRules) (userId other : Int) (t : TokenSettings) :
    (w.cleared r userId).pair t other = w.pair t other := by
  unfold World.cleared
  split <;> rfl

inductive Setup.Turns (s : Setup) (w : World) : Event → TokenStore → Prop
  | idle {e : Event} {t : TokenStore} (hrows : t.rows = w.tokens.rows)
      (hlast : t.lastId = w.tokens.lastId) : s.Turns w e t
  | ended {userId : Int} (hends : s.Ends w userId (.logout userId)) :
      s.Turns w (.logout userId) (w.signedOut userId).tokens
  | begun {single : Bool} {f : LoginForm} {u : User} (hwho : w.answer (identify f) = .ok u)
      (hup : w.tokens.isDown = false) :
      s.Turns w (.login single f)
        ((w.cleared (s.rules single) u.id).signedIn s.sessions u.id).tokens

theorem turns_login (s : Setup) (w : World) (single : Bool) (f : LoginForm) :
    s.Turns w (.login single f) (s.step w (.login single f)).tokens := by
  rw [Setup.step]
  obtain ⟨n, hdrawn⟩ | ⟨u, hwho, hup, hafter⟩ := after_login w (s.rules single) f
  · rw [hdrawn]
    exact .idle rfl rfl
  · rw [hafter]
    exact .begun hwho hup

theorem turns_logout (s : Setup) (w : World) (userId : Int) :
    s.Turns w (.logout userId) (s.step w (.logout userId)).tokens := by
  rw [Setup.step]
  obtain hsame | ⟨hanswer, hafter⟩ := after_logout w userId
  · rw [hsame]
    exact .idle rfl rfl
  · rw [hafter]
    exact .ended ⟨rfl, hanswer⟩

theorem turns_step (s : Setup) (w : World) (e : Event) : s.Turns w e (s.step w e).tokens := by
  have idle {v : World} (h : v.tokens = w.tokens) : s.Turns w e v.tokens := by
    rw [h]
    exact .idle rfl rfl
  cases e with
  | login single f => exact turns_login s w single f
  | logout userId => exact turns_logout s w userId
  | authenticate token => exact idle (tokens_after_authenticate w s.sessions token)
  | createOrder d userId => exact idle (tokens_after_quiet (quiet_createOrder _ d userId) w)
  | cancelOrder consignmentId userId =>
    exact idle (tokens_after_quiet (quiet_cancelOrder consignmentId userId) w)
  | listOrders userId r => exact idle (tokens_after_quiet (quiet_listOrders _ userId r) w)
  | _ => exact .idle rfl rfl

end ParcelDesk.Desk

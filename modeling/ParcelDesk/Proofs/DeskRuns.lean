import ParcelDesk.Proofs.QuietCalls

/-!
Runs of the desk. Users log in, log out, show tokens and handle orders in any order, while stores
and cache go out of reach and come back, and the clocks are set from outside. To the tokens only
four things ever happen: nothing, a sign-out, a sign-in, and a reminder of a token that is live.
What these four keep is kept by every run.
-/

namespace ParcelDesk

def LoginReceipt.token (r : LoginReceipt) : TokenKind → String
  | .access => r.accessToken
  | .refresh => r.refreshToken

namespace Desk

/-- How a desk is set up: one way to sign and remember tokens for logins and for the gate. -/
structure Setup where
  sessions : SessionRules := {}
  orders : OrderSettings := {}

inductive Event where
  | login (single : Bool) (f : LoginForm)
  | logout (userId : Int)
  | authenticate (token : String)
  | createOrder (d : Draft) (userId : Int)
  | cancelOrder (consignmentId : String) (userId : Int)
  | listOrders (userId : Int) (r : ListingRequest)
  | register (u : User)
  | collide (insertions : Nat)
  | ordersDown (isDown : Bool)
  | tokensDown (isDown : Bool)
  | cacheDown (isDown : Bool)
  | advance (ms : Nat)
  | setClock (now : Instant)

def Event.endsSessions : Event → Bool
  | .login single _ => single
  | .logout _ => true
  | _ => false

namespace Setup

variable (s : Setup)

def rules (single : Bool) : SessionRules := { s.sessions with single }

def step (w : World) : Event → World
  | .login single f => w.after (Desk.login (s.rules single) f)
  | .logout userId => w.after (Desk.logout userId)
  | .authenticate token => w.after (Desk.authenticate s.sessions token)
  | .createOrder d userId => w.after (Desk.createOrder s.orders d userId)
  | .cancelOrder consignmentId userId => w.after (Desk.cancelOrder consignmentId userId)
  | .listOrders userId r => w.after (Desk.listOrders s.orders userId r)
  | .register u => { w with users := (w.users.insert u).2 }
  | .collide insertions => { w with orders := { w.orders with collisions := insertions } }
  | .ordersDown isDown => { w with orders := { w.orders with isDown } }
  | .tokensDown isDown => { w with tokens := { w.tokens with isDown } }
  | .cacheDown isDown => { w with cache := { w.cache with isDown } }
  | .advance ms => { w with cache := w.cache.advance ms }
  | .setClock now => { w with clock := now }

def run (w : World) (es : List Event) : World := es.foldl s.step w

theorem run_nil (w : World) : s.run w [] = w := rfl

theorem run_cons (w : World) (e : Event) (es : List Event) :
    s.run w (e :: es) = s.run (s.step w e) es := rfl

theorem run_append (w : World) (es fs : List Event) :
    s.run w (es ++ fs) = s.run (s.run w es) fs := List.foldl_append

theorem run_concat (w : World) (es : List Event) (e : Event) :
    s.run w (es ++ [e]) = s.step (s.run w es) e := s.run_append w es [e]

def Throughout (wanted : World → Event → Prop) (w : World) (es : List Event) : Prop :=
  ∀ before e after, es = before ++ e :: after → wanted (s.run w before) e

def HandsOut (w : World) (kind : TokenKind) (userId : Int) (token : String) : Event → Prop
  | .login single f => ∃ u receipt, w.answer (identify f) = .ok u ∧ u.id = userId ∧
      w.answer (Desk.login (s.rules single) f) = .ok receipt ∧ receipt.token kind = token
  | _ => False

def Issued (w : World) (es : List Event) (kind : TokenKind) (userId : Int)
    (token : String) : Prop :=
  ∃ before e after, es = before ++ e :: after ∧ s.HandsOut (s.run w before) kind userId token e

/-- The event ends the sessions of the user, and says so. -/
def Ends (w : World) (userId : Int) : Event → Prop
  | .login single f => single = true ∧ ∃ u receipt, w.answer (identify f) = .ok u ∧
      u.id = userId ∧ w.answer (Desk.login (s.rules single) f) = .ok receipt
  | .logout u => u = userId ∧ w.answer (Desk.logout u) = .ok ()
  | _ => False

end Setup

/-- A world in which no token was ever issued, and no id of a token comes up twice. -/
structure World.IsFresh (w : World) : Prop where
  rows : w.tokens.rows = []
  texts : w.cache.texts = []
  tokenId : Function.Injective w.chance.tokenId

/-- What the four things that can happen to the tokens keep. A sign-out may need a world that is
ready for it. -/
structure Setup.Keeps (s : Setup) (ready kept : World → Prop) : Prop where
  alike {w v : World} : w.Alike v → kept w → kept v
  signOut {w : World} (userId : Int) : ready w → kept w → kept (w.signedOut userId)
  signIn {w : World} (userId : Int) : w.tokens.isDown = false → kept w →
    kept (w.signedIn s.sessions userId)
  remind {w : World} {token : String} {userId : Int} : w.Live token userId → kept w →
    kept (w.remembered s.sessions .access token userId)

namespace Setup

variable {s : Setup}

theorem alike_drawn (w : World) (n : Nat) : w.Alike (w.drawn n) :=
  ⟨rfl, rfl, Nat.le_refl _, rfl, Nat.le_add_right _ _⟩

variable {ready kept : World → Prop}

/-- A login signs in, after a sign-out if it has to end earlier sessions, or leaves a world
alike. -/
theorem Keeps.login (h : s.Keeps ready kept) {w : World} (single : Bool) (f : LoginForm)
    (hready : single = true → ready w) (hw : kept w) :
    kept (w.after (Desk.login (s.rules single) f)) := by
  obtain ⟨n, hdrawn⟩ | ⟨u, -, hup, hafter⟩ := after_login w (s.rules single) f
  · rw [hdrawn]
    exact h.alike (alike_drawn w n) hw
  · rw [hafter]
    refine h.signIn (w := w.cleared (s.rules single) u.id) u.id ?_ ?_
    · unfold World.cleared
      split <;> exact hup
    · cases single with
      | true => exact h.signOut u.id (hready rfl) hw
      | false => exact hw

theorem Keeps.logout (h : s.Keeps ready kept) {w : World} (userId : Int) (hready : ready w)
    (hw : kept w) : kept (w.after (Desk.logout userId)) := by
  obtain hsame | ⟨-, hafter⟩ := after_logout w userId
  · rwa [hsame]
  · rw [hafter]
    exact h.signOut userId hready hw

theorem Keeps.authenticate (h : s.Keeps ready kept) {w : World} (token : String) (hw : kept w) :
    kept (w.after (Desk.authenticate s.sessions token)) := by
  obtain hsame | ⟨userId, hlive, hremind⟩ := after_authenticate w s.sessions token
  · rwa [hsame]
  · rw [hremind]
    exact h.remind hlive hw

theorem Keeps.step (h : s.Keeps ready kept) {w : World} {e : Event}
    (hready : e.endsSessions = true → ready w) (hw : kept w) : kept (s.step w e) := by
  cases e with
  | login single f => exact h.login single f hready hw
  | logout userId => exact h.logout userId (hready rfl) hw
  | authenticate token => exact h.authenticate token hw
  | createOrder d userId => exact h.alike (alike_after (quiet_createOrder _ d userId) w) hw
  | cancelOrder consignmentId userId =>
    exact h.alike (alike_after (quiet_cancelOrder consignmentId userId) w) hw
  | listOrders userId r => exact h.alike (alike_after (quiet_listOrders _ userId r) w) hw
  | advance ms =>
    exact h.alike (w := w) ⟨rfl, rfl, Nat.le_add_right _ _, rfl, Nat.le_refl _⟩ hw
  | _ => exact h.alike (w := w) ⟨rfl, rfl, Nat.le_refl _, rfl, Nat.le_refl _⟩ hw

theorem throughout_nil (wanted : World → Event → Prop) (w : World) :
    s.Throughout wanted w [] := by
  intro before e after h
  simp at h

theorem throughout_cons {wanted : World → Event → Prop} {w : World} {e : Event}
    {es : List Event} :
    s.Throughout wanted w (e :: es) ↔ wanted w e ∧ s.Throughout wanted (s.step w e) es := by
  constructor
  · intro h
    refine ⟨h [] e es rfl, ?_⟩
    rintro before f after rfl
    exact h (e :: before) f after rfl
  · rintro ⟨hhead, htail⟩ before f after h
    cases before with
    | nil =>
      obtain ⟨rfl, rfl⟩ := List.cons.inj h
      exact hhead
    | cons g before =>
      obtain ⟨rfl, rfl⟩ := List.cons.inj h
      exact htail before f after rfl

/-- Where a run with one more event is split, that is at this event or before it. -/
theorem split_concat {γ : Type} {es before after : List γ} {e f : γ}
    (h : es ++ [e] = before ++ f :: after) :
    (before = es ∧ f = e ∧ after = []) ∨
      ∃ middle, after = middle ++ [e] ∧ es = before ++ f :: middle := by
  rcases List.eq_nil_or_concat after with rfl | ⟨middle, last, rfl⟩
  · obtain ⟨rfl, hlast⟩ := List.append_inj' h rfl
    exact .inl ⟨rfl, (List.singleton_inj.mp hlast).symm, rfl⟩
  · have hsplit : es ++ [e] = (before ++ f :: middle) ++ [last] := by simpa using h
    obtain ⟨rfl, hlast⟩ := List.append_inj' hsplit rfl
    obtain rfl := List.singleton_inj.mp hlast
    exact .inr ⟨middle, List.concat_eq_append, rfl⟩

theorem throughout_concat {wanted : World → Event → Prop} {w : World} {es : List Event}
    {e : Event} :
    s.Throughout wanted w (es ++ [e]) ↔
      s.Throughout wanted w es ∧ wanted (s.run w es) e := by
  constructor
  · refine fun h => ⟨?_, h es e [] rfl⟩
    rintro before f after rfl
    exact h before f (after ++ [e]) (by simp)
  · rintro ⟨hbefore, hlast⟩ before f after hsplit
    obtain ⟨rfl, rfl, -⟩ | ⟨middle, -, rfl⟩ := split_concat hsplit
    · exact hlast
    · exact hbefore before f middle rfl

theorem Throughout.left {wanted : World → Event → Prop} {w : World} {es fs : List Event}
    (h : s.Throughout wanted w (es ++ fs)) : s.Throughout wanted w es := by
  rintro before e after rfl
  exact h before e (after ++ fs) (by simp)

/-- What each step keeps, where it is as wanted, is kept by the run. -/
theorem Throughout.run {wanted : World → Event → Prop} (kept : World → Prop)
    (hstep : ∀ {v : World} {e : Event}, wanted v e → kept v → kept (s.step v e)) {w : World}
    {es : List Event} (h : s.Throughout wanted w es) (hw : kept w) : kept (s.run w es) := by
  induction es generalizing w with
  | nil => exact hw
  | cons e es ih =>
    obtain ⟨hhead, htail⟩ := throughout_cons.mp h
    exact ih htail (hstep hhead hw)

/-- What is kept at every step is kept by a run. -/
theorem Keeps.run (h : s.Keeps ready kept) {w : World} {es : List Event}
    (hready : s.Throughout (fun v e => e.endsSessions = true → ready v) w es) (hw : kept w) :
    kept (s.run w es) :=
  hready.run kept h.step hw

/-- Where a sign-out may happen in any world, nothing is asked of the run. -/
theorem Keeps.run_always (h : s.Keeps (fun _ => True) kept) {w : World} (es : List Event)
    (hw : kept w) : kept (s.run w es) :=
  h.run (fun _ _ _ _ _ => trivial) hw

theorem cacheClock_keeps (s : Setup) (ms : Nat) :
    s.Keeps (fun _ => True) (fun w => ms ≤ w.cache.clock) where
  alike h hw := Nat.le_trans hw h.clock
  signOut userId _ hw := by simpa using hw
  signIn userId _ hw := by simpa using hw
  remind _ hw := by simpa using hw

/-- The clock of the cache never goes back. -/
theorem cacheClock_le_run (s : Setup) (w : World) (es : List Event) :
    w.cache.clock ≤ (s.run w es).cache.clock :=
  (cacheClock_keeps s w.cache.clock).run_always es (Nat.le_refl _)

end Setup

end Desk

end ParcelDesk

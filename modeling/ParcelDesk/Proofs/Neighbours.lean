import ParcelDesk.Proofs.OrderLedger
import ParcelDesk.Proofs.Logins
import ParcelDesk.Proofs.Ownership

/-!
Users do not get in each other's way. The stores and the cache are shared, but what is done for one
user leaves the rows of another as they are, and touches no text under the key of a token that was
issued to the other: no two users are ever given one token. So the other's listings and the gate's
answers to the other's tokens are the same before and after.
-/

namespace ParcelDesk

namespace Cache.Memory

theorem lookup_deleteAll_of_notMem {keys : List String} {k : String} (h : k ∉ keys) (m : Memory) :
    (deleteAll keys m).texts.lookup k = m.texts.lookup k := by
  cases hdown : m.isDown with
  | true => rw [deleteAll_of_isDown hdown]
  | false => rw [lookup_deleteAll hdown, if_neg h]

end Cache.Memory

namespace Desk

open World

/-- What the gate goes by when it is shown the token of the user is the same: the time, what is in
reach, the rows of the user, and the text under the key of the token. -/
structure World.GateAlike (token : String) (userId : Int) (w v : World) : Prop where
  clock : v.clock = w.clock
  reach : v.tokens.isDown = w.tokens.isDown
  rows : v.tokens.rows.filter (fun t => t.userId == userId) =
    w.tokens.rows.filter fun t => t.userId == userId
  cacheReach : v.cache.isDown = w.cache.isDown
  cacheClock : v.cache.clock = w.cache.clock
  text : v.cache.texts.lookup (Cache.tokenKey .access token) =
    w.cache.texts.lookup (Cache.tokenKey .access token)

namespace World.GateAlike

variable {token : String} {userId : Int} {w v u : World}

theorem trans (hwv : w.GateAlike token userId v) (hvu : v.GateAlike token userId u) :
    w.GateAlike token userId u where
  clock := hvu.clock.trans hwv.clock
  reach := hvu.reach.trans hwv.reach
  rows := hvu.rows.trans hwv.rows
  cacheReach := hvu.cacheReach.trans hwv.cacheReach
  cacheClock := hvu.cacheClock.trans hwv.cacheClock
  text := hvu.text.trans hwv.text

/-- Where tokens, texts and clocks are the same, they are so for every token of every user. -/
theorem of_eq (hclock : v.clock = w.clock) (htokens : v.tokens = w.tokens)
    (hreach : v.cache.isDown = w.cache.isDown) (hcacheClock : v.cache.clock = w.cache.clock)
    (htexts : v.cache.texts = w.cache.texts) : w.GateAlike token userId v :=
  ⟨hclock, by rw [htokens], by rw [htokens], hreach, hcacheClock, by rw [htexts]⟩

theorem mirrors_iff (h : w.GateAlike token userId v) :
    v.Mirrors token userId ↔ w.Mirrors token userId := by
  have htext : v.cache.text? (Cache.tokenKey .access token) =
      w.cache.text? (Cache.tokenKey .access token) := by
    rw [Cache.Memory.text?, Cache.Memory.text?, h.text, h.cacheClock]
  constructor
  · rintro ⟨hreach, howner⟩
    exact ⟨h.cacheReach ▸ hreach, htext ▸ howner⟩
  · rintro ⟨hreach, howner⟩
    exact ⟨h.cacheReach.trans hreach, htext.trans howner⟩

theorem findActive_eq (h : w.GateAlike token userId v) :
    v.tokens.findActive v.clock .access userId token =
      w.tokens.findActive w.clock .access userId token := by
  -- a row that is looked for is one of the user's
  have hown (rows : List StoredToken) (now : Instant) :
      rows.find? (fun t => t.kind = .access && t.userId == userId && t.token == token &&
        t.isActive now) =
      (rows.filter fun t => t.userId == userId).find? fun t =>
        t.kind = .access && t.userId == userId && t.token == token && t.isActive now := by
    rw [List.find?_filter]
    congr 1
    funext t
    rw [Bool.eq_iff_iff]
    simp only [Bool.and_eq_true, decide_eq_true_eq, beq_iff_eq]
    tauto
  rw [TokenStore.findActive, TokenStore.findActive, h.reach, h.clock, hown v.tokens.rows, h.rows,
    ← hown]

/-- The gate answers the same, if the token is one of the user's. -/
theorem answer_eq (h : w.GateAlike token userId v) {r : SessionRules}
    (howner : ∀ c, Jwt.verify r.token.secret w.clock token = .ok c → c.userId = userId) :
    v.answer (authenticate r token) = w.answer (authenticate r token) := by
  unfold World.answer
  cases hverify : Jwt.verify r.token.secret w.clock token with
  | error e =>
    rw [perform_authenticate_flaw hverify, perform_authenticate_flaw (h.clock ▸ hverify)]
  | ok c =>
    obtain rfl := howner c hverify
    have hlater : Jwt.verify r.token.secret v.clock token = .ok c := h.clock ▸ hverify
    by_cases hmirror : w.Mirrors token c.userId
    · rw [perform_authenticate_mirrored hverify hmirror,
        perform_authenticate_mirrored hlater (h.mirrors_iff.mpr hmirror)]
    · rw [perform_authenticate_stored hverify hmirror,
        perform_authenticate_stored hlater (fun hm => hmirror (h.mirrors_iff.mp hm)),
        h.findActive_eq]
      cases w.tokens.findActive w.clock .access c.userId token with
      | error e => rfl
      | ok found => cases found <;> rfl

end World.GateAlike

section Calls

variable {w : World} {token : String} {userId other : Int}

/-- Calls on orders and their mirrors concern no token. -/
theorem Call.Quiet.gateAlike {β : Type} (c : Call β) (w : World) (h : c.Quiet) :
    w.GateAlike token userId (World.serve c w).2 := by
  cases c with
  | now | suffix | insertOrder | findOrders | deleteOrder => exact .of_eq rfl rfl rfl rfl rfl
  | mirror o =>
    simp only [World.serve, World.withCache, Cache.Memory.mirror, Cache.Memory.change]
    split <;> exact .of_eq rfl rfl rfl rfl rfl
  | evict consignmentId =>
    simp only [World.serve, World.withCache, Cache.Memory.evict, Cache.Memory.change]
    split <;> exact .of_eq rfl rfl rfl rfl rfl
  | _ => exact h.elim

theorem gateAlike_after {α : Type} {a : Work α} (h : a.Makes Call.Quiet) (w : World) :
    w.GateAlike token userId (w.after a) :=
  Task.Makes.run (R := fun w v : World => w.GateAlike token userId v)
    (fun _ => .of_eq rfl rfl rfl rfl rfl) World.GateAlike.trans Call.Quiet.gateAlike h w

/-- To remember one token says nothing about another. -/
theorem gateAlike_remembered {shown : String} (hother : token ≠ shown) (w : World)
    (r : SessionRules) (kind : TokenKind) (user : Int) :
    w.GateAlike token userId (w.remembered r kind shown user) where
  clock := rfl
  reach := rfl
  rows := rfl
  cacheReach := remembered_cache_isDown r kind shown user w
  cacheClock := remembered_cache_clock r kind shown user w
  text := Cache.Memory.lookup_set_of_ne (fun hkey => hother (Cache.tokenKey_inj hkey).2) _ _

/-- A sign-out takes no key of a token that belongs to somebody else. -/
theorem notMem_signOutKeys {secret : String} (hminted : w.Minted secret) {kind : TokenKind}
    (hrow : w.HasRow kind userId token) (hother : userId ≠ other) :
    Cache.tokenKey .access token ∉ w.signOutKeys other := by
  intro hmem
  rcases List.mem_cons.mp hmem with hsession | hkeys
  · exact Cache.sessionKey_ne_tokenKey other .access token hsession.symm
  · obtain ⟨t, ht, hkey⟩ := List.mem_map.mp hkeys
    obtain ⟨own, hown, -, howner, hsame⟩ := hrow
    rw [List.mem_append, List.mem_filter, List.mem_filter, isOpen_iff, isOpen_iff] at ht
    have hthief : t ∈ w.tokens.rows ∧ t.userId = other := by
      rcases ht with ⟨hin, -, huser, -⟩ | ⟨hin, -, huser, -⟩ <;> exact ⟨hin, huser⟩
    have htoken : own.token = t.token := hsame.trans (Cache.tokenKey_inj hkey).2.symm
    exact hother (howner.symm.trans ((hminted.owner hown hthief.1 htoken).trans hthief.2))

theorem gateAlike_signedOut {secret : String} (hminted : w.Minted secret) {kind : TokenKind}
    (hrow : w.HasRow kind userId token) (hother : userId ≠ other) :
    w.GateAlike token userId (w.signedOut other) where
  clock := rfl
  reach := rfl
  rows := (touchedFor_signedOut w other).tokens.filter_eq hother
  cacheReach := signedOut_cache_isDown other w
  cacheClock := signedOut_cache_clock other w
  text := Cache.Memory.lookup_deleteAll_of_notMem (notMem_signOutKeys hminted hrow hother) _

/-- The tokens of a sign-in are new, so nobody holds them yet. -/
theorem gateAlike_signedIn {secret : String} (hminted : w.Minted secret)
    (hup : w.tokens.isDown = false) (r : SessionRules) {kind : TokenKind}
    (hrow : w.HasRow kind userId token) (hother : userId ≠ other) :
    w.GateAlike token userId (w.signedIn r other) where
  clock := rfl
  reach := signedIn_tokens_isDown r other w
  rows := (touchedFor_signedIn other hup r).tokens.filter_eq hother
  cacheReach := signedIn_cache_isDown r other w
  cacheClock := signedIn_cache_clock r other w
  text := by
    obtain ⟨own, hown, -, -, rfl⟩ := hrow
    have haccess : own.token ≠ (w.pair r.token other).access.text :=
      hminted.unknown r.token.secret rfl (Nat.le_refl _) own hown
    have hkeys : Cache.tokenKey .access own.token ≠
        Cache.tokenKey .refresh (w.pair r.token other).refresh.text := fun h => by
      cases (Cache.tokenKey_inj h).1
    exact (Cache.Memory.lookup_set_of_ne hkeys _ _).trans
      (Cache.Memory.lookup_set_of_ne (fun h => haccess (Cache.tokenKey_inj h).2) _ _)

theorem gateAlike_logout {secret : String} (hminted : w.Minted secret) {kind : TokenKind}
    (hrow : w.HasRow kind userId token) (hother : userId ≠ other) :
    w.GateAlike token userId (w.after (logout other)) := by
  obtain hsame | ⟨-, hafter⟩ := after_logout w other
  · rw [hsame]
    exact .of_eq rfl rfl rfl rfl rfl
  · rw [hafter]
    exact gateAlike_signedOut hminted hrow hother

theorem gateAlike_login {s : Setup} (hminted : w.Minted s.sessions.token.secret)
    {kind : TokenKind} (hrow : w.HasRow kind userId token) {single : Bool} {f : LoginForm}
    (hwho : ∀ u, w.answer (identify f) = .ok u → userId ≠ u.id) :
    w.GateAlike token userId (w.after (login (s.rules single) f)) := by
  obtain ⟨n, hdrawn⟩ | ⟨u, hu, hup, hafter⟩ := after_login w (s.rules single) f
  · rw [hdrawn]
    exact .of_eq rfl rfl rfl rfl rfl
  · rw [hafter]
    cases single with
    | true =>
      have hout := (minted_keeps s).signOut u.id trivial hminted
      have hkept := (hasRow_keeps s kind userId token).signOut u.id trivial hrow
      exact (gateAlike_signedOut hminted hrow (hwho u hu)).trans
        (gateAlike_signedIn (w := w.signedOut u.id) hout hup _ hkept (hwho u hu))
    | false => exact gateAlike_signedIn hminted hup _ hrow (hwho u hu)

end Calls

/-- The event is something that the user does: a call with the user's own id, a login that lets in
nobody else, or showing a token that was issued to the user. -/
def Setup.ActsFor (s : Setup) (w : World) (es : List Event) (userId : Int) : Event → Prop
  | .login _ f => ∀ u, (s.run w es).answer (identify f) = .ok u → u.id = userId
  | .logout user => user = userId
  | .authenticate token => ∃ kind, s.Issued w es kind userId token
  | .createOrder _ user => user = userId
  | .cancelOrder _ user => user = userId
  | .listOrders user _ => user = userId
  | _ => False

theorem touchedFor_step {s : Setup} {w : World} {es : List Event} {userId : Int} {e : Event}
    (h : s.ActsFor w es userId e) : (s.run w es).TouchedFor userId (s.step (s.run w es) e) := by
  cases e with
  | login single f => exact touchedFor_login _ userId _ h
  | logout user =>
    obtain rfl := h
    exact touchedFor_logout _ user
  | authenticate token => exact touchedFor_authenticate _ userId _ token
  | createOrder d user =>
    obtain rfl := h
    exact touchedFor_createOrder _ user _ d
  | cancelOrder consignmentId user =>
    obtain rfl := h
    exact touchedFor_cancelOrder _ user consignmentId
  | listOrders user r =>
    obtain rfl := h
    exact touchedFor_listOrders _ user _ r
  | _ => exact h.elim

theorem gateAlike_step {s : Setup} {w : World} (hw : w.IsFresh) {es : List Event} {a b : Int}
    (hab : a ≠ b) {e : Event} (h : s.ActsFor w es a e) {kind : TokenKind} {token : String}
    (hissued : s.Issued w es kind b token) :
    (s.run w es).GateAlike token b (s.step (s.run w es) e) := by
  have hminted := minted_run s hw es
  have hrow := hasRow_of_issued hissued
  cases e with
  | login single f =>
    exact gateAlike_login hminted hrow fun u hu hsame => hab ((h u hu).symm.trans hsame.symm)
  | logout user =>
    obtain rfl := h
    exact gateAlike_logout hminted hrow hab.symm
  | authenticate shown =>
    obtain ⟨_, hshown⟩ := h
    obtain ⟨t, ht, -, howner, rfl⟩ := hasRow_of_issued hshown
    obtain ⟨v, hv, -, hother, rfl⟩ := hrow
    have hdiffer : v.token ≠ t.token := fun hsame =>
      hab (howner.symm.trans ((hminted.owner ht hv hsame.symm).trans hother))
    rw [Setup.step]
    obtain hsame | ⟨user, -, hremind⟩ := after_authenticate (s.run w es) s.sessions t.token
    · rw [hsame]
      exact .of_eq rfl rfl rfl rfl rfl
    · rw [hremind]
      exact gateAlike_remembered hdiffer _ _ _ _
  | createOrder d user => exact gateAlike_after (quiet_createOrder _ d user) _
  | cancelOrder consignmentId user =>
    exact gateAlike_after (quiet_cancelOrder consignmentId user) _
  | listOrders user r => exact gateAlike_after (quiet_listOrders _ user r) _
  | _ => exact h.elim

/-- After any run, whatever one user does, and whether or not it succeeds: every listing of another
user is answered as before, the other's rows of orders and of tokens are the same, and so is the
answer of the gate to every token that was issued to the other. -/
theorem users_leave_each_other_alone (s : Setup) {w : World} (hw : w.IsFresh) (es : List Event)
    {a b : Int} (hab : a ≠ b) {e : Event} (h : s.ActsFor w es a e) :
    (∀ r, (s.step (s.run w es) e).answer (listOrders s.orders b r) =
      (s.run w es).answer (listOrders s.orders b r)) ∧
    (s.step (s.run w es) e).orders.rows.filter (fun o => o.userId == b) =
      (s.run w es).orders.rows.filter (fun o => o.userId == b) ∧
    (s.step (s.run w es) e).tokens.rows.filter (fun t => t.userId == b) =
      (s.run w es).tokens.rows.filter (fun t => t.userId == b) ∧
    ∀ kind token, s.Issued w es kind b token →
      (s.step (s.run w es) e).answer (authenticate s.sessions token) =
        (s.run w es).answer (authenticate s.sessions token) := by
  have htouched := touchedFor_step h
  have horders := htouched.orders.filter_eq hab.symm
  refine ⟨answer_listOrders_own horders htouched.reach s.orders, horders,
    htouched.tokens.filter_eq hab.symm, fun kind token hissued => ?_⟩
  refine (gateAlike_step hw hab h hissued).answer_eq fun c hverify => ?_
  obtain ⟨t, ht, -, howner, rfl⟩ := hasRow_of_issued hissued
  rw [← ((minted_run s hw es).verified ht hverify).1.userId, howner]

def karimsGift : List Event := [.login true karimsForm, .createOrder gift karim.id]

/-- When a stranger tries to cancel the gift, its owner notices nothing. -/
theorem stranger_leaves_karim_alone :
    karimsDesk.IsFresh ∧ 7 ≠ karim.id ∧
    ({} : Setup).ActsFor karimsDesk karimsGift 7 (.cancelOrder "CN251009" 7) ∧
    ({} : Setup).Issued karimsDesk karimsGift .access karim.id
      (karimsDesk.pair {} karim.id).access.text ∧
    (∀ r, (({} : Setup).step (({} : Setup).run karimsDesk karimsGift)
        (.cancelOrder "CN251009" 7)).answer (listOrders {} karim.id r) =
      (({} : Setup).run karimsDesk karimsGift).answer (listOrders {} karim.id r)) ∧
    (({} : Setup).step (({} : Setup).run karimsDesk karimsGift)
        (.cancelOrder "CN251009" 7)).answer
          (authenticate {} (karimsDesk.pair {} karim.id).access.text) =
      (({} : Setup).run karimsDesk karimsGift).answer
        (authenticate {} (karimsDesk.pair {} karim.id).access.text) := by
  have hother : (7 : Int) ≠ karim.id := by decide
  have hacts : ({} : Setup).ActsFor karimsDesk karimsGift 7 (.cancelOrder "CN251009" 7) := rfl
  have hissued := issued_karim {} [.createOrder gift karim.id]
  obtain ⟨hlistings, -, -, hgate⟩ :=
    users_leave_each_other_alone {} isFresh_karimsDesk karimsGift hother hacts
  exact ⟨isFresh_karimsDesk, hother, hacts, hissued, hlistings, hgate _ _ hissued⟩

end Desk

end ParcelDesk

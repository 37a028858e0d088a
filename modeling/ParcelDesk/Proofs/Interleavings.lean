import ParcelDesk.Proofs.Courses
import ParcelDesk.Proofs.DeskRuns

/-!
Several visits at the desk at once. They take turns call by call, in any order, while clocks move
on; what each of them does is kept in a log. The log accounts for the world: it tells for every text
of the cache who wrote it, for every row that still counts who saved it, and for every token that
once counted who revoked it.
-/

namespace ParcelDesk.Desk

abbrev Log := List (Nat × Act)

def Log.ofVisit (log : Log) (i : Nat) : List Act :=
  log.filterMap fun e => if e.1 = i then some e.2 else none

structure Hall where
  world : World
  visits : List (Task Call Unit)
  log : Log

inductive Turn where
  | serve (i : Nat)
  | advance (ms : Nat)
  | setClock (now : Instant)

namespace Hall

def opened (rules : SessionRules) (w : World) (visits : List Visit) : Hall :=
  ⟨w, visits.map (Visit.task rules), []⟩

def step (h : Hall) : Turn → Hall
  | .serve i =>
    match h.visits[i]? with
    | some (.call c next) =>
      let (answer, world) := World.serve c h.world
      ⟨world, h.visits.set i (next answer),
        h.log ++ (c.act? answer).toList.map fun act => (i, act)⟩
    | _ => h
  | .advance ms => { h with world := { h.world with cache := h.world.cache.advance ms } }
  | .setClock now => { h with world := { h.world with clock := now } }

def run (h : Hall) (turns : List Turn) : Hall := turns.foldl step h

def IsOver (h : Hall) : Prop := ∀ t ∈ h.visits, t = .done ()

end Hall

inductive Effect (w v : World) : Option Act → Prop
  | aside (hrows : v.tokens.rows = w.tokens.rows) (htexts : v.cache.texts = w.cache.texts) :
      Effect w v none
  | draw (drawn : String) (hrows : v.tokens.rows = w.tokens.rows)
      (htexts : v.cache.texts = w.cache.texts) : Effect w v (some (.draw drawn))
  | find {t : StoredToken} (hmem : t ∈ w.tokens.rows) (hopen : t.isRevoked = false)
      (hrows : v.tokens.rows = w.tokens.rows) (htexts : v.cache.texts = w.cache.texts) :
      Effect w v (some (.find t.kind t.userId t.token))
  | save (t : StoredToken) (id : Int) (hrows : v.tokens.rows = w.tokens.rows ++ [{ t with id }])
      (htexts : v.cache.texts = w.cache.texts) : Effect w v (some (.save t))
  | revoke (kind : TokenKind) (userId : Int)
      (hrows : v.tokens.rows = w.tokens.rows.map (revokedOf kind userId w.clock))
      (htexts : v.cache.texts = w.cache.texts) :
      Effect w v (some (.revoke kind userId
        (w.tokens.rows.filter (TokenStore.isOpen kind userId))))
  | write (key value : String) {expiry : Nat} (hrows : v.tokens.rows = w.tokens.rows)
      (hself : v.cache.texts.lookup key = some ⟨value, expiry⟩)
      (hothers : ∀ k ≠ key, v.cache.texts.lookup k = w.cache.texts.lookup k) :
      Effect w v (some (.write key value))
  | erase (key : String) (hrows : v.tokens.rows = w.tokens.rows)
      (hself : v.cache.texts.lookup key = none)
      (hothers : ∀ k ≠ key, v.cache.texts.lookup k = w.cache.texts.lookup k) :
      Effect w v (some (.erase key))

structure World.InReach (w : World) : Prop where
  tokens : w.tokens.isDown = false
  cache : w.cache.isDown = false

/-- No call puts anything out of reach. -/
theorem inReach_serve {β : Type} {w : World} (hup : w.InReach) (c : Call β) :
    (World.serve c w).2.InReach := by
  obtain ⟨htokens, hcache⟩ := hup
  cases c with
  | saveToken t => exact ⟨(TokenStore.save_isDown w.tokens t).trans htokens, hcache⟩
  | revokeTokens kind userId =>
    simp only [World.serve, TokenStore.revokeAll, htokens, Bool.false_eq_true, ↓reduceIte,
      World.withTokens]
    exact ⟨rfl, hcache⟩
  | cache key value seconds =>
    exact ⟨htokens, (Cache.Memory.set_isDown w.cache key value seconds).trans hcache⟩
  | uncache key => exact ⟨htokens, (Cache.Memory.delete_isDown w.cache key).trans hcache⟩
  | mirror o =>
    simp only [World.serve, Cache.Memory.mirror, Cache.Memory.change_of_isUp hcache,
      World.withCache]
    exact ⟨htokens, hcache⟩
  | evict consignmentId =>
    simp only [World.serve, Cache.Memory.evict, Cache.Memory.change_of_isUp hcache,
      World.withCache]
    exact ⟨htokens, hcache⟩
  | _ => exact ⟨htokens, hcache⟩

theorem effect_serve {β : Type} {w : World} (hup : w.InReach) (c : Call β) :
    Effect w (World.serve c w).2 (c.act? (World.serve c w).1) := by
  obtain ⟨htokens, hcache⟩ := hup
  cases c with
  | tokenId => exact .draw _ rfl rfl
  | revokeTokens kind userId =>
    simp only [World.serve, TokenStore.revokeAll, htokens, Bool.false_eq_true, ↓reduceIte,
      World.withTokens]
    exact .revoke kind userId rfl rfl
  | saveToken t =>
    simp only [World.serve, TokenStore.save, htokens, Bool.false_eq_true, ↓reduceIte,
      World.withTokens]
    exact .save t _ rfl rfl
  | findToken kind userId token =>
    simp only [World.serve, TokenStore.findActive, htokens, Bool.false_eq_true, ↓reduceIte]
    cases hfound : w.tokens.rows.find? fun t =>
        t.kind = kind && t.userId == userId && t.token == token && t.isActive w.clock with
    | none => exact .aside rfl rfl
    | some t =>
      have hfits := List.find?_some hfound
      simp only [Bool.and_eq_true, decide_eq_true_eq, beq_iff_eq, StoredToken.isActive,
        Bool.not_eq_true'] at hfits
      obtain ⟨⟨⟨rfl, rfl⟩, rfl⟩, hopen, -⟩ := hfits
      exact .find (List.mem_of_find?_eq_some hfound) hopen rfl rfl
  | cache key value seconds =>
    simp only [World.serve, Cache.Memory.set, Cache.Memory.change_of_isUp hcache, World.withCache]
    exact .write key value rfl (Cache.Entries.lookup_put_self key _ _)
      fun k hk => Cache.Entries.lookup_put_of_ne hk _ _
  | uncache key =>
    simp only [World.serve, Cache.Memory.delete, Cache.Memory.change_of_isUp hcache,
      World.withCache]
    exact .erase key rfl (Cache.Entries.lookup_erase_self key _)
      fun k hk => Cache.Entries.lookup_erase_of_ne hk _
  | mirror o =>
    simp only [World.serve, Cache.Memory.mirror, Cache.Memory.change_of_isUp hcache,
      World.withCache]
    exact .aside rfl rfl
  | evict consignmentId =>
    simp only [World.serve, Cache.Memory.evict, Cache.Memory.change_of_isUp hcache,
      World.withCache]
    exact .aside rfl rfl
  | _ => exact .aside rfl rfl

def Act.Touches (key : String) : Act → Prop
  | .write k _ => k = key
  | .erase k => k = key
  | _ => False

def Act.Revokes (userId : Int) (a : Act) : Prop := ∃ revoked, a = .revoke .access userId revoked

/-- The visit did this, and nothing of a certain kind was done by anyone since. -/
def Log.Stands (log : Log) (i : Nat) (act : Act) (undone : Act → Prop) : Prop :=
  ∃ before after, log = before ++ (i, act) :: after ∧ ∀ e ∈ after, ¬ undone e.2

namespace Log

variable {log : Log} {i j : Nat} {act other : Act} {undone : Act → Prop}

theorem stands_concat_self : Stands (log ++ [(i, act)]) i act undone :=
  ⟨log, [], rfl, fun _ he => absurd he List.not_mem_nil⟩

theorem Stands.concat (h : Stands log i act undone) (hother : ¬ undone other) :
    Stands (log ++ [(j, other)]) i act undone := by
  obtain ⟨before, after, rfl, hafter⟩ := h
  refine ⟨before, after ++ [(j, other)], by simp, fun e he => ?_⟩
  obtain hearlier | hlast := List.mem_append.mp he
  · exact hafter e hearlier
  · rw [List.mem_singleton.mp hlast]
    exact hother

end Log

def World.Open (userId : Int) (token : String) (w : World) : Prop :=
  ∃ t ∈ w.tokens.rows, TokenStore.isOpen .access userId t = true ∧ t.token = token

structure Log.Accounts (log : Log) (w : World) : Prop where
  smooth : ∀ i, (i, .fail) ∉ log
  texts {key : String} {e : Cache.Expiring} : w.cache.texts.lookup key = some e →
    ∃ i, log.Stands i (.write key e.value) (Act.Touches key)
  rows {userId : Int} {token : String} : w.Open userId token →
    ∃ i t, log.Stands i (.save t) (Act.Revokes userId) ∧ t.kind = .access ∧
      t.userId = userId ∧ t.token = token
  vouched {before after : Log} {i : Nat} {act : Act} {userId : Int} {token : String} :
    log = before ++ (i, act) :: after → act.Vouches userId token →
      w.Open userId token ∨ ∃ j revoked, (j, .revoke .access userId revoked) ∈ after ∧
        ∃ t ∈ revoked, t.kind = .access ∧ t.token = token

theorem accounts_nil {w : World} (hrows : w.tokens.rows = []) (htexts : w.cache.texts = []) :
    Log.Accounts [] w where
  smooth _ := List.not_mem_nil
  texts h := by simp [htexts] at h
  rows h := by
    obtain ⟨t, ht, -⟩ := h
    simp [hrows] at ht
  vouched h := by simp at h

section Step

variable {log : Log} {w v : World} {i : Nat} {act : Act}

/-- A token that was vouched for is still open, or is revoked by the next act or an earlier one. -/
theorem vouched_concat (h : log.Accounts w)
    (hopen : ∀ {userId token}, w.Open userId token → v.Open userId token ∨
      ∃ revoked, act = .revoke .access userId revoked ∧
        ∃ t ∈ revoked, t.kind = .access ∧ t.token = token)
    (hnow : ∀ {userId token}, act.Vouches userId token → v.Open userId token)
    {before after : Log} {j : Nat} {earlier : Act} {userId : Int} {token : String}
    (hlog : log ++ [(i, act)] = before ++ (j, earlier) :: after)
    (hvouches : earlier.Vouches userId token) :
    v.Open userId token ∨ ∃ j revoked, (j, .revoke .access userId revoked) ∈ after ∧
      ∃ t ∈ revoked, t.kind = .access ∧ t.token = token := by
  obtain ⟨-, hsame, rfl⟩ | ⟨middle, rfl, hbefore⟩ := Setup.split_concat hlog
  · obtain ⟨rfl, rfl⟩ := Prod.mk.inj hsame
    exact .inl (hnow hvouches)
  · obtain hw | ⟨k, revoked, hmem, hrow⟩ := h.vouched hbefore hvouches
    · obtain hv | ⟨revoked, rfl, hrow⟩ := hopen hw
      · exact .inl hv
      · exact .inr ⟨i, revoked, by simp, hrow⟩
    · exact .inr ⟨k, revoked, List.mem_append_left _ hmem, hrow⟩

theorem open_congr (hrows : v.tokens.rows = w.tokens.rows) (userId : Int) (token : String) :
    v.Open userId token ↔ w.Open userId token := by
  rw [World.Open, World.Open, hrows]

theorem smooth_concat (h : log.Accounts w) (hfail : act ≠ .fail) (j : Nat) :
    (j, .fail) ∉ log ++ [(i, act)] := by
  intro hmem
  obtain hlog | hlast := List.mem_append.mp hmem
  · exact h.smooth j hlog
  · exact hfail (Prod.mk.inj (List.mem_singleton.mp hlast)).2.symm

/-- An act that leaves the rows as they are keeps the accounts of them. -/
theorem Log.Accounts.concat (h : log.Accounts w) (hrows : v.tokens.rows = w.tokens.rows)
    (hfail : act ≠ .fail) (hquiet : ∀ userId, ¬ act.Revokes userId)
    (hnow : ∀ {userId token}, act.Vouches userId token → w.Open userId token)
    (htexts : ∀ {key e}, v.cache.texts.lookup key = some e →
      ∃ i', Log.Stands (log ++ [(i, act)]) i' (.write key e.value) (Act.Touches key)) :
    Log.Accounts (log ++ [(i, act)]) v where
  smooth := smooth_concat h hfail
  texts := htexts
  rows {userId token} hopen := by
    rw [open_congr hrows] at hopen
    obtain ⟨j, t, hstands, ht⟩ := h.rows hopen
    exact ⟨j, t, hstands.concat (hquiet userId), ht⟩
  vouched hlog hvouches := by
    refine vouched_concat h (fun {userId token} hopen => .inl ?_) (fun {userId token} hact => ?_)
      hlog hvouches
    · rwa [open_congr hrows]
    · rw [open_congr hrows]
      exact hnow hact

/-- Rows and texts are all that is accounted for. -/
theorem Log.Accounts.congr (h : log.Accounts w) (hrows : v.tokens.rows = w.tokens.rows)
    (htexts : v.cache.texts = w.cache.texts) : log.Accounts v where
  smooth := h.smooth
  texts {key e} hlookup := h.texts (htexts ▸ hlookup)
  rows {userId token} hopen := h.rows ((open_congr hrows userId token).mp hopen)
  vouched {_ _ _ _ userId token} hlog hvouches := by
    rw [open_congr hrows userId token]
    exact h.vouched hlog hvouches

/-- An act that changes no text keeps the accounts of the texts. -/
theorem texts_concat (h : log.Accounts w) (htexts : v.cache.texts = w.cache.texts)
    (hquiet : ∀ key, ¬ act.Touches key) {key : String} {e : Cache.Expiring}
    (hlookup : v.cache.texts.lookup key = some e) :
    ∃ j, Log.Stands (log ++ [(i, act)]) j (.write key e.value) (Act.Touches key) := by
  rw [htexts] at hlookup
  obtain ⟨j, hstands⟩ := h.texts hlookup
  exact ⟨j, hstands.concat (hquiet key)⟩

theorem accounts_draw (h : log.Accounts w) (drawn : String) (hrows : v.tokens.rows = w.tokens.rows)
    (htexts : v.cache.texts = w.cache.texts) : Log.Accounts (log ++ [(i, .draw drawn)]) v := by
  refine h.concat hrows (by simp) ?_ ?_ (texts_concat h htexts fun key => id)
  · rintro userId ⟨revoked, hact⟩
    cases hact
  · intro userId token hvouches
    cases hvouches

theorem accounts_find (h : log.Accounts w) {t : StoredToken} (hmem : t ∈ w.tokens.rows)
    (hopen : t.isRevoked = false) (hrows : v.tokens.rows = w.tokens.rows)
    (htexts : v.cache.texts = w.cache.texts) :
    Log.Accounts (log ++ [(i, .find t.kind t.userId t.token)]) v := by
  refine h.concat hrows (by simp) ?_ ?_ (texts_concat h htexts fun key => id)
  · rintro userId ⟨revoked, hact⟩
    cases hact
  · intro userId token hvouches
    generalize hkind : t.kind = kind at hvouches
    generalize howner : t.userId = owner at hvouches
    cases hvouches
    exact ⟨t, hmem, (isOpen_iff _ _ _).mpr ⟨hkind, howner, hopen⟩, rfl⟩

theorem accounts_write (h : log.Accounts w) {key value : String} {expiry : Nat}
    (hrows : v.tokens.rows = w.tokens.rows)
    (hself : v.cache.texts.lookup key = some ⟨value, expiry⟩)
    (hothers : ∀ k ≠ key, v.cache.texts.lookup k = w.cache.texts.lookup k) :
    Log.Accounts (log ++ [(i, .write key value)]) v := by
  refine h.concat hrows (by simp) ?_ ?_ ?_
  · rintro userId ⟨revoked, hact⟩
    cases hact
  · intro userId token hvouches
    cases hvouches
  · intro k e hlookup
    by_cases hk : k = key
    · subst hk
      rw [hself] at hlookup
      obtain rfl := Option.some.inj hlookup
      exact ⟨i, Log.stands_concat_self⟩
    · rw [hothers k hk] at hlookup
      obtain ⟨j, hstands⟩ := h.texts hlookup
      exact ⟨j, hstands.concat (Ne.symm hk)⟩

theorem accounts_erase (h : log.Accounts w) {key : String}
    (hrows : v.tokens.rows = w.tokens.rows) (hself : v.cache.texts.lookup key = none)
    (hothers : ∀ k ≠ key, v.cache.texts.lookup k = w.cache.texts.lookup k) :
    Log.Accounts (log ++ [(i, .erase key)]) v := by
  refine h.concat hrows (by simp) ?_ ?_ ?_
  · rintro userId ⟨revoked, hact⟩
    cases hact
  · intro userId token hvouches
    cases hvouches
  · intro k e hlookup
    by_cases hk : k = key
    · subst hk
      rw [hself] at hlookup
      cases hlookup
    · rw [hothers k hk] at hlookup
      obtain ⟨j, hstands⟩ := h.texts hlookup
      exact ⟨j, hstands.concat (Ne.symm hk)⟩

theorem accounts_save (h : log.Accounts w) (t : StoredToken) (id : Int)
    (hrows : v.tokens.rows = w.tokens.rows ++ [{ t with id }])
    (htexts : v.cache.texts = w.cache.texts) : Log.Accounts (log ++ [(i, .save t)]) v where
  smooth := smooth_concat h (by simp)
  texts := texts_concat h htexts fun key => by exact not_false
  rows {userId token} hopen := by
    obtain ⟨row, hrow, hfits, htoken⟩ := hopen
    rw [hrows] at hrow
    obtain hold | hnew := List.mem_append.mp hrow
    · obtain ⟨j, saved, hstands, hsaved⟩ := h.rows ⟨row, hold, hfits, htoken⟩
      refine ⟨j, saved, hstands.concat ?_, hsaved⟩
      rintro ⟨revoked, hact⟩
      cases hact
    · obtain rfl := List.mem_singleton.mp hnew
      obtain ⟨hkind, howner, -⟩ := (isOpen_iff _ _ _).mp hfits
      exact ⟨i, t, Log.stands_concat_self, hkind, howner, htoken⟩
  vouched hlog hvouches := by
    refine vouched_concat h (fun {userId token} hopen => .inl ?_) (fun {userId token} hact => ?_)
      hlog hvouches
    · obtain ⟨row, hrow, hfits⟩ := hopen
      exact ⟨row, hrows ▸ List.mem_append_left _ hrow, hfits⟩
    · cases hact with
      | save hkind howner htoken hnew =>
        exact ⟨{ t with id }, by simp [hrows], (isOpen_iff _ _ _).mpr ⟨hkind, howner, hnew⟩,
          htoken⟩

/-- A row that is open after some tokens were revoked is none of them and was left as it is. -/
theorem stays_open {kind : TokenKind} {userId owner : Int} {now : Instant} {t : StoredToken}
    (hopen : TokenStore.isOpen .access owner (revokedOf kind userId now t) = true) :
    revokedOf kind userId now t = t ∧ ¬ (kind = .access ∧ userId = owner) := by
  unfold revokedOf at hopen ⊢
  split at hopen
  · exact absurd ((isOpen_iff _ _ _).mp hopen).2.2 (by simp [StoredToken.isRevoked])
  · rename_i hnot
    refine ⟨if_neg hnot, ?_⟩
    rintro ⟨rfl, rfl⟩
    exact hnot hopen

theorem accounts_revoke (h : log.Accounts w) (kind : TokenKind) (userId : Int)
    (hrows : v.tokens.rows = w.tokens.rows.map (revokedOf kind userId w.clock))
    (htexts : v.cache.texts = w.cache.texts) :
    Log.Accounts (log ++ [(i, .revoke kind userId
      (w.tokens.rows.filter (TokenStore.isOpen kind userId)))]) v where
  smooth := smooth_concat h (by simp)
  texts := texts_concat h htexts fun key => by exact not_false
  rows {owner token} hopen := by
    obtain ⟨row, hrow, hfits, htoken⟩ := hopen
    rw [hrows] at hrow
    obtain ⟨old, hold, rfl⟩ := List.mem_map.mp hrow
    obtain ⟨hstays, hother⟩ := stays_open hfits
    rw [hstays] at hfits htoken
    obtain ⟨j, saved, hstands, hsaved⟩ := h.rows ⟨old, hold, hfits, htoken⟩
    refine ⟨j, saved, hstands.concat ?_, hsaved⟩
    rintro ⟨revoked, hact⟩
    obtain ⟨rfl, rfl, -⟩ := Act.revoke.inj hact
    exact hother ⟨rfl, rfl⟩
  vouched hlog hvouches := by
    refine vouched_concat h (fun {owner token} hopen => ?_) (fun {owner token} hact => ?_)
      hlog hvouches
    · obtain ⟨row, hrow, hfits, htoken⟩ := hopen
      by_cases hown : TokenStore.isOpen kind userId row = true
      · obtain ⟨rfl, rfl, hnew⟩ := (isOpen_iff _ _ _).mp hown
        obtain ⟨hkind, rfl, -⟩ := (isOpen_iff _ _ _).mp hfits
        refine .inr ⟨_, by rw [hkind], row, List.mem_filter.mpr ⟨hrow, ?_⟩, hkind, htoken⟩
        exact hfits
      · refine .inl ⟨row, ?_, hfits, htoken⟩
        rw [hrows]
        exact List.mem_map.mpr ⟨row, hrow, if_neg hown⟩
    · cases hact

/-- What a call does is accounted for by its act. -/
theorem accounts_step (h : log.Accounts w) {act? : Option Act} (heffect : Effect w v act?) :
    Log.Accounts (log ++ act?.toList.map fun act => (i, act)) v := by
  cases heffect with
  | aside hrows htexts =>
    rw [Option.toList_none, List.map_nil, List.append_nil]
    exact h.congr hrows htexts
  | draw drawn hrows htexts => exact accounts_draw h drawn hrows htexts
  | find hmem hopen hrows htexts => exact accounts_find h hmem hopen hrows htexts
  | save t id hrows htexts => exact accounts_save h t id hrows htexts
  | revoke kind userId hrows htexts => exact accounts_revoke h kind userId hrows htexts
  | write key value hrows hself hothers => exact accounts_write h hrows hself hothers
  | erase key hrows hself hothers => exact accounts_erase h hrows hself hothers

end Step

namespace Log

variable {log : Log} {i j : Nat} {act : Act} {acts : List Act}

@[simp]
theorem mem_ofVisit : act ∈ log.ofVisit i ↔ (i, act) ∈ log := by
  simp only [ofVisit, List.mem_filterMap, Option.ite_none_right_eq_some, Option.some.injEq]
  constructor
  · rintro ⟨e, hmem, rfl, rfl⟩
    exact hmem
  · exact fun hmem => ⟨(i, act), hmem, rfl, rfl⟩

@[simp]
theorem ofVisit_append (other : Log) :
    Log.ofVisit (log ++ other) i = log.ofVisit i ++ other.ofVisit i := List.filterMap_append

@[simp]
theorem ofVisit_cons_self : Log.ofVisit ((i, act) :: log) i = act :: log.ofVisit i :=
  List.filterMap_cons_some (if_pos rfl)

theorem ofVisit_cons_of_ne (h : j ≠ i) : Log.ofVisit ((j, act) :: log) i = log.ofVisit i :=
  List.filterMap_cons_none (if_neg h)

theorem ofVisit_own (i : Nat) (acts : List Act) :
    Log.ofVisit (acts.map fun act => (i, act)) i = acts := by
  induction acts with
  | nil => rfl
  | cons act acts ih => rw [List.map_cons, ofVisit_cons_self, ih]

theorem ofVisit_others (h : j ≠ i) (acts : List Act) :
    Log.ofVisit (acts.map fun act => (j, act)) i = [] := by
  induction acts with
  | nil => rfl
  | cons act acts ih => rw [List.map_cons, ofVisit_cons_of_ne h, ih]

/-- What the visit did before and after one of its acts. -/
theorem ofVisit_of_split {before after : Log} (h : log = before ++ (i, act) :: after) :
    log.ofVisit i = before.ofVisit i ++ act :: after.ofVisit i := by
  rw [h, ofVisit_append, ofVisit_cons_self]

/-- Where one of the acts of a visit stands in the log. -/
theorem split_ofVisit {before after : List Act} (h : log.ofVisit i = before ++ act :: after) :
    ∃ front back : Log, log = front ++ (i, act) :: back ∧ front.ofVisit i = before ∧
      back.ofVisit i = after := by
  obtain ⟨front, rest, rfl, hfront, hrest⟩ := List.filterMap_eq_append_iff.mp h
  obtain ⟨skipped, e, back, rfl, hskipped, he, hback⟩ := List.filterMap_eq_cons_iff.mp hrest
  obtain ⟨hvisit, hact⟩ := Option.ite_none_right_eq_some.mp he
  refine ⟨front ++ skipped, back, ?_, ?_, hback⟩
  · rw [List.append_assoc, ← hvisit, ← Option.some.inj hact]
  · have hnone : Log.ofVisit skipped i = [] := List.filterMap_eq_nil_iff.mpr hskipped
    rw [ofVisit_append, hnone, List.append_nil]
    exact hfront

end Log

/-- The log accounts for the world, and tells of every visit how far it has come. -/
structure Hall.Sound (rules : SessionRules) (visits : List Visit) (h : Hall) : Prop where
  inReach : h.world.InReach
  accounts : h.log.Accounts h.world
  crowd : h.visits.length = visits.length
  course {i : Nat} {visit : Visit} : visits[i]? = some visit →
    ∃ t, h.visits[i]? = some t ∧ ∀ acts, t.Follows acts () →
      (visit.task rules).Follows (h.log.ofVisit i ++ acts) ()
  strangers {i : Nat} {act : Act} : (i, act) ∈ h.log → i < visits.length

namespace Hall

variable {rules : SessionRules} {visits : List Visit} {h : Hall}

theorem sound_opened {w : World} (hup : w.InReach) (hrows : w.tokens.rows = [])
    (htexts : w.cache.texts = []) : (opened rules w visits).Sound rules visits where
  inReach := hup
  accounts := accounts_nil hrows htexts
  crowd := List.length_map _
  course {i visit} hvisit := by
    refine ⟨visit.task rules, ?_, fun acts => id⟩
    simp [opened, hvisit]
  strangers hmem := absurd hmem List.not_mem_nil

/-- A call of one visit takes it further, and the others stay where they are. -/
theorem Sound.serve (hsound : h.Sound rules visits) {i : Nat} {β : Type} {c : Call β}
    {next : β → Task Call Unit} (hnext : h.visits[i]? = some (.call c next)) :
    Sound rules visits ⟨(World.serve c h.world).2,
      h.visits.set i (next (World.serve c h.world).1),
      h.log ++ (c.act? (World.serve c h.world).1).toList.map fun act => (i, act)⟩ where
  inReach := inReach_serve hsound.inReach c
  accounts := accounts_step hsound.accounts (effect_serve hsound.inReach c)
  crowd := List.length_set.trans hsound.crowd
  course {j visit} hvisit := by
    obtain ⟨t, ht, hcourse⟩ := hsound.course hvisit
    by_cases hj : i = j
    · subst hj
      obtain rfl := Option.some.inj (ht.symm.trans hnext)
      refine ⟨_, List.getElem?_set_self (List.getElem?_eq_some_iff.mp ht).1, fun acts hacts => ?_⟩
      rw [Log.ofVisit_append, Log.ofVisit_own, List.append_assoc]
      exact hcourse _ ⟨_, acts, rfl, hacts⟩
    · refine ⟨t, (List.getElem?_set_ne hj).trans ht, fun acts hacts => ?_⟩
      rw [Log.ofVisit_append, Log.ofVisit_others hj, List.append_nil]
      exact hcourse acts hacts
  strangers {j act} hmem := by
    obtain hlog | hnew := List.mem_append.mp hmem
    · exact hsound.strangers hlog
    · obtain ⟨_, -, hact⟩ := List.mem_map.mp hnew
      obtain ⟨rfl, -⟩ := Prod.mk.inj hact
      rw [← hsound.crowd]
      exact (List.getElem?_eq_some_iff.mp hnext).1

theorem sound_step (hsound : h.Sound rules visits) (turn : Turn) :
    (h.step turn).Sound rules visits := by
  cases turn with
  | serve i =>
    rw [step]
    split
    · rename_i hnext
      exact hsound.serve hnext
    · exact hsound
  | advance ms =>
    exact ⟨⟨hsound.inReach.tokens, hsound.inReach.cache⟩, hsound.accounts.congr rfl rfl,
      hsound.crowd, hsound.course, hsound.strangers⟩
  | setClock now =>
    exact ⟨⟨hsound.inReach.tokens, hsound.inReach.cache⟩, hsound.accounts.congr rfl rfl,
      hsound.crowd, hsound.course, hsound.strangers⟩

theorem sound_run (hsound : h.Sound rules visits) (turns : List Turn) :
    (h.run turns).Sound rules visits := by
  induction turns generalizing h with
  | nil => exact hsound
  | cons turn turns ih => exact ih (sound_step hsound turn)

/-- When all visits are over, each of them has taken one of the courses. -/
theorem Sound.course_of_isOver (hsound : h.Sound rules visits) (hsingle : rules.single = true)
    (hover : h.IsOver) (i : Nat) : Course (h.log.ofVisit i) := by
  by_cases hi : i < visits.length
  · obtain ⟨t, ht, hcourse⟩ := hsound.course (List.getElem?_eq_getElem hi)
    obtain rfl := hover t (List.mem_of_getElem? ht)
    have hsmooth : .fail ∉ h.log.ofVisit i := fun hfail =>
      hsound.accounts.smooth i (Log.mem_ofVisit.mp hfail)
    have hfollows := hcourse [] ⟨rfl, rfl⟩
    rw [List.append_nil] at hfollows
    exact course_of_follows hsingle hsmooth hfollows
  · have hnone : h.log.ofVisit i = [] := List.eq_nil_iff_forall_not_mem.mpr fun act hact =>
      hi (hsound.strangers (Log.mem_ofVisit.mp hact))
    rw [hnone]
    exact .nothing

end Hall

end ParcelDesk.Desk

import ParcelDesk.Proofs.Revocation
import ParcelDesk.Proofs.SavedTokens
import ParcelDesk.Proofs.Servings

/-!
Sessions that overlap. No lock holds two calls of a visit together, so a logout may come between the
moment when the gate finds a token and the moment when it writes the owner into the cache, and two
logins may both clear the user's sessions before either saves its own. The log of any run shows that
nothing else goes wrong: a token that is accepted without an open row was overtaken in the first
way, and two tokens that are accepted for one user were crossed in the second, if neither was
overtaken.
-/

namespace ParcelDesk.Desk

open World

namespace Log

/-- One visit saw that the token counts. Before it wrote the owner into the cache, another one
revoked the token and took it out of the cache, and nobody has touched the key since. -/
def Overtaken (log : Log) (userId : Int) (token : String) : Prop :=
  ∃ (i j : Nat) (act : Act) (revoked : List StoredToken) (a b c d e : Log),
    log = a ++ (i, act) :: (b ++ (j, .revoke .access userId revoked) ::
      (c ++ (j, .erase (Cache.tokenKey .access token)) ::
        (d ++ (i, .write (Cache.tokenKey .access token) (ownerText userId)) :: e))) ∧
    i ≠ j ∧ act.Vouches userId token ∧ (∃ t ∈ revoked, t.kind = .access ∧ t.token = token) ∧
    ∀ x ∈ e, ¬ x.2.Touches (Cache.tokenKey .access token)

/-- Two visits saved the tokens after both had revoked what the user had before. -/
def Crossed (log : Log) (userId : Int) (token other : String) : Prop :=
  ∃ (i j : Nat) (t u : StoredToken) (before after : Log),
    log = before ++ after ∧ i ≠ j ∧
    (∃ revoked, (i, .revoke .access userId revoked) ∈ before) ∧
    (∃ revoked, (j, .revoke .access userId revoked) ∈ before) ∧
    (i, .save t) ∈ after ∧ (j, .save u) ∈ after ∧
    (t.kind = .access ∧ t.userId = userId ∧ t.token = token) ∧
    u.kind = .access ∧ u.userId = userId ∧ u.token = other

def Undisturbed (log : Log) (userId : Int) : Prop :=
  ∀ {i j : Nat} {first last : Act} {revoked : List StoredToken} {a b c d : Log},
    log = a ++ (i, first) :: (b ++ (j, .revoke .access userId revoked) ::
      (c ++ (i, last) :: d)) → i = j

end Log

section Logged

variable {log : Log} {w : World} {userId : Int} {token other : String}

/-- What a visit revokes, it takes out of the cache later. -/
theorem erased_later (hcourse : ∀ i, Course (log.ofVisit i)) {before after : Log} {j : Nat}
    {revoked : List StoredToken}
    (hlog : log = before ++ (j, .revoke .access userId revoked) :: after)
    (hrow : ∃ t ∈ revoked, t.kind = .access ∧ t.token = token) :
    (j, .erase (Cache.tokenKey .access token)) ∈ after := by
  obtain ⟨t, ht, hkind, rfl⟩ := hrow
  have herase := (hcourse j).erases (Log.ofVisit_of_split hlog) ht
  rwa [hkind, Log.mem_ofVisit] at herase

/-- A text that names the owner of a token was written by a visit that had vouched for the token in
its act before. -/
theorem written_of_lookup (hlog : log.Accounts w) (hcourse : ∀ i, Course (log.ofVisit i))
    {e : Cache.Expiring} (hlookup : w.cache.texts.lookup (Cache.tokenKey .access token) = some e)
    (howner : e.value = ownerText userId) :
    ∃ (i : Nat) (act : Act) (before middle after : Log),
      log = before ++ (i, act) :: (middle ++
        (i, .write (Cache.tokenKey .access token) (ownerText userId)) :: after) ∧
      act.Vouches userId token ∧ middle.ofVisit i = [] ∧
      ∀ x ∈ after, ¬ x.2.Touches (Cache.tokenKey .access token) := by
  obtain ⟨i, front, after, hsplit, huntouched⟩ := hlog.texts hlookup
  rw [howner] at hsplit
  obtain ⟨earlier, act, owner, hearlier, hvouches, htext⟩ :=
    (hcourse i).vouched (Log.ofVisit_of_split hsplit)
  obtain rfl := ownerText_injective htext
  obtain ⟨before, middle, rfl, -, hmiddle⟩ := Log.split_ofVisit hearlier
  exact ⟨i, act, before, middle, after, by simpa using hsplit, hvouches, hmiddle, huntouched⟩

/-- A text that names the owner of a token without open row was written by a visit that was
overtaken. -/
theorem overtaken_of_lookup (hlog : log.Accounts w) (hcourse : ∀ i, Course (log.ofVisit i))
    {e : Cache.Expiring} (hlookup : w.cache.texts.lookup (Cache.tokenKey .access token) = some e)
    (howner : e.value = ownerText userId) (hrevoked : ¬ w.Open userId token) :
    log.Overtaken userId token := by
  obtain ⟨i, act, a, middle, after, hsplit, hvouches, hmiddle, huntouched⟩ :=
    written_of_lookup hlog hcourse hlookup howner
  have hlate {k : Nat} : (k, .erase (Cache.tokenKey .access token)) ∉ after :=
    fun hmem => huntouched _ hmem rfl
  -- the token counted then, so a later act revoked it
  obtain hopen | ⟨j, revoked, hmem, hrow⟩ := hlog.vouched hsplit hvouches
  · exact absurd hopen hrevoked
  obtain hbetween | hbehind := List.mem_append.mp hmem
  · obtain ⟨b, rest, rfl⟩ := List.append_of_mem hbetween
    have hother : i ≠ j := by
      rintro rfl
      have hown := Log.mem_ofVisit.mpr hbetween
      rw [hmiddle] at hown
      cases hown
    have hrevoke : log = (a ++ (i, act) :: b) ++ (j, .revoke .access userId revoked) ::
        (rest ++ (i, .write (Cache.tokenKey .access token) (ownerText userId)) :: after) := by
      simpa using hsplit
    -- the token was out of the cache before its owner was written
    obtain hinner | hbehind := List.mem_append.mp (erased_later hcourse hrevoke hrow)
    · obtain ⟨c, d, rfl⟩ := List.append_of_mem hinner
      refine ⟨i, j, act, revoked, a, b, c, d, after, ?_, hother, hvouches, hrow, huntouched⟩
      simpa using hsplit
    · obtain hwrite | hafter := List.mem_cons.mp hbehind
      · cases hwrite
      · exact absurd hafter hlate
  · obtain hwrite | hafter := List.mem_cons.mp hbehind
    · cases hwrite
    · obtain ⟨b, rest, rfl⟩ := List.append_of_mem hafter
      have hrevoke : log = (a ++ (i, act) :: (middle ++
          (i, .write (Cache.tokenKey .access token) (ownerText userId)) :: b)) ++
            (j, .revoke .access userId revoked) :: rest := by
        simpa using hsplit
      have herase := erased_later hcourse hrevoke hrow
      exact absurd (List.mem_append_right b (List.mem_cons_of_mem _ herase)) hlate

/-- An open token was saved by a login that had revoked the others, and everyone who revoked access
tokens of the user did so before. -/
theorem saved_of_open (hlog : log.Accounts w) (hcourse : ∀ i, Course (log.ofVisit i))
    (hopen : w.Open userId token) :
    ∃ i t before after, log = before ++ (i, .save t) :: after ∧
      (t.kind = .access ∧ t.userId = userId ∧ t.token = token) ∧
      (∃ revoked, (i, .revoke .access userId revoked) ∈ log) ∧
      ∀ j revoked, (j, .revoke .access userId revoked) ∈ log →
        (j, .revoke .access userId revoked) ∈ before := by
  obtain ⟨i, t, ⟨before, after, hsplit, hquiet⟩, hkind, rfl, htoken⟩ := hlog.rows hopen
  have hsave : .save t ∈ log.ofVisit i := by simp [hsplit]
  obtain ⟨⟨revoked, hrevoke⟩, -⟩ := (hcourse i).saves hsave hkind
  refine ⟨i, t, before, after, hsplit, ⟨hkind, rfl, htoken⟩, ⟨revoked, Log.mem_ofVisit.mp hrevoke⟩,
    fun j revoked hmem => ?_⟩
  rw [hsplit] at hmem
  obtain hbefore | hbehind := List.mem_append.mp hmem
  · exact hbefore
  · obtain hsame | hafter := List.mem_cons.mp hbehind
    · cases hsame
    · exact absurd ⟨revoked, rfl⟩ (hquiet _ hafter)

/-- Two open tokens of one user come from logins that were crossed. -/
theorem crossed_of_open (hlog : log.Accounts w) (hcourse : ∀ i, Course (log.ofVisit i))
    (hne : token ≠ other) (htoken : w.Open userId token) (hother : w.Open userId other) :
    log.Crossed userId token other := by
  obtain ⟨i, t, before, after, hsplit, ht, ⟨mine, hmine⟩, hearlier⟩ :=
    saved_of_open hlog hcourse htoken
  obtain ⟨j, u, front, back, hsplit', hu, ⟨yours, hyours⟩, hearlier'⟩ :=
    saved_of_open hlog hcourse hother
  have hij : i ≠ j := by
    rintro rfl
    have hone : .save t ∈ log.ofVisit i := by simp [hsplit]
    have htwo : .save u ∈ log.ofVisit i := by simp [hsplit']
    obtain rfl := ((hcourse i).saves hone ht.1).2 u htwo hu.1
    exact hne (ht.2.2.symm.trans hu.2.2)
  -- the log is cut at the first of the two tokens that were saved
  obtain ⟨middle, hfront, hback⟩ | ⟨middle, hbefore, hback⟩ :=
    List.append_eq_append_iff.mp (hsplit.symm.trans hsplit')
  · refine ⟨i, j, t, u, before, (i, .save t) :: after, hsplit, hij, ⟨mine, hearlier _ _ hmine⟩,
      ⟨yours, hearlier _ _ hyours⟩, List.mem_cons_self, ?_, ht, hu⟩
    rw [hback]
    simp
  · refine ⟨i, j, t, u, front, (j, .save u) :: back, hsplit', hij, ⟨mine, hearlier' _ _ hmine⟩,
      ⟨yours, hearlier' _ _ hyours⟩, ?_, List.mem_cons_self, ht, hu⟩
    rw [hback]
    simp

/-- Whatever the gate lets pass is open, or was overtaken. -/
theorem open_or_overtaken (hlog : log.Accounts w) (hcourse : ∀ i, Course (log.ofVisit i))
    {rules : SessionRules} {c : Claims} (hpass : w.answer (authenticate rules token) = .ok c) :
    w.Open c.userId token ∨ log.Overtaken c.userId token := by
  by_cases hopen : w.Open c.userId token
  · exact .inl hopen
  obtain ⟨-, hmirror | ⟨-, t, ht, hkind, howner, htoken, hactive⟩⟩ :=
    (authenticate_iff w rules token c).mp hpass
  · obtain ⟨e, hlookup, -, howner⟩ := Cache.Memory.text?_eq_some hmirror.owner
    exact .inr (overtaken_of_lookup hlog hcourse hlookup howner hopen)
  · simp only [StoredToken.isActive, Bool.and_eq_true, Bool.not_eq_true'] at hactive
    exact absurd ⟨t, ht, (isOpen_iff _ _ _).mpr ⟨hkind, howner, hactive.1⟩, htoken⟩ hopen

/-- A token with an open row has no row that was revoked, if no two rows are about one token. -/
theorem unrevoked_of_open (hrows : (w.tokens.rows.map StoredToken.token).Nodup)
    (hopen : w.Open userId token) :
    ∀ t ∈ w.tokens.rows, t.token = token → t.isRevoked = false := by
  obtain ⟨row, hrow, hfits, hsame⟩ := hopen
  intro t ht htoken
  rw [List.inj_on_of_nodup_map hrows ht hrow (htoken.trans hsame.symm)]
  exact ((isOpen_iff _ _ _).mp hfits).2.2

/-- Where nobody is disturbed, nobody is overtaken. -/
theorem Log.Undisturbed.not_overtaken (h : log.Undisturbed userId) :
    ¬ log.Overtaken userId token := by
  rintro ⟨i, j, act, revoked, a, b, c, d, e, hlog, hne, -⟩
  exact hne (h (c := c ++ (j, .erase (Cache.tokenKey .access token)) :: d) (by simpa using hlog))

/-- Where nobody is disturbed, no logins are crossed. -/
theorem Log.Undisturbed.not_crossed (h : log.Undisturbed userId) :
    ¬ log.Crossed userId token other := by
  rintro ⟨i, j, t, u, before, after, rfl, hne, ⟨mine, hmine⟩, ⟨yours, hyours⟩, ht, hu, -⟩
  -- whoever revokes second does so between two acts of the other
  obtain ⟨a, rest, rfl⟩ := List.append_of_mem hmine
  obtain ⟨d, e, rfl⟩ := List.append_of_mem ht
  obtain ⟨x, y, hafter⟩ := List.append_of_mem hu
  obtain hfirst | hsecond := List.mem_append.mp hyours
  · obtain ⟨b, c, rfl⟩ := List.append_of_mem hfirst
    have hlog : (b ++ (j, .revoke .access userId yours) :: c) ++
        (i, .revoke .access userId mine) :: rest ++ (d ++ (i, .save t) :: e) =
        b ++ (j, .revoke .access userId yours) :: (c ++ (i, .revoke .access userId mine) ::
          (rest ++ x ++ (j, .save u) :: y)) := by
      rw [hafter]
      simp
    exact hne (h hlog).symm
  · obtain hsame | hsecond := List.mem_cons.mp hsecond
    · exact hne (Prod.mk.inj hsame).1.symm
    · obtain ⟨b, c, rfl⟩ := List.append_of_mem hsecond
      have hlog : a ++ (i, .revoke .access userId mine) ::
          (b ++ (j, .revoke .access userId yours) :: c) ++ (d ++ (i, .save t) :: e) =
          a ++ (i, .revoke .access userId mine) :: (b ++ (j, .revoke .access userId yours) ::
            (c ++ d ++ (i, .save t) :: e)) := by
        simp
      exact hne (h hlog)

end Logged

section Run

variable {rules : SessionRules} {w : World} {visits : List Visit} {turns : List Turn} {h : Hall}

/-- When all visits to a fresh desk are over, the log accounts for the world, every visit has taken
one of the courses, and no two rows are about one token. -/
theorem accounts_of_isOver (hsingle : rules.single = true) (hup : w.InReach) (hfresh : w.IsFresh)
    (hrun : (Hall.opened rules w visits).run turns = h) (hover : h.IsOver) :
    h.log.Accounts h.world ∧ (∀ i, Course (h.log.ofVisit i)) ∧
      (h.world.tokens.rows.map StoredToken.token).Nodup := by
  have hopened : (Hall.opened rules w visits).Sound rules visits :=
    Hall.sound_opened hup hfresh.rows hfresh.texts
  have hsound : h.Sound rules visits := hrun ▸ Hall.sound_run hopened turns
  have hcounts : h.log.Counts h.world := hrun ▸ Hall.counts_run hopened (counts_nil hfresh) turns
  have hcourse := hsound.course_of_isOver hsingle hover
  exact ⟨hsound.accounts, hcourse, hcounts.saved ▸ nodup_saved hcourse hcounts.drawn⟩

/-- Where no visit revokes access tokens of the user between two acts of another, the gate takes
tokens of the user only as long as they are open, and at most one of them. -/
theorem sessions_hold_undisturbed (hsingle : rules.single = true) (hup : w.InReach)
    (hfresh : w.IsFresh) (hrun : (Hall.opened rules w visits).run turns = h) (hover : h.IsOver)
    {userId : Int} (hquiet : h.log.Undisturbed userId) {token : String} {c : Claims}
    (howner : c.userId = userId) (hpass : h.world.answer (authenticate rules token) = .ok c) :
    (∀ t ∈ h.world.tokens.rows, t.token = token → t.isRevoked = false) ∧
      ∀ other d, d.userId = userId → h.world.answer (authenticate rules other) = .ok d →
        other = token := by
  obtain ⟨hlog, hcourse, hrows⟩ := accounts_of_isOver hsingle hup hfresh hrun hover
  have hopen {token : String} {c : Claims} (howner : c.userId = userId)
      (hpass : h.world.answer (authenticate rules token) = .ok c) : h.world.Open userId token := by
    subst howner
    exact (open_or_overtaken hlog hcourse hpass).resolve_right hquiet.not_overtaken
  refine ⟨unrevoked_of_open hrows (hopen howner hpass), fun other d hd hother => ?_⟩
  by_contra hne
  exact hquiet.not_crossed (crossed_of_open hlog hcourse hne (hopen hd hother) (hopen howner hpass))

end Run

def karimsRace : List Visit :=
  [.login karimsForm, .authenticate karimsToken.text, .logout karim.id]

/-- Ten minutes after the login the gate finds the token in the token store. Then comes the whole
logout, and only afterwards the gate writes down the owner. -/
def karimsRaceTurns : List Turn :=
  List.replicate 14 (.serve 0) ++ (.advance 600000 :: List.replicate 3 (.serve 1) ++
    (List.replicate 5 (.serve 2) ++ List.replicate 1 (.serve 1)))

def karimsRaceOver : Hall := (Hall.opened {} karimsDesk karimsRace).run karimsRaceTurns

def karimsBreak : World :=
  { karimsSession {} with cache := (karimsSession {}).cache.advance 600000 }

theorem runFor_karimsLogin : (ended (login {} karimsForm)).runFor World.serve 14 karimsDesk =
    (.done (), karimsSession {}) :=
  (runFor_identify identify_karim _ 13).trans rfl

theorem runFor_karimsLogout : (ended (logout karim.id)).runFor World.serve 5 karimsBreak =
    (.done (), karimsBreak.signedOut karim.id) := rfl

theorem not_mirrors_karimsBreak : ¬ karimsBreak.Mirrors karimsToken.text karim.id := by
  intro h
  have hkeys (other : String) : Cache.tokenKey .access karimsToken.text ≠
      Cache.tokenKey .refresh other := fun hsame => by cases (Cache.tokenKey_inj hsame).1
  have hlookup : (karimsSession {}).cache.texts.lookup
      (Cache.tokenKey .access karimsToken.text) = some ⟨ownerText karim.id, 600000⟩ :=
    (Cache.Memory.lookup_set_of_ne (hkeys _) _ _).trans (Cache.Memory.lookup_set_self rfl _ _ _)
  obtain ⟨e, hfound, hlater, -⟩ := Cache.Memory.text?_eq_some h.owner
  obtain rfl := Option.some.inj (hlookup.symm.trans hfound)
  exact absurd hlater (by decide)

theorem runFor_karimsGate :
    (ended (authenticate {} karimsToken.text)).runFor World.serve 3 karimsBreak =
      (noted {} karimsToken.text karimsToken.claims, karimsBreak) := by
  have hverify : Jwt.verify ({} : SessionRules).token.secret karimsBreak.clock
      karimsToken.text = .ok karimsToken.claims := verify_karimsToken
  have hmirror : ¬ karimsBreak.Mirrors karimsToken.text karimsToken.claims.userId :=
    not_mirrors_karimsBreak
  have hlive : karimsBreak.Live karimsToken.text karimsToken.claims.userId := live_karimsToken
  exact runFor_gate hverify hmirror rfl hlive

theorem run_karimsRace : ∃ log, karimsRaceOver =
    ⟨(karimsBreak.signedOut karim.id).remembered {} .access karimsToken.text karim.id,
      [.done (), .done (), .done ()], log⟩ := by
  obtain ⟨a, ha⟩ : ∃ log, (Hall.opened {} karimsDesk karimsRace).run
      (List.replicate 14 (.serve 0)) = ⟨karimsSession {},
        [.done (), ended (authenticate {} karimsToken.text), ended (logout karim.id)], log⟩ :=
    Hall.run_replicate rfl runFor_karimsLogin
  have hbreak (visits : List (Task Call Unit)) : Hall.step ⟨karimsSession {}, visits, a⟩
      (.advance 600000) = ⟨karimsBreak, visits, a⟩ := rfl
  obtain ⟨b, hb⟩ : ∃ log, Hall.run ⟨karimsBreak,
      [.done (), ended (authenticate {} karimsToken.text), ended (logout karim.id)], a⟩
        (List.replicate 3 (.serve 1)) = ⟨karimsBreak,
          [.done (), noted {} karimsToken.text karimsToken.claims, ended (logout karim.id)], log⟩ :=
    Hall.run_replicate rfl runFor_karimsGate
  obtain ⟨c, hc⟩ : ∃ log, Hall.run ⟨karimsBreak,
      [.done (), noted {} karimsToken.text karimsToken.claims, ended (logout karim.id)], b⟩
        (List.replicate 5 (.serve 2)) = ⟨karimsBreak.signedOut karim.id,
          [.done (), noted {} karimsToken.text karimsToken.claims, .done ()], log⟩ :=
    Hall.run_replicate rfl runFor_karimsLogout
  obtain ⟨d, hd⟩ : ∃ log, Hall.run ⟨karimsBreak.signedOut karim.id,
      [.done (), noted {} karimsToken.text karimsToken.claims, .done ()], c⟩
        (List.replicate 1 (.serve 1)) =
          ⟨(karimsBreak.signedOut karim.id).remembered {} .access karimsToken.text karim.id,
            [.done (), .done (), .done ()], log⟩ :=
    Hall.run_replicate rfl rfl
  refine ⟨d, ?_⟩
  rw [karimsRaceOver, karimsRaceTurns, Hall.run_append, ha, List.cons_append,
    Hall.run_cons, hbreak, Hall.run_append, hb, Hall.run_append, hc, hd]

theorem isOver_karimsRace : karimsRaceOver.IsOver := by
  obtain ⟨log, hrace⟩ := run_karimsRace
  rw [hrace]
  simp [Hall.IsOver]

theorem rows_karimsSession : (karimsSession {}).tokens.rows =
    [.ofSigned 1 .access karimsToken karim.id karimsDesk.clock,
      .ofSigned 2 .refresh (karimsDesk.pair {} karim.id).refresh karim.id karimsDesk.clock] := rfl

theorem revoked_karimsRace : ∀ t ∈ karimsRaceOver.world.tokens.rows, t.isRevoked = true := by
  obtain ⟨log, hrace⟩ := run_karimsRace
  rw [hrace]
  intro t ht
  obtain ⟨row, hrow, rfl⟩ := List.mem_map.mp ht
  have howner : row.userId = karim.id := by
    have hpair := rows_karimsSession ▸ hrow
    obtain rfl | rfl := List.mem_pair.mp hpair <;> rfl
  exact isRevoked_revokedFor (.inl howner)

theorem hasRow_karimsRace : ∃ t ∈ karimsRaceOver.world.tokens.rows,
    t.kind = .access ∧ t.token = karimsToken.text ∧ t.isRevoked = true := by
  obtain ⟨t, ht, hkind, htoken⟩ : ∃ t ∈ karimsRaceOver.world.tokens.rows,
      t.kind = .access ∧ t.token = karimsToken.text := by
    obtain ⟨log, hrace⟩ := run_karimsRace
    obtain ⟨t, ht, hkind, -, htoken, -⟩ := live_karimsToken
    rw [hrace]
    exact ⟨revokedFor karim.id karimsBreak.clock t, List.mem_map_of_mem ht,
      (revokedFor_kind _ _ t).trans hkind, (revokedFor_token _ _ t).trans htoken⟩
  exact ⟨t, ht, hkind, htoken, revoked_karimsRace t ht⟩

theorem accepted_karimsRace :
    karimsRaceOver.world.answer (authenticate {} karimsToken.text) = .ok karimsToken.claims := by
  obtain ⟨log, hrace⟩ := run_karimsRace
  rw [hrace, authenticate_iff]
  exact ⟨verify_karimsToken, .inl (mirrors_remembered rfl (by decide) _ _)⟩

def karimsRush : List Visit := [.login karimsForm, .login karimsForm]

def karimsRushTurns : List Turn :=
  List.replicate 4 (.serve 0) ++ (List.replicate 4 (.serve 1) ++
    (List.replicate 10 (.serve 0) ++ List.replicate 10 (.serve 1)))

def karimsRushOver : Hall := (Hall.opened {} karimsDesk karimsRush).run karimsRushTurns

def karimsSignIn : Task Call Unit :=
  ended (do
    let pair ← issuePair {} karim.id
    keep {} .access pair.access karim.id
    keep {} .refresh pair.refresh karim.id
    pure (LoginReceipt.ofPair pair))

theorem runFor_karimsLogin_cleared :
    (ended (login {} karimsForm)).runFor World.serve 4 karimsDesk = (karimsSignIn, karimsDesk) :=
  (runFor_identify identify_karim _ 3).trans rfl

def karimsOtherToken : SignedToken := ((karimsSession {}).pair {} karim.id).access

theorem run_karimsRush : ∃ log, karimsRushOver =
    ⟨(karimsSession {}).signedIn {} karim.id, [.done (), .done ()], log⟩ := by
  obtain ⟨a, ha⟩ : ∃ log, (Hall.opened {} karimsDesk karimsRush).run
      (List.replicate 4 (.serve 0)) =
        ⟨karimsDesk, [karimsSignIn, ended (login {} karimsForm)], log⟩ :=
    Hall.run_replicate rfl runFor_karimsLogin_cleared
  obtain ⟨b, hb⟩ : ∃ log, Hall.run ⟨karimsDesk, [karimsSignIn, ended (login {} karimsForm)], a⟩
      (List.replicate 4 (.serve 1)) = ⟨karimsDesk, [karimsSignIn, karimsSignIn], log⟩ :=
    Hall.run_replicate rfl runFor_karimsLogin_cleared
  obtain ⟨c, hc⟩ : ∃ log, Hall.run ⟨karimsDesk, [karimsSignIn, karimsSignIn], b⟩
      (List.replicate 10 (.serve 0)) = ⟨karimsSession {}, [.done (), karimsSignIn], log⟩ :=
    Hall.run_replicate rfl rfl
  obtain ⟨d, hd⟩ : ∃ log, Hall.run ⟨karimsSession {}, [.done (), karimsSignIn], c⟩
      (List.replicate 10 (.serve 1)) =
        ⟨(karimsSession {}).signedIn {} karim.id, [.done (), .done ()], log⟩ :=
    Hall.run_replicate rfl rfl
  refine ⟨d, ?_⟩
  rw [karimsRushOver, karimsRushTurns, Hall.run_append, ha, Hall.run_append, hb, Hall.run_append,
    hc, hd]

theorem isOver_karimsRush : karimsRushOver.IsOver := by
  obtain ⟨log, hrush⟩ := run_karimsRush
  rw [hrush]
  simp [Hall.IsOver]

theorem karimsToken_ne_other : karimsToken.text ≠ karimsOtherToken.text := by
  intro h
  have hids : karimsDesk.chance.tokenId 0 = karimsDesk.chance.tokenId 2 :=
    congrArg Claims.tokenId (Jwt.encode_injective h)
  exact absurd (isFresh_karimsDesk.tokenId hids) (by decide)

theorem accepted_karimsRush :
    karimsRushOver.world.answer (authenticate {} karimsToken.text) = .ok karimsToken.claims ∧
      karimsRushOver.world.answer (authenticate {} karimsOtherToken.text) =
        .ok karimsOtherToken.claims := by
  obtain ⟨log, hrush⟩ := run_karimsRush
  have hfits : karimsOtherToken.claims.Fits :=
    have hfirst := fits_karim (t := {}) (by decide) (by decide)
    ⟨hfirst.userId, hfirst.issuedAt, hfirst.expiresAt⟩
  have hother : Jwt.verify ({} : TokenSettings).secret (karimsSession {}).clock
      karimsOtherToken.text = .ok karimsOtherToken.claims :=
    verify_pair hfits (by decide) (by decide)
  have hfirst : Jwt.verify ({} : SessionRules).token.secret (karimsSession {}).clock
      karimsToken.text = .ok karimsToken.claims := verify_karimsToken
  have hlive : (karimsSession {}).Live karimsToken.text karimsToken.claims.userId :=
    live_karimsToken
  rw [hrush]
  exact ⟨accepted_signedIn_of_live rfl hfirst hlive karim.id,
    accepted_signedIn rfl (by decide) hother rfl⟩

/-- Any number of logins, logouts and gates take turns call by call, with everything in reach and
every login ending the earlier sessions. When they are all over, the gate takes an access token
only if it has an open row and none that was revoked, or else the token was overtaken. It takes two
for one user only if one of them was overtaken or the logins were crossed. -/
theorem sessions_hold_unless_they_overlap {rules : SessionRules} {w : World} {visits : List Visit}
    {turns : List Turn} {h : Hall} (hsingle : rules.single = true) (hup : w.InReach)
    (hfresh : w.IsFresh) (hrun : (Hall.opened rules w visits).run turns = h) (hover : h.IsOver) :
    (∀ token c, h.world.answer (authenticate rules token) = .ok c →
      h.world.Open c.userId token ∧
          (∀ t ∈ h.world.tokens.rows, t.token = token → t.isRevoked = false) ∨
        h.log.Overtaken c.userId token) ∧
    ∀ token other c d, token ≠ other → c.userId = d.userId →
      h.world.answer (authenticate rules token) = .ok c →
      h.world.answer (authenticate rules other) = .ok d →
      h.log.Overtaken c.userId token ∨ h.log.Overtaken c.userId other ∨
        h.log.Crossed c.userId token other := by
  obtain ⟨hlog, hcourse, hrows⟩ := accounts_of_isOver hsingle hup hfresh hrun hover
  refine ⟨fun token c hc => ?_, fun token other c d hne hsame hc hd => ?_⟩
  · obtain hopen | hovertaken := open_or_overtaken hlog hcourse hc
    · exact .inl ⟨hopen, unrevoked_of_open hrows hopen⟩
    · exact .inr hovertaken
  · obtain htoken | hovertaken := open_or_overtaken hlog hcourse hc
    · obtain hother | hovertaken := open_or_overtaken hlog hcourse hd
      · rw [← hsame] at hother
        exact .inr (.inr (crossed_of_open hlog hcourse hne htoken hother))
      · rw [← hsame] at hovertaken
        exact .inr (.inl hovertaken)
    · exact .inl hovertaken

/-- The gate that was too slow was overtaken. -/
theorem karims_gate_was_overtaken :
    karimsRaceOver.IsOver ∧ karimsRaceOver.log.Overtaken karim.id karimsToken.text := by
  have hsingle : ({} : SessionRules).single = true := rfl
  have hup : karimsDesk.InReach := ⟨rfl, rfl⟩
  have hrun : (Hall.opened {} karimsDesk karimsRace).run karimsRaceTurns = karimsRaceOver := rfl
  have hsessions := sessions_hold_unless_they_overlap hsingle hup isFresh_karimsDesk hrun
    isOver_karimsRace
  refine ⟨isOver_karimsRace, (hsessions.1 _ _ accepted_karimsRace).resolve_left ?_⟩
  rintro ⟨-, hunrevoked⟩
  obtain ⟨t, ht, -, htoken, hrevoked⟩ := hasRow_karimsRace
  rw [hunrevoked t ht htoken] at hrevoked
  cases hrevoked

/-- A revoked token is accepted after the race, and two tokens of one user after the rush. -/
theorem sessions_can_overlap :
    (karimsRaceOver.IsOver ∧
      (∃ t ∈ karimsRaceOver.world.tokens.rows,
        t.kind = .access ∧ t.token = karimsToken.text ∧ t.isRevoked = true) ∧
      karimsRaceOver.world.answer (authenticate {} karimsToken.text) = .ok karimsToken.claims) ∧
    karimsRushOver.IsOver ∧ karimsToken.text ≠ karimsOtherToken.text ∧
      karimsToken.claims.userId = karimsOtherToken.claims.userId ∧
      karimsRushOver.world.answer (authenticate {} karimsToken.text) = .ok karimsToken.claims ∧
      karimsRushOver.world.answer (authenticate {} karimsOtherToken.text) =
        .ok karimsOtherToken.claims :=
  ⟨⟨isOver_karimsRace, hasRow_karimsRace, accepted_karimsRace⟩, isOver_karimsRush,
    karimsToken_ne_other, rfl, accepted_karimsRush⟩

end ParcelDesk.Desk

import ParcelDesk.Proofs.Logins
import ParcelDesk.Proofs.TokenSteps

/-!
Sessions survive everything but their own end. The row of an access token stays as it is until a
logout or another login of its user revokes it; what other users do, what the cache forgets or
cannot be told, and what happens to orders does not touch it. So whenever the token store can be
asked, the gate takes the token until it expires.
-/

namespace ParcelDesk.Desk

open World

def World.Stands (token : String) (userId : Int) (expiry : Instant) (w : World) : Prop :=
  ∃ t ∈ w.tokens.rows, t.kind = .access ∧ t.userId = userId ∧ t.token = token ∧
    t.isRevoked = false ∧ t.expiresAt = expiry

section Stands

variable {s : Setup} {w : World} {token : String} {userId : Int} {expiry : Instant}

theorem stands_signedOut {other : Int} (hother : other ≠ userId)
    (hw : w.Stands token userId expiry) : (w.signedOut other).Stands token userId expiry := by
  obtain ⟨t, ht, hkind, howner, hrow⟩ := hw
  have hstays : revokedFor other w.clock t = t :=
    if_neg fun hown => hother (hown.1.symm.trans howner)
  exact ⟨t, List.mem_map.mpr ⟨t, ht, hstays⟩, hkind, howner, hrow⟩

theorem stands_signedIn (hup : w.tokens.isDown = false) (r : SessionRules) (other : Int)
    (hw : w.Stands token userId expiry) : (w.signedIn r other).Stands token userId expiry := by
  obtain ⟨t, ht, hrow⟩ := hw
  refine ⟨t, ?_, hrow⟩
  rw [rows_signedIn hup]
  exact List.mem_append_left _ ht

/-- A step that does not end the sessions of the user leaves the row as it is. -/
theorem stands_step {e : Event} (hopen : ¬ s.Ends w userId e)
    (hw : w.Stands token userId expiry) : (s.step w e).Stands token userId expiry := by
  have hturns := turns_step s w e
  unfold World.Stands
  generalize (s.step w e).tokens = t at hturns ⊢
  cases hturns with
  | idle hrows hlast =>
    rw [hrows]
    exact hw
  | @ended other hends =>
    refine stands_signedOut (fun hsame => hopen ?_) hw
    exact hsame ▸ hends
  | @begun single f u hwho hup =>
    refine stands_signedIn (by rw [cleared_tokens_isDown, hup]) s.sessions u.id ?_
    unfold World.cleared
    cases single with
    | false => exact hw
    | true =>
      refine stands_signedOut (fun hsame => hopen ?_) hw
      have hanswer : w.answer (login (s.rules true) f) =
          .ok (.ofPair (w.pair s.sessions.token u.id)) := by
        rw [World.answer, perform_login hwho hup]
        rfl
      exact ⟨rfl, u, _, hwho, hsame, hanswer⟩

/-- A login that succeeds leaves a row for the access token that it hands out. -/
theorem stands_login {single : Bool} {f : LoginForm} {u : User} {receipt : LoginReceipt}
    (hwho : w.answer (identify f) = .ok u)
    (hlogin : w.answer (login (s.rules single) f) = .ok receipt)
    (hcalendar : Instant.ofSeconds? receipt.expiresIn = some expiry) :
    (s.step w (.login single f)).Stands receipt.accessToken u.id expiry := by
  obtain ⟨hup, rfl, hafter⟩ := of_answer_login hwho hlogin
  have hcleared : (w.cleared (s.rules single) u.id).tokens.isDown = false := by
    rw [cleared_tokens_isDown, hup]
  change (w.after (login (s.rules single) f)).Stands _ _ _
  rw [hafter]
  unfold World.Stands
  rw [rows_signedIn hcleared, pair_cleared]
  refine ⟨_, List.mem_append_right _ List.mem_cons_self, rfl, rfl, rfl, rfl, ?_⟩
  change (Instant.ofSeconds? _).getD _ = expiry
  exact (congrArg (Option.getD · _) hcalendar).trans rfl

/-- A row that stands is live until the second in which it expires. -/
theorem live_of_stands {exp : Int} (hw : w.Stands token userId ⟨exp, 0⟩)
    (hearly : w.clock.seconds < exp) : w.Live token userId := by
  obtain ⟨t, ht, hkind, howner, htoken, hopen, hexpiry⟩ := hw
  refine ⟨t, ht, hkind, howner, htoken, ?_⟩
  have hunexpired : t.isExpired w.clock = false := by
    rw [StoredToken.isExpired, hexpiry]
    simp only [Instant.le, Nat.zero_le, decide_true, Bool.and_true, Bool.or_eq_false_iff,
      decide_eq_false_iff_not]
    omega
  simp [StoredToken.isActive, hopen, hunexpired]

end Stands

/-- After a login of a user has succeeded, the gate takes its access token for that user at every
later time before it expires at which the token store can be reached, as long as no logout and no
other login has ended the sessions of the user. Ids and times are words of 64 bits, clocks show a
time from 1970 on, and the calendar reaches the time of expiry. -/
theorem session_survives (s : Setup) {w : World} {before after : List Event} {single : Bool}
    {f : LoginForm} {u : User} {receipt : LoginReceipt}
    (hwho : (s.run w before).answer (identify f) = .ok u)
    (hlogin : (s.run w before).answer (login (s.rules single) f) = .ok receipt)
    (hopen : s.Throughout (fun v e => ¬ s.Ends v u.id e)
      (s.run w (before ++ [.login single f])) after)
    (huser : Json.Fits u.id) (hissued : Json.Fits (s.run w before).clock.seconds)
    (hcalendar : receipt.expiresIn ≤ Instant.latest)
    (hup : (s.run w (before ++ .login single f :: after)).tokens.isDown = false)
    (hpast : 0 ≤ (s.run w (before ++ .login single f :: after)).clock.seconds)
    (hearly : (s.run w (before ++ .login single f :: after)).clock.seconds < receipt.expiresIn) :
    ∃ c, (s.run w (before ++ .login single f :: after)).answer
        (authenticate s.sessions receipt.accessToken) = .ok c ∧
      c.userId = u.id ∧ c.expiresAt = receipt.expiresIn := by
  have hreached : Instant.ofSeconds? receipt.expiresIn = some ⟨receipt.expiresIn, 0⟩ := by
    have hearliest : Instant.earliest ≤ receipt.expiresIn := by
      unfold Instant.earliest
      omega
    rw [Instant.ofSeconds?, if_pos]
    simp only [Bool.and_eq_true, decide_eq_true_eq]
    exact ⟨hearliest, hcalendar⟩
  have hstands := stands_login hwho hlogin hreached
  rw [← Setup.run_concat] at hstands
  have hkept := hopen.run _ stands_step hstands
  rw [← Setup.run_append, List.append_assoc, List.singleton_append] at hkept
  have hlive := live_of_stands hkept hearly
  obtain ⟨-, rfl, -⟩ := of_answer_login hwho hlogin
  have hexpiry : (LoginReceipt.ofPair ((s.run w before).pair (s.rules single).token u.id)).expiresIn
      = ((s.run w before).pair (s.rules single).token u.id).access.claims.expiresAt := rfl
  rw [hexpiry] at hcalendar hearly
  have hfits : ((s.run w before).pair (s.rules single).token u.id).access.claims.Fits := by
    unfold Instant.latest at hcalendar
    exact ⟨huser, hissued, by omega, by omega⟩
  have hverify := Jwt.verify_encode_fits hfits (by omega) (Int.le_of_lt hearly)
    s.sessions.token.secret
  exact ⟨_, (authenticate_iff _ _ _ _).mpr ⟨hverify, .inr ⟨hup, hlive⟩⟩, rfl, rfl⟩

/-- What happens while a user stays logged in: a stranger logs out, the cache goes down, ten minutes
pass on its clock, and the time comes to the last second of the first hour. -/
def karimsHour : List Event :=
  [.logout 2, .cacheDown true, .advance 600000, .setClock ⟨1760003599, 0⟩]

theorem throughout_karimsHour (s : Setup) (w : World) :
    s.Throughout (fun v e => ¬ s.Ends v karim.id e) w karimsHour := by
  refine Setup.throughout_cons.mpr ⟨fun hends => absurd hends.1 (by decide), ?_⟩
  refine Setup.throughout_cons.mpr ⟨id, Setup.throughout_cons.mpr ⟨id, ?_⟩⟩
  exact Setup.throughout_cons.mpr ⟨id, Setup.throughout_nil _ _⟩

theorem run_karimsHour (s : Setup) {w : World} (hup : w.tokens.isDown = false) :
    (s.run w karimsHour).tokens.isDown = false ∧
      (s.run w karimsHour).clock = ⟨1760003599, 0⟩ := by
  have hlogout : s.step w (.logout 2) = w.signedOut 2 := by
    change w.after (logout 2) = _
    rw [World.after, perform_logout hup]
  rw [karimsHour, Setup.run_cons, hlogout]
  exact ⟨hup, rfl⟩

/-- The session of a user is still open in the last second of its hour, with the cache down. -/
theorem karims_session_survives :
    karimsDesk.answer (identify karimsForm) = .ok karim ∧
    (∃ receipt, karimsDesk.answer (login (({} : Setup).rules true) karimsForm) = .ok receipt ∧
      ({} : Setup).Throughout (fun v e => ¬ ({} : Setup).Ends v karim.id e)
        (({} : Setup).run karimsDesk [.login true karimsForm]) karimsHour ∧
      Json.Fits karim.id ∧ Json.Fits karimsDesk.clock.seconds ∧
      receipt.expiresIn ≤ Instant.latest ∧
      (({} : Setup).run karimsDesk (.login true karimsForm :: karimsHour)).tokens.isDown = false ∧
      0 ≤ (({} : Setup).run karimsDesk (.login true karimsForm :: karimsHour)).clock.seconds ∧
      (({} : Setup).run karimsDesk (.login true karimsForm :: karimsHour)).clock.seconds <
        receipt.expiresIn ∧
      ∃ c, (({} : Setup).run karimsDesk (.login true karimsForm :: karimsHour)).answer
          (authenticate {} receipt.accessToken) = .ok c ∧
        c.userId = karim.id ∧ c.expiresAt = receipt.expiresIn) := by
  have hlogin : karimsDesk.answer (login (({} : Setup).rules true) karimsForm) =
      .ok (.ofPair (karimsDesk.pair {} karim.id)) := by
    rw [World.answer, perform_login identify_karim rfl]
    rfl
  have hopen := throughout_karimsHour {} (({} : Setup).run karimsDesk [.login true karimsForm])
  have hfits := fits_karim (t := {}) (by decide) (by decide)
  have hcalendar : (LoginReceipt.ofPair (karimsDesk.pair {} karim.id)).expiresIn ≤
      Instant.latest := by decide
  have hrun := Setup.run_append {} karimsDesk [.login true karimsForm] karimsHour
  rw [List.singleton_append] at hrun
  obtain ⟨hup, hclock⟩ := run_karimsHour {} (inReach_karimsLogin {}).2
  rw [← hrun] at hup hclock
  have hpast : 0 ≤ (({} : Setup).run karimsDesk
      (.login true karimsForm :: karimsHour)).clock.seconds := by
    rw [hclock]
    decide
  have hearly : (({} : Setup).run karimsDesk
      (.login true karimsForm :: karimsHour)).clock.seconds <
        (LoginReceipt.ofPair (karimsDesk.pair {} karim.id)).expiresIn := by
    rw [hclock]
    decide
  rw [← List.nil_append (Event.login true karimsForm :: karimsHour)] at hup hpast hearly ⊢
  exact ⟨identify_karim, _, hlogin, hopen, hfits.userId, hfits.issuedAt, hcalendar, hup, hpast,
    hearly, session_survives {} identify_karim hlogin hopen hfits.userId hfits.issuedAt hcalendar
      hup hpast hearly⟩

end ParcelDesk.Desk

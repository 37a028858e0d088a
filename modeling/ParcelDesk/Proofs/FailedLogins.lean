import ParcelDesk.Proofs.Authorization
import ParcelDesk.Proofs.JsonRecords

/-!
What a failed login tells. Whoever is not let in learns nothing about the accounts: the answer is
made of the request alone, and no part of the world has changed. It is the same for a name that
nobody has, for an account that was deleted, for a wrong password and for a stored hash that is
none.
-/

namespace ParcelDesk

def LoginForm.isIncomplete (f : LoginForm) : Bool :=
  (f.identifiers.1.isNone && f.identifiers.2.isNone) || f.password.isEmpty

def User.isMeantBy (u : User) (f : LoginForm) : Bool :=
  u.answersTo f.identifiers.1 f.identifiers.2

def UserStore.findFor (s : UserStore) (f : LoginForm) : Option User :=
  s.find f.identifiers.1 f.identifiers.2

inductive UserStore.TurnsDown (s : UserStore) (f : LoginForm) : Prop
  | unknown (hnobody : ∀ u ∈ s.rows, u.isMeantBy f = false)
  | deleted (hdeleted : ∀ u ∈ s.rows, u.isMeantBy f = true → u.deletedAt.isSome = true)
  | wrongPassword {u : User} {p : Password.Parts} (hfound : s.findFor f = some u)
      (hhash : Password.parts? u.passwordHash = some p)
      (hother : Password.digest f.password p.cost p.salt ≠ p.digest)
  | malformedHash {u : User} (hfound : s.findFor f = some u)
      (hhash : Password.parts? u.passwordHash = none)

/-- Only accounts that have not been deleted are found. -/
theorem UserStore.findFor_eq_none {s : UserStore} {f : LoginForm}
    (h : ∀ u ∈ s.rows, u.isMeantBy f = true → u.deletedAt.isSome = true) :
    s.findFor f = none := by
  unfold findFor find
  rw [List.find?_eq_none]
  intro u hu hfits
  obtain ⟨hactive, hmeant⟩ := Bool.and_eq_true_iff.mp hfits
  have hdeleted := h u hu hmeant
  rw [User.isActive, Option.isNone_iff_eq_none] at hactive
  rw [hactive] at hdeleted
  cases hdeleted

namespace Password

theorem verify_eq_false_of_ne {password hash : String} {p : Parts} (hhash : parts? hash = some p)
    (hother : digest password p.cost p.salt ≠ p.digest) : verify password hash = false := by
  rw [verify, hhash]
  exact beq_eq_false_iff_ne.mpr hother

theorem verify_eq_false_of_malformed {hash : String} (h : parts? hash = none)
    (password : String) : verify password hash = false := by
  rw [verify, h]

end Password

namespace Desk

variable {w : World} {f : LoginForm}

theorem answer_identify_incomplete (h : f.isIncomplete = true) (w : World) :
    w.answer (identify f) = .error (.login .missingCredentials) := by
  unfold LoginForm.isIncomplete at h
  unfold World.answer identify
  dsimp only
  rw [if_pos h]
  rfl

/-- With a complete form, the account that it leads to decides. -/
theorem answer_identify (h : f.isIncomplete = false) (w : World) :
    w.answer (identify f) =
      match w.users.findFor f with
      | none => .error (.login .userNotFound)
      | some u =>
        if Password.verify f.password u.passwordHash then .ok u
        else .error (.login .invalidCredentials) := by
  unfold LoginForm.isIncomplete at h
  unfold World.answer identify
  dsimp only
  rw [h, if_neg (by simp), World.perform_bind, World.perform_of]
  simp only [World.serve, UserStore.findFor]
  cases w.users.find f.identifiers.1 f.identifiers.2 with
  | none => rfl
  | some u =>
    dsimp only
    split <;> rfl

/-- Whoever is not let in with a complete form is unknown or has no right to the account. -/
theorem of_answer_identify_error {e : Failure} (h : f.isIncomplete = false)
    (herror : w.answer (identify f) = .error e) :
    e = .login .userNotFound ∨ e = .login .invalidCredentials := by
  rw [answer_identify h] at herror
  split at herror
  · exact .inl (Except.error.inj herror).symm
  · split at herror
    · cases herror
    · exact .inr (Except.error.inj herror).symm

theorem answer_identify_of_turnsDown (h : f.isIncomplete = false)
    (hdown : w.users.TurnsDown f) : ∃ e, w.answer (identify f) = .error e := by
  rw [answer_identify h]
  cases hdown with
  | unknown hnobody =>
    have hnone : w.users.findFor f = none :=
      UserStore.findFor_eq_none fun u hu hmeant => by simp [hnobody u hu] at hmeant
    exact ⟨_, by rw [hnone]⟩
  | deleted hdeleted => exact ⟨_, by rw [UserStore.findFor_eq_none hdeleted]⟩
  | wrongPassword hfound hhash hother =>
    have hverify := Password.verify_eq_false_of_ne hhash hother
    exact ⟨_, by simp only [hfound, hverify, Bool.false_eq_true, ↓reduceIte]; rfl⟩
  | malformedHash hfound hhash =>
    have hverify := Password.verify_eq_false_of_malformed hhash f.password
    exact ⟨_, by simp only [hfound, hverify, Bool.false_eq_true, ↓reduceIte]; rfl⟩

end Desk

namespace Web

open Desk (World)

/-- The request ended without success, and not over a fault of the service. -/
structure Response.Refuses (r : Response) : Prop where
  noSuccess : r.status ≠ 200
  noFault : r.status ≠ 500

def rejection (f : LoginForm) : Response :=
  .ofError (.ofLoginFlaw (if f.isIncomplete then .missingCredentials else .invalidCredentials))

def welcome (r : LoginReceipt) : Response :=
  .success 200 "Successfully logged in" (LoginReceipt.toJson r)

/-- A form that cannot be read, or that is at fault, is answered without asking anyone. -/
theorem login_cases (s : Settings) (q : Request) :
    (∃ r, ∀ w : World, (login s q).run World.serve w = (r, w)) ∨
      ∃ f, q.read LoginForm.decode = .ok f ∧ f.complaints.verdict = .ok () ∧
        login s q = told welcome (Desk.login (rules s) f) := by
  unfold login withForm
  cases hread : q.read LoginForm.decode with
  | error flaw => exact .inl ⟨_, fun _ => rfl⟩
  | ok f =>
    cases hverdict : f.complaints.verdict with
    | error errors => exact .inl ⟨_, fun w => by simp only [hverdict]; rfl⟩
    | ok _ => exact .inr ⟨f, rfl, hverdict, by simp only [hverdict]; rfl⟩

/-- Whoever is not let in gets the same answer, and leaves no trace. -/
theorem run_login_rejected {w : World} {f : LoginForm} {e : Failure} (s : Settings)
    (h : w.answer (Desk.identify f) = .error e) :
    (told welcome (Desk.login (rules s) f)).run World.serve w = (rejection f, w) := by
  have hlogin := Desk.perform_login_unknown h (rules s)
  rw [run_told, World.answer, World.after, hlogin]
  cases hform : f.isIncomplete with
  | true =>
    rw [Desk.answer_identify_incomplete hform] at h
    obtain rfl := Except.error.inj h
    simp only [outcome, rejection, hform]
    rfl
  | false =>
    simp only [outcome, rejection, hform]
    obtain rfl | rfl := Desk.of_answer_identify_error hform h <;> rfl

/-- A login by a readable form is refused only if nobody is let in with it. -/
theorem identify_error_of_refuses {w : World} {f : LoginForm} {s : Settings}
    (h : ((told welcome (Desk.login (rules s) f)).run World.serve w).1.Refuses) :
    ∃ e, w.answer (Desk.identify f) = .error e := by
  cases hwho : w.answer (Desk.identify f) with
  | error e => exact ⟨e, rfl⟩
  | ok u =>
    rw [run_told, World.answer] at h
    cases hdown : w.tokens.isDown with
    | true =>
      rw [Desk.perform_login_down hwho hdown] at h
      exact absurd rfl h.noFault
    | false =>
      rw [Desk.perform_login hwho hdown] at h
      exact absurd rfl h.noSuccess

/-- A login that is refused is answered with the same words in every world, and changes none. -/
theorem refusal_of_request (s : Settings) {q : Request} (hlogin : Route.ofRequest q = .login) :
    ∃ r, ∀ w : World, (exchange s w q).1.Refuses → exchange s w q = (r, w) := by
  cases hcors : Cors.answer? s q with
  | some r => exact ⟨r, fun w _ => exchange_of_answer? hcors⟩
  | none =>
    have hserve : serve s q = login s q := by
      unfold serve
      rw [hlogin]
    obtain ⟨r, hform⟩ | ⟨f, -, -, hform⟩ := login_cases s q
    · refine ⟨Cors.grant q r, fun w _ => ?_⟩
      rw [exchange_of_served hcors, hserve, hform w]
    · refine ⟨Cors.grant q (rejection f), fun w hrefused => ?_⟩
      rw [exchange_of_served hcors, hserve, hform] at hrefused ⊢
      obtain ⟨e, hwho⟩ := identify_error_of_refuses (w := w) ⟨hrefused.1, hrefused.2⟩
      rw [run_login_rejected s hwho]

/-- Failed logins reveal nothing about the accounts. A login request that ends without success in
two worlds, and not over a fault of the service, is answered alike in both and changes neither. In
particular a complete form that the accounts turn down, for whichever reason, is told no more than
that the credentials were incorrect. -/
theorem failed_logins_look_alike (s : Settings) {q : Request}
    (hlogin : Route.ofRequest q = .login) :
    (∀ w v : World, (exchange s w q).1.Refuses → (exchange s v q).1.Refuses →
      (exchange s w q).1 = (exchange s v q).1 ∧ (exchange s w q).2 = w ∧
        (exchange s v q).2 = v) ∧
    ∀ f : LoginForm, Cors.answer? s q = none → q.read LoginForm.decode = .ok f →
      f.complaints = [] → f.isIncomplete = false → ∀ w : World, w.users.TurnsDown f →
        (exchange s w q).1.Tells 401 "The user credentials were incorrect." ∧
          (exchange s w q).2 = w := by
  constructor
  · intro w v hw hv
    obtain ⟨r, hr⟩ := refusal_of_request s hlogin
    rw [hr w hw, hr v hv]
    exact ⟨rfl, rfl, rfl⟩
  · intro f hcors hread hfine hcomplete w hdown
    obtain ⟨e, hwho⟩ := Desk.answer_identify_of_turnsDown hcomplete hdown
    have hserve : serve s q = told welcome (Desk.login (rules s) f) := by
      have hverdict : f.complaints.verdict = .ok () := by rw [hfine]; rfl
      unfold serve login withForm
      rw [hlogin, hread]
      simp only [hverdict]
      rfl
    rw [exchange_of_served hcors, hserve, run_login_rejected s hwho, rejection, hcomplete]
    exact ⟨⟨rfl, rfl⟩, rfl⟩

def guessMembers : Json.Leaves := [("username", .text "karim"), ("password", .text "guess")]

def guessForm : LoginForm := ⟨some "karim", none, "guess"⟩

def guessing : Request where
  method := "POST"
  path := "/api/v1/login"
  headers := [("Content-Type", "application/json")]
  body := Text.Utf8.encode guessMembers.json.chars

theorem read_guessing : guessing.read LoginForm.decode = .ok guessForm := by
  have hform : LoginForm.decode (.map guessMembers.nodes .closed) = .ok guessForm := rfl
  have hparse : Json.parseBytes LoginForm.decode guessing.body = .ok guessForm :=
    (Json.parseBytes_leaves LoginForm.decode guessMembers).trans hform
  have htype : guessing.plainHeader? "content-type" = some "application/json" := rfl
  have hshort : guessing.body.length ≤ bodyLimit := by decide +kernel
  unfold Request.read
  rw [htype, if_neg (by decide), if_neg (Nat.not_lt.mpr hshort), hparse]
  rfl

def hashEnding (last : Char) : String :=
  String.ofList ("$2b$04$".toList ++ List.replicate 52 '.' ++ [last])

/-- Of two hashes that differ in their last symbol only, one is not that of the guess. -/
theorem exists_other_hash : ∃ hash p, Password.parts? hash = some p ∧
    Password.digest guessForm.password p.cost p.salt ≠ p.digest := by
  by_cases hzeros : Password.digest guessForm.password 4 (List.replicate 16 0) =
      List.replicate 23 0
  · refine ⟨hashEnding 'C', ⟨4, List.replicate 16 0, List.replicate 22 0 ++ [1]⟩, by decide, ?_⟩
    rw [hzeros]
    decide
  · exact ⟨hashEnding '.', ⟨4, List.replicate 16 0, List.replicate 23 0⟩, by decide, hzeros⟩

def deskOf (u : User) : World := .ofAccount u ⟨1760000000, 0⟩

/-- Nobody by that name, a deleted account, a wrong password and a hash that is none come to the
same. -/
theorem guesses_look_alike : ∃ karim : User, karim.name = "karim" ∧ karim.isActive = true ∧
    (Password.parts? karim.passwordHash).isSome = true ∧
    ∀ u ∈ [Desk.accountOf "rahim" "secret", { Desk.karim with deletedAt := some ⟨0, 0⟩ },
        { Desk.karim with passwordHash := "secret" }, karim],
      (deskOf u).users.TurnsDown guessForm ∧
      (exchange {} (deskOf u) guessing).1.Tells 401 "The user credentials were incorrect." ∧
      (exchange {} (deskOf u) guessing).2 = deskOf u ∧
      (exchange {} (deskOf u) guessing).1 = (exchange {} (deskOf karim) guessing).1 := by
  obtain ⟨hash, p, hhash, hother⟩ := exists_other_hash
  have hfound (hash : String) : (deskOf { Desk.karim with passwordHash := hash }).users.findFor
      guessForm = some { Desk.karim with passwordHash := hash } := rfl
  have hdown : ∀ u ∈ [Desk.accountOf "rahim" "secret",
      { Desk.karim with deletedAt := some ⟨0, 0⟩ }, { Desk.karim with passwordHash := "secret" },
      { Desk.karim with passwordHash := hash }], (deskOf u).users.TurnsDown guessForm := by
    intro u hu
    simp only [List.mem_cons, List.not_mem_nil, or_false] at hu
    obtain rfl | rfl | rfl | rfl := hu
    · exact .unknown fun u hu => by
        rw [List.mem_singleton.mp hu]
        decide
    · exact .deleted fun u hu _ => by
        rw [List.mem_singleton.mp hu]
        rfl
    · exact .malformedHash (hfound "secret") (by decide)
    · exact .wrongPassword (hfound hash) hhash hother
  obtain ⟨halike, htold⟩ := failed_logins_look_alike {} (q := guessing) (by decide)
  have htold := htold guessForm rfl read_guessing rfl rfl
  have hrefused (u : User) (h : (deskOf u).users.TurnsDown guessForm) :
      (exchange {} (deskOf u) guessing).1.Refuses := by
    obtain ⟨⟨hstatus, -⟩, -⟩ := htold (deskOf u) h
    exact ⟨by rw [hstatus]; decide, by rw [hstatus]; decide⟩
  refine ⟨{ Desk.karim with passwordHash := hash }, rfl, rfl, by rw [hhash]; rfl, ?_⟩
  intro u hu
  obtain ⟨htells, hsame⟩ := htold (deskOf u) (hdown u hu)
  obtain ⟨heq, -, -⟩ := halike (deskOf u) (deskOf { Desk.karim with passwordHash := hash })
    (hrefused u (hdown u hu)) (hrefused _ (hdown _ (by simp)))
  exact ⟨hdown u hu, htells, hsame, heq⟩

end Web

end ParcelDesk

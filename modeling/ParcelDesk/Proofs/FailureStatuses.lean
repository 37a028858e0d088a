import ParcelDesk.Proofs.OrderLedger
import ParcelDesk.Proofs.Requests

/-!
Failures that are about who the caller is, and those that are answered with status 401. The two go
together but for one failure: a login without a name or an email counts as one about the caller, and
is answered with status 400 like any other form that is not filled in. The gate tells the two kinds
of failures apart as well, but never comes upon this one; so it answers every failure of its own as
all other places would.
-/

namespace ParcelDesk.Web

open Desk (World)
open ErrorAnswer (ofFailure)

theorem isAuthentication_token_iff (flaw : TokenFlaw) :
    (Failure.token flaw).isAuthentication = true ↔ flaw ≠ .unsigned := decide_eq_true_iff

theorem status_ofFailure_token_iff (flaw : TokenFlaw) :
    (ofFailure (.token flaw)).status = 401 ↔ flaw ≠ .unsigned := by
  cases flaw with
  | unsigned => decide
  | _ => simp [ofFailure, ErrorAnswer.unauthorized, ErrorAnswer.ofStatus]

theorem status_ofLoginFlaw (flaw : LoginFlaw) :
    (ErrorAnswer.ofLoginFlaw flaw).status = if flaw = .missingCredentials then 400 else 401 := by
  cases flaw with
  | missingCredentials => rfl
  | userNotFound => rfl
  | invalidCredentials => rfl

theorem status_ofFailure_iff (f : Failure) :
    (ofFailure f).status = 401 ↔
      f.isAuthentication = true ∧ f ≠ .login .missingCredentials := by
  cases f with
  | token flaw =>
    rw [status_ofFailure_token_iff, isAuthentication_token_iff]
    simp
  | login flaw =>
    show (ErrorAnswer.ofLoginFlaw flaw).status = 401 ↔ _
    rw [status_ofLoginFlaw]
    by_cases h : flaw = .missingCredentials <;> simp [h, Failure.isAuthentication]
  | unauthorized =>
    exact ⟨fun _ => ⟨rfl, Failure.noConfusion⟩, fun _ => rfl⟩
  | invalid _ | notFound _ | conflict _ | persistence _ | internal _ =>
    constructor
    · intro h
      cases h
    · rintro ⟨⟨⟩, -⟩

theorem status_turnedAway (f : Failure) : (turnedAway f).status =
    if f.isAuthentication = true then 401 else (ofFailure f).status := by
  unfold turnedAway
  split <;> rfl

/-- What the gate finds out about a token is answered alike at the gate and elsewhere. -/
theorem turnedAway_eq {f : Failure} (h : (∃ flaw, f = .token flaw) ∨ f = TokenStore.outage) :
    turnedAway f = .ofError (ofFailure f) := by
  rcases h with ⟨flaw, rfl⟩ | rfl
  · cases flaw <;> rfl
  · rfl

theorem isAuthentication_iff_status_iff (f : Failure) :
    (f.isAuthentication = true ↔ (ofFailure f).status = 401) ↔ f ≠ .login .missingCredentials := by
  rw [status_ofFailure_iff]
  constructor
  · rintro h rfl
    exact (h.mp rfl).2 rfl
  · intro h
    exact (and_iff_left h).symm

theorem status_turnedAway_iff (f : Failure) :
    (turnedAway f).status = (ofFailure f).status ↔ f ≠ .login .missingCredentials := by
  rw [← isAuthentication_iff_status_iff, status_turnedAway]
  split
  · rename_i hcaller
    rw [eq_comm, iff_true_left hcaller]
  · rename_i hother
    refine iff_of_true rfl (iff_of_false hother fun hstatus => hother ?_)
    exact ((status_ofFailure_iff f).mp hstatus).1

/-- A failure is about who the caller is exactly if it is answered with status 401, and the gate would
answer it with the same status as any other place, unless it is that of missing credentials. This one
is about the caller and is answered with status 400, but the gate never comes upon it. All failures
that the gate comes upon it answers as any place does. -/
theorem missing_credentials_alone_are_misjudged (f : Failure) :
    ((f.isAuthentication = true ↔ (ofFailure f).status = 401) ↔ f ≠ .login .missingCredentials) ∧
    (f = .login .missingCredentials → f.isAuthentication = true ∧ (ofFailure f).status = 400) ∧
    ((turnedAway f).status = (ofFailure f).status ↔ f ≠ .login .missingCredentials) ∧
    ∀ (s : Settings) (w : World) (token : String),
      w.answer (Desk.authenticate (rules s) token) = .error f →
        f ≠ .login .missingCredentials ∧ turnedAway f = .ofError (ofFailure f) := by
  refine ⟨isAuthentication_iff_status_iff f, ?exception, status_turnedAway_iff f, ?gate⟩
  case exception =>
    rintro rfl
    exact ⟨rfl, rfl⟩
  case gate =>
    intro s w token h
    have hcause := Desk.failure_of_authenticate h
    refine ⟨?_, turnedAway_eq hcause⟩
    rintro rfl
    rcases hcause with ⟨flaw, ⟨⟩⟩ | ⟨⟨⟩⟩

/-- A login without a name counts as a failure about the caller but is answered with another status,
and a token without dots is refused alike everywhere. -/
theorem nameless_login_is_misjudged :
    ((Failure.login .missingCredentials).isAuthentication = true ∧
      (ofFailure (.login .missingCredentials)).status = 400 ∧
      ¬ ((Failure.login .missingCredentials).isAuthentication = true ↔
        (ofFailure (.login .missingCredentials)).status = 401)) ∧
    Desk.emptyDesk.answer (Desk.authenticate (rules {}) "stamp") = .error (.token .malformed) ∧
    turnedAway (.token .malformed) = .ofError (ofFailure (.token .malformed)) := by
  obtain ⟨hagree, hexception, -⟩ :=
    missing_credentials_alone_are_misjudged (.login .missingCredentials)
  obtain ⟨-, -, -, hgate⟩ := missing_credentials_alone_are_misjudged (.token .malformed)
  have hanswer : Desk.emptyDesk.answer (Desk.authenticate (rules {}) "stamp") =
      .error (.token .malformed) := rfl
  obtain ⟨hcaller, hstatus⟩ := hexception rfl
  exact ⟨⟨hcaller, hstatus, fun h => hagree.mp h rfl⟩, hanswer, (hgate {} _ _ hanswer).2⟩

end ParcelDesk.Web

import ParcelDesk.Proofs.Authorization

/-!
Every answer is an envelope. Whatever a request asks for, and wherever it fails, the body of the
answer is one of three JSON objects, whose code and kind agree with the status; and all faults of
the service look alike. Two kinds of answers have no such body: those about the methods that other
origins may use, and the one to a wrong method at the logout.
-/

namespace ParcelDesk

namespace Web

open Desk (World Work)

inductive Enveloped (status : Nat) : Json → Prop
  | success (message : String) (data : Json) (h : status < 400) :
      Enveloped status (.obj [("message", .str message), ("type", .str "success"),
        ("code", .str (toString status)), ("data", data)])
  | error (message : String) (h : 400 ≤ status) :
      Enveloped status (.obj [("message", .str message), ("type", .str "error"),
        ("code", .str (toString status))])
  | fieldErrors (message : String) (errors : FieldErrors) (h : 400 ≤ status) :
      Enveloped status (.obj [("message", .str message), ("type", .str "error"),
        ("code", .str (toString status)), ("errors", errors.toJson)])

namespace Enveloped

variable {status : Nat} {v : Json}

theorem code (h : Enveloped status v) : v.get? "code" = some (.str (toString status)) := by
  cases h <;> rfl

theorem kind_success_iff (h : Enveloped status v) :
    v.get? "type" = some (.str "success") ↔ status < 400 := by
  cases h with
  | success message data hstatus => exact iff_of_true rfl hstatus
  | error message hstatus | fieldErrors message errors hstatus =>
    refine iff_of_false ?_ (by omega)
    intro hkind
    have hlabel : "error" = "success" := Json.str.inj (Option.some.inj hkind)
    exact absurd hlabel (by decide)

theorem kind_of_errors (h : Enveloped status v) (herrors : (v.get? "errors").isSome = true) :
    v.get? "type" = some (.str "error") := by
  cases h with
  | success message data hstatus => cases herrors
  | error message hstatus => rfl
  | fieldErrors message errors hstatus => rfl

end Enveloped

def faultEnvelope : Json :=
  .obj [("message", .str "Something went wrong, please try again later"), ("type", .str "error"),
    ("code", .str "500")]

/-- The body is an envelope for the status, and the one for faults if the service is at fault. -/
def Response.IsEnvelope (r : Response) : Prop :=
  ∃ v, r.body = .json v ∧ Enveloped r.status v ∧ (r.status = 500 → v = faultEnvelope)

namespace ErrorAnswer

/-- The envelope of an error agrees with its status, and tells nothing about a fault. -/
structure IsProper (a : ErrorAnswer) : Prop where
  kind : a.envelope.kind = .error
  code : a.envelope.code = toString a.status
  refuses : 400 ≤ a.status
  fault : a.status = 500 → a = serviceFault

theorem isProper_serviceFault : serviceFault.IsProper := ⟨rfl, rfl, by decide, fun _ => rfl⟩

/-- Whatever the message and the errors are, the envelope for a status that blames the caller is
proper. -/
theorem isProper_of_ne_fault {status : Nat} (message : String) (errors : Option FieldErrors)
    (hrefuses : 400 ≤ status) (hfault : status ≠ 500) :
    (⟨status, { ErrorEnvelope.ofStatus status message with errors }⟩ : ErrorAnswer).IsProper :=
  ⟨rfl, rfl, hrefuses, fun h => absurd h hfault⟩

theorem isProper_unauthorized : unauthorized.IsProper :=
  isProper_of_ne_fault _ none (by decide) (by decide)

theorem isProper_notFound (message : String) : (notFound message).IsProper :=
  isProper_of_ne_fault message none (by decide) (by decide)

theorem isProper_badRequest (errors : FieldErrors) : (badRequest errors).IsProper :=
  isProper_of_ne_fault _ (some errors) (by decide) (by decide)

theorem isProper_ofLoginFlaw (flaw : LoginFlaw) : (ofLoginFlaw flaw).IsProper := by
  cases flaw with
  | missingCredentials => exact isProper_of_ne_fault _ (some _) (by decide) (by decide)
  | userNotFound | invalidCredentials => exact isProper_of_ne_fault _ none (by decide) (by decide)

theorem isProper_ofFailure (f : Failure) : (ofFailure f).IsProper := by
  cases f with
  | invalid errors => exact isProper_of_ne_fault _ (some errors) (by decide) (by decide)
  | notFound resource => exact isProper_notFound _
  | unauthorized => exact isProper_unauthorized
  | login flaw => exact isProper_ofLoginFlaw flaw
  | token flaw =>
    cases flaw with
    | unsigned => exact isProper_serviceFault
    | _ => exact isProper_unauthorized
  | conflict _ | persistence _ | internal _ => exact isProper_serviceFault

end ErrorAnswer

section Answers

theorem isEnvelope_ofError {a : ErrorAnswer} (h : a.IsProper) :
    (Response.ofError a).IsEnvelope := by
  have hfault : a.status = 500 → a.envelope.toJson = faultEnvelope := by
    intro hstatus
    rw [h.fault hstatus]
    rfl
  refine ⟨a.envelope.toJson, rfl, ?_, hfault⟩
  show Enveloped a.status a.envelope.toJson
  unfold ErrorEnvelope.toJson
  rw [h.kind, h.code]
  cases a.envelope.errors with
  | none => exact .error _ h.refuses
  | some errors => exact .fieldErrors _ errors h.refuses

theorem isEnvelope_success {status : Nat} (message : String) (data : Json) (h : status < 400) :
    (Response.success status message data).IsEnvelope := by
  refine ⟨_, rfl, .success message data h, ?_⟩
  intro hfault
  have hstatus : status = 500 := hfault
  omega

theorem Response.IsEnvelope.withHeaders {r : Response} (h : r.IsEnvelope)
    (headers : List (String × String)) : (r.withHeaders headers).IsEnvelope := h

theorem isEnvelope_outcome {α : Type} {write : α → Response} (h : ∀ a, (write a).IsEnvelope)
    (result : Except Failure α) : (outcome write result).IsEnvelope := by
  cases result with
  | ok a => exact h a
  | error f => exact isEnvelope_ofError (ErrorAnswer.isProper_ofFailure f)

theorem isEnvelope_turnedAway (f : Failure) : (turnedAway f).IsEnvelope := by
  unfold turnedAway
  apply isEnvelope_ofError
  split
  · exact ErrorAnswer.isProper_unauthorized
  · exact ErrorAnswer.isProper_ofFailure f

end Answers

section Places

variable (s : Settings) (w : World) (q : Request)

theorem isEnvelope_login : ((login s q).run World.serve w).1.IsEnvelope := by
  obtain ⟨errors, hform⟩ | ⟨f, hform⟩ := run_login s q w
  · rw [hform]
    exact isEnvelope_ofError (ErrorAnswer.isProper_badRequest errors)
  · rw [hform]
    apply isEnvelope_outcome
    intro receipt
    exact isEnvelope_success _ _ (by decide)

/-- Whatever a caller does behind the gate, at a place that knows the method. -/
theorem isEnvelope_inside (userId : Int) {place : Inside}
    (h : ∀ allowed, place ≠ .wrongMethod allowed) :
    ((inside s q userId place).run World.serve w).1.IsEnvelope := by
  cases place with
  | logout | cancelOrder _ =>
    simp only [inside, run_told]
    apply isEnvelope_outcome
    intro _
    exact isEnvelope_success _ _ (by decide)
  | createOrder =>
    obtain ⟨errors, hform⟩ | ⟨d, -, hform⟩ := run_createOrder s q userId w
    · simp only [inside, hform]
      exact isEnvelope_ofError (ErrorAnswer.isProper_badRequest errors)
    · simp only [inside, hform]
      apply isEnvelope_outcome
      intro receipt
      exact isEnvelope_success _ _ (by decide)
  | listOrders =>
    obtain ⟨errors, hquery⟩ | ⟨r, hquery⟩ := run_listOrders s q userId w
    · simp only [inside, hquery]
      exact isEnvelope_ofError (ErrorAnswer.isProper_badRequest errors)
    · simp only [inside, hquery]
      apply isEnvelope_outcome
      intro page
      exact isEnvelope_success _ _ (by decide)
  | wrongMethod allowed => exact absurd rfl (h allowed)
  | nowhere => exact isEnvelope_ofError (ErrorAnswer.isProper_notFound notFoundMessage)

variable {s w q}

/-- The gate answers by itself, or admits the caller to a place that knows the method. -/
theorem isEnvelope_gate {place : Inside}
    (h : ∀ allowed, place = .wrongMethod allowed → ∀ c, ¬ Admits s w q c) :
    ((gate s q fun userId => inside s q userId place).run World.serve w).1.IsEnvelope := by
  cases hbearer : q.bearer? with
  | none =>
    rw [run_gate_nameless hbearer]
    exact isEnvelope_ofError ErrorAnswer.isProper_unauthorized
  | some token =>
    cases hanswer : w.answer (Desk.authenticate (rules s) token) with
    | error f =>
      rw [run_gate_refused hbearer hanswer]
      exact isEnvelope_turnedAway f
    | ok c =>
      rw [run_gate_admitted hbearer hanswer]
      apply isEnvelope_inside
      intro allowed hplace
      have hadmits : Admits s w q c := ⟨token, (q.bearer?_eq_some_iff token).mp hbearer, hanswer⟩
      exact h allowed hplace c hadmits

/-- Only the logout tells which methods it knows. -/
theorem ofOrdersPath_ne_wrongMethod (method : String) (rest : List String) (allowed : String) :
    Route.ofOrdersPath method rest ≠ .wrongMethod allowed := by
  unfold Route.ofOrdersPath
  split
  · split <;> exact Inside.noConfusion
  · split <;> exact Inside.noConfusion
  · split <;> exact Inside.noConfusion
  · exact Inside.noConfusion

theorem logout_of_wrongMethod {allowed : String}
    (h : Route.ofRequest q = .gated (.wrongMethod allowed)) :
    q.segments = ["", "api", "v1", "logout"] ∧ q.method ≠ "POST" := by
  unfold Route.ofRequest at h
  split at h
  · rename_i rest hsegments
    rw [hsegments]
    unfold Route.ofPath at h
    split at h
    · split at h <;> cases h
    · split at h <;> cases h
    · split at h
      · cases h
      · rename_i hmethod
        exact ⟨rfl, hmethod⟩
    · exact absurd (Route.gated.inj h) (ofOrdersPath_ne_wrongMethod _ _ _)
    · cases h
  · cases h

theorem isEnvelope_serve
    (hlogout : q.segments = ["", "api", "v1", "logout"] → q.method ≠ "POST" →
      ∀ c, ¬ Admits s w q c) :
    ((serve s q).run World.serve w).1.IsEnvelope := by
  unfold serve
  cases hroute : Route.ofRequest q with
  | health => exact isEnvelope_success _ _ (by decide)
  | login => exact isEnvelope_login s w q
  | nowhere => exact isEnvelope_ofError (ErrorAnswer.isProper_notFound notFoundMessage)
  | gated place =>
    apply isEnvelope_gate
    rintro allowed rfl
    obtain ⟨hsegments, hmethod⟩ := logout_of_wrongMethod hroute
    exact hlogout hsegments hmethod

end Places

/-- For every request in every world that tells no origin and does not ask which methods are
allowed, and that does not come to the logout with a wrong method and an accepted token: the answer
has one of the three bodies that go with its status. So its code is the status in decimal, its type
is success exactly below 400, and only errors come with messages about fields. If the service is at
fault the body is always the same. -/
theorem answers_are_enveloped (s : Settings) (w : World) (q : Request)
    (horigin : q.header? "origin" = none) (hpreflight : ¬ q.IsPreflight)
    (hlogout : q.segments = ["", "api", "v1", "logout"] → q.method ≠ "POST" →
      ∀ c, ¬ Admits s w q c) :
    ∃ v, (exchange s w q).1.body = .json v ∧ Enveloped (exchange s w q).1.status v ∧
      v.get? "code" = some (.str (toString (exchange s w q).1.status)) ∧
      (v.get? "type" = some (.str "success") ↔ (exchange s w q).1.status < 400) ∧
      ((v.get? "errors").isSome = true → v.get? "type" = some (.str "error")) ∧
      ((exchange s w q).1.status = 500 → v = faultEnvelope) := by
  have hserved : (exchange s w q).1.IsEnvelope := by
    rw [exchange_of_served (Request.answer?_eq_none horigin hpreflight s)]
    exact (isEnvelope_serve hlogout).withHeaders _
  obtain ⟨v, hbody, henveloped, hfault⟩ := hserved
  exact ⟨v, hbody, henveloped, henveloped.code, henveloped.kind_success_iff,
    henveloped.kind_of_errors, hfault⟩

def karimsClosedCounter : World := Desk.karimsSession { isDown := true }

theorem status_at_closed_counter :
    (exchange {} karimsClosedCounter karimsListing).1.status = 500 := by
  have hroute : Route.ofRequest karimsListing = .gated .listOrders := by decide
  obtain ⟨v, ⟨cache, hv⟩, hexchange⟩ := exchange_karim { isDown := true } rfl hroute rfl
  unfold karimsClosedCounter
  rw [hexchange, inside, run_karimsListing, World.answer, Desk.perform_listOrders, hv]
  rfl

/-- A stranger is turned away in an envelope, and a user whose orders are out of reach is told in
one that the service is at fault. -/
theorem strangers_and_faults_are_enveloped :
    (∃ v, (exchange {} karimsCounter strangersRequest).1.body = .json v ∧ Enveloped 401 v) ∧
    (exchange {} karimsClosedCounter karimsListing).1.body = .json faultEnvelope := by
  have hstranger : (exchange {} karimsCounter strangersRequest).1.status = 401 := rfl
  have hclosed := status_at_closed_counter
  obtain ⟨v, hbody, henveloped, -⟩ := answers_are_enveloped {} karimsCounter strangersRequest rfl
    (fun h => absurd h.1 (by decide)) (fun h => absurd h (by decide))
  obtain ⟨u, hlisting, -, -, -, -, hfault⟩ := answers_are_enveloped {} karimsClosedCounter
    karimsListing rfl (fun h => absurd h.1 (by decide)) (fun h => absurd h (by decide))
  rw [hstranger] at henveloped
  rw [hfault hclosed] at hlisting
  exact ⟨⟨v, hbody, henveloped⟩, hlisting⟩

def karimsVisit : Request := karimsRequest "GET" "/api/v1/logout"

/-- The answer about the allowed methods has no body, and neither has the one to a wrong method at
the logout. -/
theorem answers_without_envelope :
    methodsQuestion.header? "origin" = none ∧
    (exchange {} karimsCounter methodsQuestion).1.status = 200 ∧
    (∀ v, (exchange {} karimsCounter methodsQuestion).1.body ≠ .json v) ∧
    karimsVisit.header? "origin" = none ∧
    (exchange {} karimsCounter karimsVisit).1.status = 405 ∧
    (∀ v, (exchange {} karimsCounter karimsVisit).1.body ≠ .json v) := by
  have hroute : Route.ofRequest karimsVisit = .gated (.wrongMethod "POST") := by decide
  obtain ⟨v, -, hexchange⟩ := exchange_karim karimsParcels rfl hroute rfl
  refine ⟨rfl, rfl, fun _ => Body.noConfusion, rfl, ?_, ?_⟩
  · unfold karimsCounter
    rw [hexchange]
    rfl
  · unfold karimsCounter
    rw [hexchange]
    exact fun _ => Body.noConfusion

end Web

end ParcelDesk

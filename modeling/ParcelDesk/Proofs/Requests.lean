import ParcelDesk.Proofs.Bearers
import ParcelDesk.Proofs.Logins
import ParcelDesk.Proofs.OrderCalls
import ParcelDesk.Web.Application

/-!
What becomes of a request. It is put aside without anybody having done anything, it signs a user
in, or the gate admits it and the place that it leads to is served for the owner of its token.
Everything else about requests follows from these three ends.
-/

namespace ParcelDesk

namespace Desk

/-- The gate fails over the token, or because the token store is out of reach. -/
theorem failure_of_authenticate {w : World} {r : SessionRules} {token : String} {f : Failure}
    (h : w.answer (authenticate r token) = .error f) :
    (∃ flaw, f = .token flaw) ∨ f = TokenStore.outage := by
  unfold World.answer at h
  cases hverify : Jwt.verify r.token.secret w.clock token with
  | error flaw =>
    rw [perform_authenticate_flaw hverify] at h
    exact .inl ⟨flaw, (Except.error.inj h).symm⟩
  | ok c =>
    by_cases hmirror : w.Mirrors token c.userId
    · rw [perform_authenticate_mirrored hverify hmirror] at h
      cases h
    · rw [perform_authenticate_stored hverify hmirror] at h
      unfold TokenStore.findActive at h
      split at h
      · rename_i hfound
        split at hfound
        · exact .inr ((Except.error.inj h).symm.trans (Except.error.inj hfound).symm)
        · cases hfound
      · exact .inl ⟨.revoked, (Except.error.inj h).symm⟩
      · cases h

/-- A token that is turned away leaves no trace. -/
theorem after_authenticate_error {w : World} {r : SessionRules} {token : String} {f : Failure}
    (h : w.answer (authenticate r token) = .error f) : w.after (authenticate r token) = w := by
  unfold World.answer at h
  unfold World.after
  cases hverify : Jwt.verify r.token.secret w.clock token with
  | error flaw => rw [perform_authenticate_flaw hverify]
  | ok c =>
    by_cases hmirror : w.Mirrors token c.userId
    · rw [perform_authenticate_mirrored hverify hmirror]
    · rw [perform_authenticate_stored hverify hmirror] at h ⊢
      split at h
      · rfl
      · rfl
      · cases h

/-- The gate changes nothing but the cache. -/
theorem cache_after_authenticate (w : World) (r : SessionRules) (token : String) :
    ∃ cache, w.after (authenticate r token) = { w with cache } := by
  obtain hsame | ⟨userId, -, hremind⟩ := after_authenticate w r token
  · exact ⟨w.cache, hsame⟩
  · exact ⟨_, hremind⟩

end Desk

namespace Web

open Desk (World Work)

def exchange (s : Settings) (w : World) (q : Request) : Response × World :=
  (handle s q).run World.serve w

def Response.data? (r : Response) : Option Json :=
  match r.body with
  | .json v => v.get? "data"
  | _ => none

def Response.listing? (r : Response) : Option (List Json) :=
  match r.data?.bind fun data => data.get? "orders" with
  | some (.arr xs) => some xs
  | _ => none

section Answers

variable {α : Type}

def outcome (write : α → Response) : Except Failure α → Response
  | .ok a => write a
  | .error f => .ofError (.ofFailure f)

theorem le_status_ofFailure (f : Failure) : 400 ≤ (ErrorAnswer.ofFailure f).status := by
  cases f with
  | login flaw => cases flaw <;> exact of_decide_eq_true rfl
  | token flaw => cases flaw <;> exact of_decide_eq_true rfl
  | _ => exact of_decide_eq_true rfl

theorem data?_ofError (a : ErrorAnswer) : (Response.ofError a).data? = none := by
  change a.envelope.toJson.get? "data" = none
  unfold ErrorEnvelope.toJson
  cases a.envelope.errors <;> rfl

theorem data?_success (status : Nat) (message : String) (data : Json) :
    (Response.success status message data).data? = some data := rfl

/-- The answer neither lists orders nor says that something was created. -/
structure Response.IsPlain (r : Response) : Prop where
  listing : r.listing? = none
  status : r.status ≠ 201

theorem Response.IsPlain.withHeaders {r : Response} (h : r.IsPlain)
    (headers : List (String × String)) : (r.withHeaders headers).IsPlain :=
  ⟨h.listing, h.status⟩

theorem isPlain_ofError {a : ErrorAnswer} (h : 400 ≤ a.status) :
    (Response.ofError a).IsPlain where
  listing := by rw [Response.listing?, data?_ofError, Option.bind_none]
  status := by
    change a.status ≠ 201
    omega

theorem isPlain_badRequest (errors : FieldErrors) :
    (Response.ofError (.badRequest errors)).IsPlain :=
  isPlain_ofError (a := .badRequest errors) (Nat.le_refl 400)

theorem isPlain_success {status : Nat} {message : String} {data : Json}
    (hdata : data.get? "orders" = none) (hstatus : status ≠ 201) :
    (Response.success status message data).IsPlain where
  listing := by rw [Response.listing?, data?_success, Option.bind_some, hdata]
  status := hstatus

theorem isPlain_outcome {write : α → Response} (h : ∀ a, (write a).IsPlain)
    (result : Except Failure α) : (outcome write result).IsPlain := by
  cases result with
  | ok a => exact h a
  | error f => exact isPlain_ofError (le_status_ofFailure f)

theorem isPlain_turnedAway (f : Failure) : (turnedAway f).IsPlain := by
  unfold turnedAway
  split
  · exact isPlain_ofError (by decide)
  · exact isPlain_ofError (le_status_ofFailure f)

/-- The layer for other origins answers in plain words or with headers only. -/
theorem isPlain_of_answer? {s : Settings} {q : Request} {r : Response}
    (h : Cors.answer? s q = some r) : r.IsPlain := by
  have hrefusal (words : String) : (Response.refusal words).IsPlain :=
    ⟨rfl, by simp [Response.refusal]⟩
  unfold Cors.answer? at h
  split at h
  · obtain rfl := Option.some.inj h
    unfold Cors.preflight
    split
    · exact hrefusal _
    · exact ⟨rfl, by simp⟩
  · cases h
  · split at h
    · cases h
    · obtain rfl := Option.some.inj h
      exact (hrefusal _).withHeaders _

end Answers

section Runs

variable {α : Type} {q : Request} {w : World}

theorem run_told (write : α → Response) (a : Work α) (w : World) :
    (told write a).run World.serve w = (outcome write (w.answer a), w.after a) := by
  have hsplit := Task.run_bind World.serve (ExceptT.run a) (fun
    | .ok x => pure (write x)
    | .error f => pure (.ofError (.ofFailure f))) w
  have hrun : Task.run World.serve (ExceptT.run a) w = w.perform a := rfl
  rw [hrun] at hsplit
  refine Eq.trans rfl (hsplit.trans ?_)
  unfold World.answer World.after
  cases w.perform a with
  | mk r v => cases r <;> rfl

/-- A form that cannot be read, or that is at fault, is refused at once. -/
theorem run_withForm (decode : Json.Decoder α) (complaints : α → Complaints)
    (next : α → Handling) (w : World) :
    (∃ errors, (withForm q decode complaints next).run World.serve w =
        (.ofError (.badRequest errors), w)) ∨
      ∃ a, q.read decode = .ok a ∧
        (withForm q decode complaints next).run World.serve w = (next a).run World.serve w := by
  unfold withForm
  cases hread : q.read decode with
  | error flaw => exact .inl ⟨_, rfl⟩
  | ok a =>
    cases hverdict : (complaints a).verdict with
    | error errors => exact .inl ⟨errors, by simp only [hverdict]; rfl⟩
    | ok _ => exact .inr ⟨a, rfl, by simp only [hverdict]⟩

/-- A login by a form that can be read is told by its outcome. -/
theorem run_login (s : Settings) (q : Request) (w : World) :
    (∃ errors, (login s q).run World.serve w = (.ofError (.badRequest errors), w)) ∨
      ∃ f, (login s q).run World.serve w =
        (outcome (fun r => .success 200 "Successfully logged in" (LoginReceipt.toJson r))
          (w.answer (Desk.login (rules s) f)), w.after (Desk.login (rules s) f)) := by
  unfold login
  obtain ⟨errors, hform⟩ | ⟨f, -, hform⟩ := run_withForm (q := q) LoginForm.decode
    LoginForm.complaints (fun form =>
      told (fun r => .success 200 "Successfully logged in" (LoginReceipt.toJson r))
        (Desk.login (rules s) form)) w
  · exact .inl ⟨errors, hform⟩
  · exact .inr ⟨f, hform.trans (run_told _ _ w)⟩

/-- A draft that can be read is taken in, or is refused at the desk. -/
theorem run_createOrder (s : Settings) (q : Request) (userId : Int) (w : World) :
    (∃ errors, (createOrder s q userId).run World.serve w =
        (.ofError (.badRequest errors), w)) ∨
      ∃ d, q.read Draft.decode = .ok d ∧ (createOrder s q userId).run World.serve w =
        (outcome (fun r => .success 201 "Order Created Successfully" (Receipt.toJson r))
          (w.answer (Desk.createOrder s.orders d userId)),
          w.after (Desk.createOrder s.orders d userId)) := by
  unfold createOrder
  obtain ⟨errors, hform⟩ | ⟨d, hread, hform⟩ := run_withForm (q := q) Draft.decode
    Draft.lengthComplaints (fun draft =>
      told (fun r => .success 201 "Order Created Successfully" (Receipt.toJson r))
        (Desk.createOrder s.orders draft userId)) w
  · exact .inl ⟨errors, hform⟩
  · exact .inr ⟨d, hread, hform.trans (run_told _ _ w)⟩

/-- A listing request that can be read is answered, or is refused at the desk. -/
theorem run_listOrders (s : Settings) (q : Request) (userId : Int) (w : World) :
    (∃ errors, (listOrders s q userId).run World.serve w =
        (.ofError (.badRequest errors), w)) ∨
      ∃ r, (listOrders s q userId).run World.serve w =
        (outcome (fun p => .success 200 "Orders successfully fetched" (OrderPage.toJson p))
          (w.answer (Desk.listOrders s.orders userId r)),
          w.after (Desk.listOrders s.orders userId r)) := by
  unfold listOrders
  split
  · exact .inl ⟨_, rfl⟩
  · exact .inr ⟨_, run_told _ _ w⟩

variable {s : Settings} {next : Int → Handling}

theorem run_gate_nameless (h : q.bearer? = none) :
    (gate s q next).run World.serve w = (.ofError .unauthorized, w) := by
  unfold gate
  rw [h]
  rfl

def proceed (next : Int → Handling) : Except Failure Claims → Handling
  | .error f => pure (turnedAway f)
  | .ok c => next c.userId

theorem run_gate {token : String} (h : q.bearer? = some token) :
    (gate s q next).run World.serve w =
      (proceed next (w.answer (Desk.authenticate (rules s) token))).run World.serve
        (w.after (Desk.authenticate (rules s) token)) := by
  unfold gate
  rw [h]
  have hsplit := Task.run_bind World.serve (ExceptT.run (Desk.authenticate (rules s) token)) (fun
    | .error f => pure (turnedAway f)
    | .ok claims => next claims.userId) w
  have hrun : Task.run World.serve (ExceptT.run (Desk.authenticate (rules s) token)) w =
      w.perform (Desk.authenticate (rules s) token) := rfl
  rw [hrun] at hsplit
  refine Eq.trans rfl (hsplit.trans ?_)
  unfold World.answer World.after
  cases w.perform (Desk.authenticate (rules s) token) with
  | mk r v => cases r <;> rfl

theorem run_gate_refused {token : String} {f : Failure} (h : q.bearer? = some token)
    (hrefused : w.answer (Desk.authenticate (rules s) token) = .error f) :
    (gate s q next).run World.serve w = (turnedAway f, w) := by
  rw [run_gate h, hrefused, Desk.after_authenticate_error hrefused]
  rfl

theorem run_gate_admitted {token : String} {c : Claims} (h : q.bearer? = some token)
    (hadmitted : w.answer (Desk.authenticate (rules s) token) = .ok c) :
    (gate s q next).run World.serve w =
      (next c.userId).run World.serve (w.after (Desk.authenticate (rules s) token)) := by
  rw [run_gate h, hadmitted]
  rfl

theorem exchange_of_answer? {r : Response} (h : Cors.answer? s q = some r) :
    exchange s w q = (r, w) := by
  unfold exchange handle
  rw [h]
  rfl

theorem exchange_of_served (h : Cors.answer? s q = none) :
    exchange s w q = (Cors.grant q ((serve s q).run World.serve w).1,
      ((serve s q).run World.serve w).2) := by
  unfold exchange handle
  rw [h]
  exact Task.run_bind World.serve (serve s q) (fun r => pure (Cors.grant q r)) w

/-- What an admitted caller asks for is done after the gate. -/
theorem exchange_of_admitted {place : Inside} {token : String} {c : Claims}
    (hcors : Cors.answer? s q = none) (hroute : Route.ofRequest q = .gated place)
    (hbears : q.Bears token) (haccepted : w.answer (Desk.authenticate (rules s) token) = .ok c) :
    exchange s w q =
      (Cors.grant q ((inside s q c.userId place).run World.serve
          (w.after (Desk.authenticate (rules s) token))).1,
        ((inside s q c.userId place).run World.serve
          (w.after (Desk.authenticate (rules s) token))).2) := by
  rw [exchange_of_served hcors]
  unfold serve
  rw [hroute]
  simp only [run_gate_admitted ((q.bearer?_eq_some_iff token).mpr hbears) haccepted]

/-- What a user who has just logged in asks for is done, whatever the cache remembers by then. -/
theorem exchange_karim {place : Inside} (orders : OrderStore)
    (hcors : Cors.answer? {} q = none) (hroute : Route.ofRequest q = .gated place)
    (hheader : q.header? "authorization" = some ("Bearer " ++ Desk.karimsToken.text)) :
    ∃ v : World, (∃ cache, v = { Desk.karimsSession orders with cache }) ∧
      exchange {} (Desk.karimsSession orders) q =
        (Cors.grant q ((inside {} q Desk.karim.id place).run World.serve v).1,
          ((inside {} q Desk.karim.id place).run World.serve v).2) :=
  ⟨_, Desk.cache_after_authenticate _ _ _,
    exchange_of_admitted hcors hroute (Request.bears_encode hheader)
      (Desk.accepted_karimsToken orders)⟩

end Runs

inductive Does (s : Settings) (q : Request) (userId : Int) (w : World) : Response × World → Prop
  | aside {r : Response} (hplain : r.IsPlain) : Does s q userId w (r, w)
  | logsOut {r : Response} (hplain : r.IsPlain) :
      Does s q userId w (r, w.after (Desk.logout userId))
  | cancels (consignmentId : String) {r : Response} (hplain : r.IsPlain) :
      Does s q userId w (r, w.after (Desk.cancelOrder consignmentId userId))
  | orders (d : Draft) (hread : q.read Draft.decode = .ok d) :
      Does s q userId w
        (outcome (fun r => .success 201 "Order Created Successfully" (Receipt.toJson r))
          (w.answer (Desk.createOrder s.orders d userId)),
          w.after (Desk.createOrder s.orders d userId))
  | lists (r : ListingRequest) :
      Does s q userId w
        (outcome (fun p => .success 200 "Orders successfully fetched" (OrderPage.toJson p))
          (w.answer (Desk.listOrders s.orders userId r)),
          w.after (Desk.listOrders s.orders userId r))

theorem does_inside (s : Settings) (q : Request) (userId : Int) (place : Inside) (w : World) :
    Does s q userId w ((inside s q userId place).run World.serve w) := by
  cases place with
  | logout =>
    simp only [inside, run_told]
    refine .logsOut (isPlain_outcome ?_ _)
    exact fun _ => isPlain_success rfl (by simp)
  | createOrder =>
    obtain ⟨errors, hform⟩ | ⟨d, hread, hform⟩ := run_createOrder s q userId w
    · simp only [inside, hform]
      exact .aside (isPlain_badRequest errors)
    · simp only [inside, hform]
      exact .orders d hread
  | listOrders =>
    obtain ⟨errors, hquery⟩ | ⟨r, hquery⟩ := run_listOrders s q userId w
    · simp only [inside, hquery]
      exact .aside (isPlain_badRequest errors)
    · simp only [inside, hquery]
      exact .lists r
  | cancelOrder consignmentId =>
    simp only [inside, run_told]
    refine .cancels consignmentId (isPlain_outcome ?_ _)
    exact fun _ => isPlain_success rfl (by simp)
  | wrongMethod allowed => exact .aside ⟨rfl, by simp [Response.wrongMethod]⟩
  | nowhere => exact .aside (isPlain_ofError (a := .notFound notFoundMessage) (by decide))

def Admits (s : Settings) (w : World) (q : Request) (c : Claims) : Prop :=
  ∃ token, q.Bears token ∧ w.answer (Desk.authenticate (rules s) token) = .ok c

inductive Serves (s : Settings) (w : World) (q : Request) : Response × World → Prop
  | aside {r : Response} (hplain : r.IsPlain) : Serves s w q (r, w)
  | signsIn (f : LoginForm) {r : Response} (hroute : Route.ofRequest q = .login)
      (hplain : r.IsPlain) : Serves s w q (r, w.after (Desk.login (rules s) f))
  | admitted {place : Inside} {token : String} {c : Claims} {r : Response} {v : World}
      (hroute : Route.ofRequest q = .gated place) (hbears : q.Bears token)
      (haccepted : w.answer (Desk.authenticate (rules s) token) = .ok c)
      (hinside : (inside s q c.userId place).run World.serve
        (w.after (Desk.authenticate (rules s) token)) = (r, v)) :
      Serves s w q (Cors.grant q r, v)

theorem serves_exchange (s : Settings) (w : World) (q : Request) :
    Serves s w q (exchange s w q) := by
  cases hcors : Cors.answer? s q with
  | some r =>
    rw [exchange_of_answer? hcors]
    exact .aside (isPlain_of_answer? hcors)
  | none =>
    rw [exchange_of_served hcors]
    unfold serve
    cases hroute : Route.ofRequest q with
    | health =>
      refine .aside (.withHeaders ?_ _)
      exact isPlain_success rfl (by simp)
    | nowhere =>
      refine .aside (.withHeaders ?_ _)
      exact isPlain_ofError (a := .notFound notFoundMessage) (by decide)
    | login =>
      obtain ⟨errors, hform⟩ | ⟨f, hform⟩ := run_login s q w
      · simp only [hform]
        exact .aside (.withHeaders (isPlain_badRequest errors) _)
      · simp only [hform]
        refine .signsIn f hroute (.withHeaders (isPlain_outcome ?_ _) _)
        intro receipt
        exact isPlain_success rfl (by simp)
    | gated place =>
      cases hbearer : q.bearer? with
      | none =>
        simp only [run_gate_nameless hbearer]
        refine .aside (.withHeaders ?_ _)
        exact isPlain_ofError (by decide)
      | some token =>
        cases hanswer : w.answer (Desk.authenticate (rules s) token) with
        | error f =>
          simp only [run_gate_refused hbearer hanswer]
          exact .aside (.withHeaders (isPlain_turnedAway f) _)
        | ok c =>
          simp only [run_gate_admitted hbearer hanswer]
          exact .admitted hroute ((q.bearer?_eq_some_iff token).mp hbearer) hanswer rfl

end Web

end ParcelDesk

import ParcelDesk.Proofs.Listings
import ParcelDesk.Proofs.Ownership
import ParcelDesk.Proofs.Requests

/-!
Who may do what over the web. Orders change, and are listed, only for a caller whose token the gate
accepts, and only the caller's own; a logout touches no token but the caller's. Whoever is not
accepted at a guarded place changes nothing, and is told so, unless the layer for other origins has
answered before the gate was asked.
-/

namespace ParcelDesk

namespace Desk

theorem orders_of_listOrders {s : OrderSettings} {userId : Int} {r : ListingRequest} {w : World}
    {p : OrderPage} (h : w.answer (listOrders s userId r) = .ok p) :
    ∃ os : List Order, p.orders = os.map Order.summary ∧
      ∀ o ∈ os, o ∈ w.orders.rows ∧ o.userId = userId := by
  unfold World.answer at h
  rw [perform_listOrders] at h
  cases hfilter : filterOf s userId r with
  | error e =>
    rw [hfilter] at h
    cases h
  | ok f =>
    simp only [hfilter, Except.bind, OrderStore.find] at h
    by_cases hdown : w.orders.isDown = true
    · rw [if_pos hdown] at h
      cases h
    · rw [if_neg hdown] at h
      obtain rfl := Except.ok.inj h
      refine ⟨f.paging.slice (w.orders.listing f), rfl, ?_⟩
      intro o ho
      have hlisted : o ∈ w.orders.listing f := List.mem_of_mem_drop (List.mem_of_mem_take ho)
      rw [OrderStore.listing, List.mem_mergeSort, List.mem_filter] at hlisted
      obtain ⟨hrow, hadmits⟩ := hlisted
      simp only [OrderFilter.admits, userId_of_filterOf hfilter, Bool.and_eq_true,
        beq_iff_eq] at hadmits
      exact ⟨hrow, hadmits.1.1.1⟩

end Desk

namespace Web

open Desk (World Work)

namespace Request

def IsGuarded (q : Request) : Prop :=
  (∃ rest, q.segments = "" :: "api" :: "v1" :: "orders" :: rest) ∨
    q.segments = ["", "api", "v1", "logout"]

/-- The request asks which methods are allowed, in a way that can be understood. -/
def IsPreflight (q : Request) : Prop :=
  q.method = "OPTIONS" ∧ ∃ method, q.header? "access-control-request-method" = some method ∧
    isPlain method = true ∧ Cors.isWord method = true

theorem IsGuarded.gated {q : Request} (h : q.IsGuarded) :
    ∃ place, Route.ofRequest q = .gated place := by
  unfold Route.ofRequest
  rcases h with ⟨rest, horders⟩ | hlogout
  · rw [horders]
    exact ⟨_, rfl⟩
  · rw [hlogout]
    exact ⟨_, rfl⟩

theorem askedMethod?_eq_none {q : Request} (h : ¬ q.IsPreflight) : Cors.askedMethod? q = none := by
  unfold Cors.askedMethod?
  split
  · rename_i hmethod
    rw [Option.filter_eq_none_iff]
    intro method hasked hword
    obtain ⟨hheader, hplain⟩ := Option.filter_eq_some_iff.mp hasked
    exact h ⟨hmethod, method, hheader, hplain, hword⟩
  · rfl

/-- A request that tells no origin is served, unless it asks for the methods. -/
theorem answer?_eq_none {q : Request} (horigin : q.header? "origin" = none)
    (h : ¬ q.IsPreflight) (s : Settings) : Cors.answer? s q = none := by
  unfold Cors.answer?
  rw [askedMethod?_eq_none h, horigin]

end Request

def Response.Tells (r : Response) (status : Nat) (message : String) : Prop :=
  r.status = status ∧ r.body = .json (.obj [("message", .str message), ("type", .str "error"),
    ("code", .str (toString status))])

def GateFails (s : Settings) (w : World) (q : Request) : Prop :=
  ∃ token f, q.Bears token ∧ w.answer (Desk.authenticate (rules s) token) = .error f ∧
    f.isAuthentication = false

section Inside

variable (s : Settings) (q : Request) (userId : Int) (w : World)

/-- Whatever a caller does behind the gate, the rows of all others stay as they are. -/
theorem touchedFor_inside (place : Inside) :
    w.TouchedFor userId ((inside s q userId place).run World.serve w).2 := by
  have hdoes := does_inside s q userId place w
  generalize (inside s q userId place).run World.serve w = result at hdoes ⊢
  cases hdoes with
  | aside hplain => exact .of_rows rfl rfl rfl rfl
  | logsOut hplain => exact Desk.touchedFor_logout w userId
  | cancels consignmentId hplain => exact Desk.touchedFor_cancelOrder w userId consignmentId
  | orders d hread => exact Desk.touchedFor_createOrder w userId s.orders d
  | lists r => exact Desk.touchedFor_listOrders w userId s.orders r

theorem listing?_ofError (a : ErrorAnswer) : (Response.ofError a).listing? = none := by
  rw [Response.listing?, data?_ofError, Option.bind_none]

/-- A caller who is shown a listing sees orders of their own. -/
theorem listing?_inside {place : Inside} {xs : List Json}
    (h : ((inside s q userId place).run World.serve w).1.listing? = some xs) :
    ∃ os : List Order, xs = os.map (fun o => o.summary.toJson) ∧
      ∀ o ∈ os, o ∈ w.orders.rows ∧ o.userId = userId := by
  have hdoes := does_inside s q userId place w
  generalize (inside s q userId place).run World.serve w = result at hdoes h
  -- only the listing lists anything: all other answers are plain, or are about one order
  cases hdoes with
  | aside hplain | logsOut hplain | cancels _ hplain =>
    rw [hplain.listing] at h
    cases h
  | orders d hread =>
    cases hanswer : w.answer (Desk.createOrder s.orders d userId) with
    | error f =>
      rw [hanswer, outcome, listing?_ofError] at h
      cases h
    | ok r =>
      rw [hanswer] at h
      cases h
  | lists r =>
    cases hanswer : w.answer (Desk.listOrders s.orders userId r) with
    | error f =>
      rw [hanswer, outcome, listing?_ofError] at h
      cases h
    | ok p =>
      rw [hanswer] at h
      obtain ⟨os, hpage, hown⟩ := Desk.orders_of_listOrders hanswer
      refine ⟨os, ?_, hown⟩
      have hshown : xs = p.orders.map OrderSummary.toJson := (Option.some.inj h).symm
      rw [hshown, hpage, List.map_map]
      rfl

end Inside

section Refused

variable {s : Settings} {w : World} {q : Request}

theorem not_admits_of_nameless (h : q.bearer? = none) (c : Claims) : ¬ Admits s w q c := by
  rintro ⟨token, hbears, -⟩
  exact (q.bearer?_eq_none_iff.mp h) token hbears

/-- A failure that is not about who the caller is looks like a fault of the service. -/
theorem turnedAway_of_fault {token : String} {f : Failure}
    (h : w.answer (Desk.authenticate (rules s) token) = .error f)
    (hfault : f.isAuthentication = false) : turnedAway f = .ofError .serviceFault := by
  unfold turnedAway
  rw [hfault]
  obtain ⟨flaw, rfl⟩ | rfl := Desk.failure_of_authenticate h
  · cases flaw with
    | unsigned => rfl
    | _ => cases hfault
  · rfl

/-- Without a token that is accepted nothing happens at a guarded place. -/
theorem after_exchange_refused (hguarded : q.IsGuarded) (hrefused : ∀ c, ¬ Admits s w q c) :
    (exchange s w q).2 = w := by
  obtain ⟨place, hplace⟩ := hguarded.gated
  have hserves := serves_exchange s w q
  generalize exchange s w q = result at hserves ⊢
  cases hserves with
  | aside hplain => rfl
  | signsIn f hroute hplain =>
    rw [hplace] at hroute
    cases hroute
  | admitted hroute hbears haccepted hinside => exact absurd ⟨_, hbears, haccepted⟩ (hrefused _)

/-- The gate turns the caller away as a stranger, or because it cannot judge the token. -/
theorem answer_exchange_refused (hguarded : q.IsGuarded) (hrefused : ∀ c, ¬ Admits s w q c)
    (hcors : Cors.answer? s q = none) :
    (GateFails s w q ∧ (exchange s w q).1.Tells 500
        "Something went wrong, please try again later") ∨
      (¬ GateFails s w q ∧ (exchange s w q).1.Tells 401 "Unauthorized") := by
  obtain ⟨place, hplace⟩ := hguarded.gated
  rw [exchange_of_served hcors]
  unfold serve
  rw [hplace]
  cases hbearer : q.bearer? with
  | none =>
    right
    rw [run_gate_nameless hbearer]
    refine ⟨?_, rfl, rfl⟩
    rintro ⟨token, -, hbears, -⟩
    exact (q.bearer?_eq_none_iff.mp hbearer) token hbears
  | some token =>
    have hbears := (q.bearer?_eq_some_iff token).mp hbearer
    cases hanswer : w.answer (Desk.authenticate (rules s) token) with
    | ok c => exact absurd ⟨token, hbears, hanswer⟩ (hrefused c)
    | error f =>
      rw [run_gate_refused hbearer hanswer]
      cases hkind : f.isAuthentication with
      | false =>
        left
        rw [turnedAway_of_fault hanswer hkind]
        exact ⟨⟨token, f, hbears, hanswer, hkind⟩, rfl, rfl⟩
      | true =>
        right
        unfold turnedAway
        rw [hkind]
        refine ⟨?_, rfl, rfl⟩
        rintro ⟨other, g, hother, hfailed, hfault⟩
        obtain rfl := hbears.unique hother
        obtain rfl := Except.error.inj (hanswer.symm.trans hfailed)
        rw [hkind] at hfault
        cases hfault

end Refused

/-- What an admitted caller does touches the caller's own rows only. -/
theorem touchedFor_admitted {s : Settings} {w v : World} {q : Request} {token : String}
    {c : Claims} {place : Inside} {r : Response}
    (h : (inside s q c.userId place).run World.serve
      (w.after (Desk.authenticate (rules s) token)) = (r, v)) : w.TouchedFor c.userId v := by
  have hgate := Desk.touchedFor_authenticate w c.userId (rules s) token
  have hinside := touchedFor_inside s q c.userId (w.after (Desk.authenticate (rules s) token)) place
  rw [h] at hinside
  exact hgate.trans hinside

/-- For every request in every world: rows of orders change only if the request bears a token that
the gate accepts, and then only those of the token's owner; a listing shows only orders of the
owner; a logout changes only token rows of the owner. At a guarded place a request without such a
token changes no order, user or token. It is then told that the caller is not authorized, or that
the service is at fault if the gate could not judge the token, provided that it tells no origin and
does not ask which methods are allowed. -/
theorem requests_are_authorized (s : Settings) (w : World) (q : Request) :
    ((exchange s w q).2.orders.rows ≠ w.orders.rows → ∃ c, Admits s w q c ∧
      TouchedBy Order.userId c.userId w.orders.rows (exchange s w q).2.orders.rows) ∧
    (∀ xs, (exchange s w q).1.listing? = some xs → ∃ c, Admits s w q c ∧
      ∃ os : List Order, xs = os.map (fun o => o.summary.toJson) ∧
        ∀ o ∈ os, o ∈ w.orders.rows ∧ o.userId = c.userId) ∧
    (q.segments = ["", "api", "v1", "logout"] →
      (exchange s w q).2.tokens.rows ≠ w.tokens.rows → ∃ c, Admits s w q c ∧
        TouchedBy StoredToken.userId c.userId w.tokens.rows (exchange s w q).2.tokens.rows) ∧
    (q.IsGuarded → (∀ c, ¬ Admits s w q c) →
      ((exchange s w q).2.orders = w.orders ∧ (exchange s w q).2.users = w.users ∧
        (exchange s w q).2.tokens = w.tokens) ∧
      (q.header? "origin" = none → ¬ q.IsPreflight →
        (GateFails s w q ∧ (exchange s w q).1.Tells 500
            "Something went wrong, please try again later") ∨
          (¬ GateFails s w q ∧ (exchange s w q).1.Tells 401 "Unauthorized"))) := by
  have hserves := serves_exchange s w q
  refine ⟨?_, ?_, ?_, fun hguarded hrefused => ⟨?_, fun horigin hpreflight => ?_⟩⟩
  · intro hchanged
    generalize exchange s w q = result at hserves hchanged ⊢
    cases hserves with
    | aside hplain => exact absurd rfl hchanged
    | signsIn f hroute hplain =>
      exact absurd (congrArg OrderStore.rows (Desk.orders_after_login _ w f)) hchanged
    | admitted hroute hbears haccepted hinside =>
      exact ⟨_, ⟨_, hbears, haccepted⟩, (touchedFor_admitted hinside).orders⟩
  · intro xs hlisting
    generalize exchange s w q = result at hserves hlisting
    cases hserves with
    | aside hplain =>
      rw [hplain.listing] at hlisting
      cases hlisting
    | signsIn f hroute hplain =>
      rw [hplain.listing] at hlisting
      cases hlisting
    | @admitted place token c r v hroute hbears haccepted hinside =>
      have hshown : ((inside s q c.userId place).run World.serve
          (w.after (Desk.authenticate (rules s) token))).1.listing? = some xs := by
        rw [hinside]
        exact hlisting
      obtain ⟨os, hlisted, hown⟩ := listing?_inside s q c.userId _ hshown
      rw [Desk.orders_after_authenticate] at hown
      exact ⟨c, ⟨token, hbears, haccepted⟩, os, hlisted, hown⟩
  · intro hlogout hchanged
    obtain ⟨place, hplace⟩ := Request.IsGuarded.gated (.inr hlogout)
    generalize exchange s w q = result at hserves hchanged ⊢
    cases hserves with
    | aside hplain => exact absurd rfl hchanged
    | signsIn f hroute hplain =>
      rw [hplace] at hroute
      cases hroute
    | admitted hroute hbears haccepted hinside =>
      exact ⟨_, ⟨_, hbears, haccepted⟩, (touchedFor_admitted hinside).tokens⟩
  · rw [after_exchange_refused hguarded hrefused]
    exact ⟨rfl, rfl, rfl⟩
  · exact answer_exchange_refused hguarded hrefused
      (Request.answer?_eq_none horigin hpreflight s)

def karimsParcels : OrderStore :=
  ((({} : OrderStore).insert (Desk.parcel Desk.karim.id "CN1" 20)).2.insert
    (Desk.parcel 8 "CN2" 20)).2

def karimsCounter : World := Desk.karimsSession karimsParcels

def karimsRequest (method path : String) : Request where
  method := method
  path := path
  headers := [("Authorization", "Bearer " ++ Desk.karimsToken.text)]

def karimsCancellation : Request := karimsRequest "PUT" "/api/v1/orders/CN1/cancel"

theorem cancellation_changes_orders :
    (exchange {} karimsCounter karimsCancellation).2.orders.rows ≠ karimsCounter.orders.rows := by
  have hroute : Route.ofRequest karimsCancellation = .gated (.cancelOrder "CN1") := by decide
  obtain ⟨v, ⟨cache, hv⟩, hexchange⟩ := exchange_karim karimsParcels rfl hroute rfl
  have hup : v.orders.isDown = false := by
    rw [hv]
    rfl
  unfold karimsCounter
  rw [hexchange]
  intro hsame
  simp only [inside, run_told, World.after, Desk.perform_cancelOrder hup] at hsame
  rw [hv] at hsame
  have hdeleted := congrArg (List.map Order.isDeleted) hsame
  cases hdeleted

def karimsListing : Request := karimsRequest "GET" "/api/v1/orders/all"

/-- The listing is asked for without any wishes. -/
theorem run_karimsListing (v : World) :
    (listOrders {} karimsListing Desk.karim.id).run World.serve v =
      (outcome (fun p => .success 200 "Orders successfully fetched" (OrderPage.toJson p))
        (v.answer (Desk.listOrders {} Desk.karim.id ⟨none, none, none, none⟩)),
        v.after (Desk.listOrders {} Desk.karim.id ⟨none, none, none, none⟩)) :=
  run_told _ _ v

theorem listing_is_answered :
    ∃ xs, (exchange {} karimsCounter karimsListing).1.listing? = some xs := by
  have hroute : Route.ofRequest karimsListing = .gated .listOrders := by decide
  obtain ⟨v, ⟨cache, hv⟩, hexchange⟩ := exchange_karim karimsParcels rfl hroute rfl
  have hup : v.orders.isDown = false := by
    rw [hv]
    rfl
  have hpage := Desk.answer_listOrders (r := ⟨none, none, none, none⟩) {} Desk.karim.id hup
    ⟨.pending, rfl⟩
  unfold karimsCounter
  rw [hexchange, inside, run_karimsListing, hpage]
  exact ⟨_, rfl⟩

def karimsLogout : Request := karimsRequest "POST" "/api/v1/logout"

theorem logout_changes_tokens :
    (exchange {} karimsCounter karimsLogout).2.tokens.rows ≠ karimsCounter.tokens.rows := by
  have hroute : Route.ofRequest karimsLogout = .gated .logout := by decide
  obtain ⟨v, ⟨cache, hv⟩, hexchange⟩ := exchange_karim karimsParcels rfl hroute rfl
  have hup : v.tokens.isDown = false := by
    rw [hv]
    rfl
  unfold karimsCounter
  rw [hexchange]
  intro hsame
  simp only [inside, run_told, World.after, Desk.perform_logout hup] at hsame
  rw [hv] at hsame
  have hrevoked := congrArg (List.map StoredToken.isRevoked) hsame
  cases hrevoked

def strangersRequest : Request where
  method := "POST"
  path := "/api/v1/orders"

/-- The user cancels a parcel, lists parcels and logs out, and a stranger is turned away. -/
theorem karims_requests_are_authorized :
    (exchange {} karimsCounter karimsCancellation).2.orders.rows ≠ karimsCounter.orders.rows ∧
    (∃ c, Admits {} karimsCounter karimsCancellation c ∧
      TouchedBy Order.userId c.userId karimsCounter.orders.rows
        (exchange {} karimsCounter karimsCancellation).2.orders.rows) ∧
    (∃ xs, (exchange {} karimsCounter karimsListing).1.listing? = some xs ∧
      ∃ c, Admits {} karimsCounter karimsListing c ∧
        ∃ os : List Order, xs = os.map (fun o => o.summary.toJson) ∧
          ∀ o ∈ os, o ∈ karimsCounter.orders.rows ∧ o.userId = c.userId) ∧
    (exchange {} karimsCounter karimsLogout).2.tokens.rows ≠ karimsCounter.tokens.rows ∧
    (∃ c, Admits {} karimsCounter karimsLogout c ∧
      TouchedBy StoredToken.userId c.userId karimsCounter.tokens.rows
        (exchange {} karimsCounter karimsLogout).2.tokens.rows) ∧
    strangersRequest.IsGuarded ∧ (∀ c, ¬ Admits {} karimsCounter strangersRequest c) ∧
    (exchange {} karimsCounter strangersRequest).2.orders = karimsCounter.orders ∧
    (exchange {} karimsCounter strangersRequest).1.Tells 401 "Unauthorized" := by
  have hguarded : strangersRequest.IsGuarded := .inl ⟨[], by decide⟩
  have hstranger : ∀ c, ¬ Admits {} karimsCounter strangersRequest c :=
    not_admits_of_nameless rfl
  have hpreflight : ¬ strangersRequest.IsPreflight := fun h => absurd h.1 (by decide)
  obtain ⟨xs, hlisting⟩ := listing_is_answered
  obtain ⟨-, -, -, hrefused⟩ := requests_are_authorized {} karimsCounter strangersRequest
  obtain ⟨⟨horders, -⟩, hanswer⟩ := hrefused hguarded hstranger
  refine ⟨cancellation_changes_orders, ?_, ⟨xs, hlisting, ?_⟩, logout_changes_tokens, ?_,
    hguarded, hstranger, horders, ?_⟩
  · exact (requests_are_authorized {} karimsCounter karimsCancellation).1
      cancellation_changes_orders
  · exact (requests_are_authorized {} karimsCounter karimsListing).2.1 xs hlisting
  · exact (requests_are_authorized {} karimsCounter karimsLogout).2.2.1 (by decide)
      logout_changes_tokens
  · rcases hanswer rfl hpreflight with ⟨-, hstatus, -⟩ | ⟨-, htold⟩
    · cases hstatus
    · exact htold

def methodsQuestion : Request where
  method := "OPTIONS"
  path := "/api/v1/orders"
  headers := [("Access-Control-Request-Method", "GET")]

/-- The question is answered although it tells no origin and bears no token. -/
theorem methods_are_told_without_token :
    methodsQuestion.IsGuarded ∧ methodsQuestion.header? "origin" = none ∧
    (∀ c, ¬ Admits {} karimsCounter methodsQuestion c) ∧
    (exchange {} karimsCounter methodsQuestion).1.status = 200 ∧
    ¬ (exchange {} karimsCounter methodsQuestion).1.Tells 401 "Unauthorized" ∧
    ¬ (exchange {} karimsCounter methodsQuestion).1.Tells 500
        "Something went wrong, please try again later" := by
  have hstatus : (exchange {} karimsCounter methodsQuestion).1.status = 200 := rfl
  refine ⟨.inl ⟨[], by decide⟩, rfl, not_admits_of_nameless rfl, hstatus, ?_, ?_⟩
  · rintro ⟨hrefused, -⟩
    rw [hstatus] at hrefused
    cases hrefused
  · rintro ⟨hfault, -⟩
    rw [hstatus] at hfault
    cases hfault

end Web

end ParcelDesk

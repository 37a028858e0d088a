import ParcelDesk.Desk.Orders
import ParcelDesk.Desk.Sessions
import ParcelDesk.Order.Json
import ParcelDesk.Settings.Basic
import ParcelDesk.Web.Cors
import ParcelDesk.Web.Query
import ParcelDesk.Web.Request
import ParcelDesk.Web.Route

/-!
The application: what each request does at the desk, and how the outcome is told.
-/

namespace ParcelDesk.Web

open Desk (Call Work)

/-- Something done on a request, with the answer to it. -/
abbrev Handling := Task Call Response

/-- The answer to work that succeeds, or to its failure. -/
def told {α : Type} (write : α → Response) (w : Work α) : Handling := do
  match ← ExceptT.run w with
  | .ok a => pure (write a)
  | .error f => pure (.ofError (.ofFailure f))

/-- The answer to a request that cannot be read. -/
def unread (part message : String) : Response :=
  .ofError (.badRequest (FieldErrors.single part message))

/-- Goes on with a form from the body, unless the form itself is at fault. -/
def withForm {α : Type} (q : Request) (decode : Json.Decoder α) (complaints : α → Complaints)
    (next : α → Handling) : Handling :=
  match q.read decode with
  | .error flaw => pure (unread "body" flaw.message)
  | .ok a =>
    match (complaints a).verdict with
    | .error errors => pure (.ofError (.badRequest errors))
    | .ok () => next a

def rules (s : Settings) : Desk.SessionRules := .ofSettings s.auth

def login (s : Settings) (q : Request) : Handling :=
  withForm q LoginForm.decode LoginForm.complaints fun form =>
    told (fun r => .success 200 "Successfully logged in" (LoginReceipt.toJson r))
      (Desk.login (rules s) form)

def createOrder (s : Settings) (q : Request) (userId : Int) : Handling :=
  withForm q Draft.decode Draft.lengthComplaints fun draft =>
    told (fun r => .success 201 "Order Created Successfully" (Receipt.toJson r))
      (Desk.createOrder s.orders draft userId)

def listOrders (s : Settings) (q : Request) (userId : Int) : Handling :=
  match Query.listing q.query with
  | .error flaw => pure (unread "query" flaw.message)
  | .ok r =>
    told (fun p => .success 200 "Orders successfully fetched" (OrderPage.toJson p))
      (Desk.listOrders s.orders userId r.withoutBlank)

/-- What a caller does behind the gate. -/
def inside (s : Settings) (q : Request) (userId : Int) : Inside → Handling
  | .logout => told (fun _ => .success 200 "Successfully logged out" .null) (Desk.logout userId)
  | .createOrder => createOrder s q userId
  | .listOrders => listOrders s q userId
  | .cancelOrder consignmentId =>
    told (fun _ => .success 200 "Order Cancelled Successfully." .null)
      (Desk.cancelOrder consignmentId userId)
  | .wrongMethod allowed => pure (.wrongMethod allowed)
  | .nowhere => pure (.ofError (.notFound notFoundMessage))

/-- The answer of the gate to a token that it does not let pass. -/
def turnedAway (f : Failure) : Response :=
  .ofError (if f.isAuthentication then .unauthorized else .ofFailure f)

/-- Lets the bearer of a token go on. -/
def gate (s : Settings) (q : Request) (next : Int → Handling) : Handling :=
  match q.bearer? with
  | none => pure (.ofError .unauthorized)
  | some token => do
    match ← ExceptT.run (Desk.authenticate (rules s) token) with
    | .error f => pure (turnedAway f)
    | .ok claims => next claims.userId

def serve (s : Settings) (q : Request) : Handling :=
  match Route.ofRequest q with
  | .health =>
    pure (.success 200 "Service is healthy" (.obj [("status", .str "ok")]))
  | .login => login s q
  | .nowhere => pure (.ofError (.notFound notFoundMessage))
  | .gated place => gate s q fun userId => inside s q userId place

/-- The whole application. -/
def handle (s : Settings) (q : Request) : Handling :=
  match Cors.answer? s q with
  | some r => pure r
  | none => do
    let r ← serve s q
    pure (Cors.grant q r)

end ParcelDesk.Web

import ParcelDesk.Web.Request

/-!
Where requests lead. A few places are open to everyone; those about orders and the logout are
behind the gate, and so is every unknown place under the orders.
-/

namespace ParcelDesk.Web

/-- Places behind the gate. -/
inductive Inside where
  | logout
  | createOrder
  | listOrders
  | cancelOrder (consignmentId : String)
  | wrongMethod (allowed : String)
  | nowhere
deriving DecidableEq, Repr

inductive Route where
  | health
  | login
  | nowhere
  | gated (place : Inside)
deriving DecidableEq, Repr

namespace Route

/-- Places under the orders. -/
def ofOrdersPath (method : String) : List String → Inside
  | [] => if method = "POST" then .createOrder else .nowhere
  | ["all"] => if method = "GET" then .listOrders else .nowhere
  | [id, "cancel"] =>
    if method = "PUT" && id ≠ "" then
      .cancelOrder (String.ofList (Text.Percent.decodeText id.toList))
    else .nowhere
  | _ => .nowhere

def ofPath (method : String) : List String → Route
  | ["healthz"] => if method = "GET" then health else nowhere
  | ["login"] => if method = "POST" then login else nowhere
  | ["logout"] => gated (if method = "POST" then .logout else .wrongMethod "POST")
  | "orders" :: rest => gated (ofOrdersPath method rest)
  | _ => nowhere

def ofRequest (q : Request) : Route :=
  match q.segments with
  | "" :: "api" :: "v1" :: rest => ofPath q.method rest
  | _ => nowhere

end Route

end ParcelDesk.Web

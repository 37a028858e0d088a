import ParcelDesk.Desk.World
import ParcelDesk.Order.Consignment
import ParcelDesk.Order.Draft
import ParcelDesk.Settings.Basic

/-!
Orders over the counter: taking a draft in, cancelling, and listing. The store decides; the cache
is told as far as it can be reached.
-/

namespace ParcelDesk.Desk

/-- How often a new consignment id is drawn after a collision. -/
def redraws : Nat := 2

/-- Stores an order under an id that is drawn for it. -/
def insertOnce (lead : String) (template : Order) : Work Order := do
  let now ← ask .now
  let suffix ← ask .suffix
  Attempt.of (.insertOrder { template with consignmentId := Consignment.idOf lead now suffix })

/-- Stores an order under a drawn id, and draws again up to so many times after a collision. -/
def insertFresh (lead : String) (template : Order) : Nat → Work Order
  | 0 => insertOnce lead template
  | n + 1 => ExceptT.mk do
    match ← ExceptT.run (insertOnce lead template) with
    | .error (.conflict _) => ExceptT.run (insertFresh lead template n)
    | r => pure r

/-- Takes a draft in as an order of the user. -/
def createOrder (s : OrderSettings) (d : Draft) (userId : Int) : Work Receipt := do
  Attempt.ofExcept (d.validate.mapError .invalid)
  let now ← ask .now
  let o ← insertFresh s.lead (Order.ofDraft d s.homeCity userId "" now) redraws
  bestEffort (.mirror o)
  pure o.receipt

/-- Cancels an order of the user. The mirror goes even if there was nothing to cancel. -/
def cancelOrder (consignmentId : String) (userId : Int) : Work Unit := do
  let affected ← Attempt.of (.deleteOrder consignmentId userId)
  bestEffort (.evict consignmentId)
  if affected = 0 then throw (.notFound "order")

/-- The status that a listing asks for. A blank one asks for none. -/
def statusOf (r : ListingRequest) : Except Failure (Option OrderStatus) :=
  match Text.named r.status with
  | none => .ok none
  | some label =>
    match OrderStatus.ofLabel? label with
    | some status => .ok (some status)
    | none =>
      .error (.invalid
        (FieldErrors.single "transfer_status" "The selected transfer status is invalid."))

def filterOf (s : OrderSettings) (userId : Int) (r : ListingRequest) :
    Except Failure OrderFilter := do
  let status ← statusOf r
  pure {
    userId, status
    archived := r.archive.map fun flag => flag ≠ 0
    paging := Paging.within r.page r.limit (UInt32.ofNat s.defaultPageSize)
      (UInt32.ofNat s.maxPageSize) }

/-- One page of the orders of the user. -/
def listOrders (s : OrderSettings) (userId : Int) (r : ListingRequest) : Work OrderPage := do
  let f ← Attempt.ofExcept (filterOf s userId r)
  let (orders, total) ← Attempt.of (.findOrders f)
  pure (.ofOrders orders total f.paging)

end ParcelDesk.Desk

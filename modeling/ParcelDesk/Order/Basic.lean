import ParcelDesk.Fee
import ParcelDesk.Paging
import ParcelDesk.Text.Basic
import ParcelDesk.Time.Instant

/-!
Orders: what a merchant hands in, what the service makes of it, and the projections that callers
see. Kinds of delivery and of items have numeric codes; statuses are read in any case.
-/

namespace ParcelDesk

inductive OrderStatus where
  | pending
  | processing
  | completed
deriving DecidableEq, Repr

namespace OrderStatus

def label : OrderStatus → String
  | pending => "Pending"
  | processing => "Processing"
  | completed => "Completed"

def ofLabel? (s : String) : Option OrderStatus :=
  match Text.fold (Text.trim s) with
  | "pending" => some pending
  | "processing" => some processing
  | "completed" => some completed
  | _ => none

end OrderStatus

inductive DeliveryType where
  | unknown
  | pickup
  | delivery
deriving DecidableEq, Repr

namespace DeliveryType

def code : DeliveryType → Int
  | unknown => 0
  | pickup => 1
  | delivery => 2

def ofCode? (n : Int) : Option DeliveryType :=
  if n = 0 then some unknown else if n = 1 then some pickup else if n = 2 then some delivery else none

def label : DeliveryType → String
  | unknown => "Unknown"
  | pickup => "Pickup"
  | delivery => "Delivery"

end DeliveryType

inductive ItemType where
  | unknown
  | document
  | parcel
  | other
deriving DecidableEq, Repr

namespace ItemType

def code : ItemType → Int
  | unknown => 0
  | document => 1
  | parcel => 2
  | other => 3

def ofCode? (n : Int) : Option ItemType :=
  if n = 0 then some unknown else if n = 1 then some document else if n = 2 then some parcel
  else if n = 3 then some other else none

def label : ItemType → String
  | unknown => "Unknown"
  | document => "Document"
  | parcel => "Parcel"
  | other => "Other"

end ItemType

/-- Who receives a shipment, and where. -/
structure Recipient where
  name : String := ""
  phone : String := ""
  address : String := ""
  city : Int := 0
  zone : Int := 0
  area : Int := 0

/-- What a merchant tells about a shipment; the service keeps it as it is. -/
structure Shipment where
  storeId : Int := 0
  merchantOrderId : Option String := none
  recipient : Recipient := {}
  specialInstruction : Option String := none
  itemDescription : Option String := none
  quantity : Int := 0
  weight : Float := 0
  amount : Float := 0

/-- An order as it is handed in, with codes for its kinds where it names them. -/
structure Draft where
  shipment : Shipment := {}
  deliveryCode : Option Int := none
  itemCode : Option Int := none

structure Order where
  id : Int
  shipment : Shipment
  deliveryType : DeliveryType
  itemType : ItemType
  consignmentId : String
  fees : Fees Float
  promoDiscount : Float
  discount : Float
  status : OrderStatus
  archived : Bool
  userId : Int
  createdAt : Instant
  updatedAt : Instant
  deletedAt : Option Instant

namespace Order

def isDeleted (o : Order) : Bool := o.deletedAt.isSome

/-- The kinds that a draft names, or the usual ones. Codes without a kind count as unnamed. -/
def deliveryTypeOf (d : Draft) : DeliveryType :=
  (d.deliveryCode.bind DeliveryType.ofCode?).getD .delivery

def itemTypeOf (d : Draft) : ItemType := (d.itemCode.bind ItemType.ofCode?).getD .parcel

/-- The fees of a draft are the service's own. -/
def feesOf (homeCity : Int) (s : Shipment) : Fees Float :=
  Fee.fees (s.recipient.city = homeCity) s.weight s.amount

/-- A new order that no store has seen yet. -/
def ofDraft (d : Draft) (homeCity userId : Int) (consignmentId : String) (now : Instant) : Order where
  id := 0
  shipment := d.shipment
  deliveryType := deliveryTypeOf d
  itemType := itemTypeOf d
  consignmentId := consignmentId
  fees := feesOf homeCity d.shipment
  promoDiscount := 0
  discount := 0
  status := .pending
  archived := false
  userId := userId
  createdAt := now
  updatedAt := now
  deletedAt := none

end Order

/-- What a merchant gets back for a new order. -/
structure Receipt where
  consignmentId : String
  merchantOrderId : Option String
  status : String
  deliveryFee : Float

def Order.receipt (o : Order) : Receipt :=
  ⟨o.consignmentId, o.shipment.merchantOrderId, o.status.label, o.fees.delivery⟩

/-- What a listing shows of an order. -/
structure OrderSummary where
  consignmentId : String
  shipment : Shipment
  deliveryType : String
  itemType : String
  status : String
  archived : Bool
  fees : Fees Float
  promoDiscount : Float
  discount : Float
  createdAt : Instant
  updatedAt : Instant

def Order.summary (o : Order) : OrderSummary where
  consignmentId := o.consignmentId
  shipment := o.shipment
  deliveryType := o.deliveryType.label
  itemType := o.itemType.label
  status := o.status.label
  archived := o.archived
  fees := o.fees
  promoDiscount := o.promoDiscount
  discount := o.discount
  createdAt := o.createdAt
  updatedAt := o.updatedAt

/-- What a caller asks of a listing. -/
structure ListingRequest where
  status : Option String
  archive : Option Int
  page : Option UInt32
  limit : Option UInt32

/-- Which orders a listing holds, and which page of them is shown. -/
structure OrderFilter where
  userId : Int
  status : Option OrderStatus
  archived : Option Bool
  paging : Paging

def OrderFilter.admits (f : OrderFilter) (o : Order) : Bool :=
  o.userId == f.userId && !o.isDeleted && f.status.all (· == o.status) &&
    f.archived.all (· == o.archived)

/-- One page of a listing. -/
structure OrderPage where
  orders : List OrderSummary
  total : Nat
  currentPage : UInt32
  perPage : UInt32
  totalInPage : Nat
  lastPage : UInt32

/-- The page that shows some orders out of so many. -/
def OrderPage.ofOrders (orders : List Order) (total : Nat) (p : Paging) : OrderPage :=
  let shown := orders.map Order.summary
  ⟨shown, total, p.currentPage, p.perPage, shown.length, p.lastPage total⟩

end ParcelDesk

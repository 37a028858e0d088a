import ParcelDesk.Order.Basic
import ParcelDesk.Time.Instant

/-!
Orders and their projections as JSON. A record is described once, field by field in order, and
that order is the one in which a list may stand for it.
-/

namespace ParcelDesk

open Json (Decoder Record)

def OrderStatus.decode : Decoder OrderStatus :=
  Json.oneNamed [("Pending", pending), ("Processing", processing), ("Completed", completed)]

def DeliveryType.decode : Decoder DeliveryType :=
  Json.oneNamed [("Unknown", unknown), ("Pickup", pickup), ("Delivery", delivery)]

def ItemType.decode : Decoder ItemType :=
  Json.oneNamed [("Unknown", unknown), ("Document", document), ("Parcel", parcel), ("Other", other)]

def Recipient.members (r : Recipient) : List (String × Json) :=
  [("recipient_name", .str r.name), ("recipient_phone", .str r.phone),
    ("recipient_address", .str r.address), ("recipient_city", .int r.city),
    ("recipient_zone", .int r.zone), ("recipient_area", .int r.area)]

def Shipment.members (s : Shipment) : List (String × Json) :=
  [("store_id", .int s.storeId), ("merchant_order_id", .opt .str s.merchantOrderId)] ++
    s.recipient.members ++
    [("special_instruction", .opt .str s.specialInstruction),
      ("item_description", .opt .str s.itemDescription), ("item_quantity", .int s.quantity),
      ("item_weight", .float s.weight), ("amount_to_collect", .float s.amount)]

def Draft.toJson (d : Draft) : Json :=
  .obj (d.shipment.members ++
    [("delivery_type", .opt .int d.deliveryCode), ("item_type", .opt .int d.itemCode)])

/-- A draft needs none of its fields: texts are empty, numbers zero and options absent without
them. Its weight and its amount are read as told. -/
def Draft.decodeWith (real : Decoder Float) : Decoder Draft :=
  Record.decode "CreateOrderRequest" <|
    (fun storeId merchantOrderId name phone address city zone area deliveryCode itemCode
        specialInstruction itemDescription quantity weight amount =>
      { shipment :=
          { storeId, merchantOrderId, recipient := { name, phone, address, city, zone, area },
            specialInstruction, itemDescription, quantity, weight, amount }
        deliveryCode, itemCode })
      <$> .defaulted "store_id" 0 Json.int64
      <*> .defaulted "merchant_order_id" none (Json.option Json.string)
      <*> .defaulted "recipient_name" "" Json.string
      <*> .defaulted "recipient_phone" "" Json.string
      <*> .defaulted "recipient_address" "" Json.string
      <*> .defaulted "recipient_city" 0 Json.int64
      <*> .defaulted "recipient_zone" 0 Json.int64
      <*> .defaulted "recipient_area" 0 Json.int64
      <*> .defaulted "delivery_type" none (Json.option Json.int64)
      <*> .defaulted "item_type" none (Json.option Json.int64)
      <*> .defaulted "special_instruction" none (Json.option Json.string)
      <*> .defaulted "item_description" none (Json.option Json.string)
      <*> .defaulted "item_quantity" 0 Json.int32
      <*> .defaulted "item_weight" 0 real
      <*> .defaulted "amount_to_collect" 0 real

def Draft.decode : Decoder Draft := decodeWith Json.real

def Fees.members (f : Fees Float) : List (String × Json) :=
  [("delivery_fee", .float f.delivery), ("cod_fee", .float f.cod), ("total_fee", .float f.total)]

def Fees.decode : Decoder (Fees Float) :=
  Record.decode "FeeBreakdown" <|
    mk <$> .required "delivery_fee" Json.real <*> .required "cod_fee" Json.real
      <*> .required "total_fee" Json.real

def Order.toJson (o : Order) : Json :=
  .obj ([("id", .int o.id)] ++ o.shipment.members ++
    [("delivery_type", .str o.deliveryType.label), ("item_type", .str o.itemType.label),
      ("consignment_id", .str o.consignmentId), ("fees", .obj o.fees.members),
      ("promo_discount", .float o.promoDiscount), ("discount", .float o.discount),
      ("order_status", .str o.status.label), ("archived", .bool o.archived),
      ("user_id", .int o.userId), ("created_at", o.createdAt.toJson),
      ("updated_at", o.updatedAt.toJson), ("deleted_at", .opt Instant.toJson o.deletedAt)])

def Order.decode : Decoder Order :=
  Record.decode "Order" <|
    (fun id storeId merchantOrderId name phone address city zone area deliveryType itemType
        specialInstruction itemDescription quantity weight amount consignmentId fees promoDiscount
        discount status archived userId createdAt updatedAt deletedAt =>
      { id, deliveryType, itemType, consignmentId, fees, promoDiscount, discount, status, archived,
        userId, createdAt, updatedAt, deletedAt
        shipment :=
          { storeId, merchantOrderId, recipient := { name, phone, address, city, zone, area },
            specialInstruction, itemDescription, quantity, weight, amount } })
      <$> .required "id" Json.int64
      <*> .required "store_id" Json.int64
      <*> .nullable "merchant_order_id" Json.string
      <*> .required "recipient_name" Json.string
      <*> .required "recipient_phone" Json.string
      <*> .required "recipient_address" Json.string
      <*> .required "recipient_city" Json.int64
      <*> .required "recipient_zone" Json.int64
      <*> .required "recipient_area" Json.int64
      <*> .required "delivery_type" DeliveryType.decode
      <*> .required "item_type" ItemType.decode
      <*> .nullable "special_instruction" Json.string
      <*> .nullable "item_description" Json.string
      <*> .required "item_quantity" Json.int32
      <*> .required "item_weight" Json.real
      <*> .required "amount_to_collect" Json.real
      <*> .required "consignment_id" Json.string
      <*> .required "fees" Fees.decode
      <*> .required "promo_discount" Json.real
      <*> .required "discount" Json.real
      <*> .required "order_status" OrderStatus.decode
      <*> .required "archived" Json.boolean
      <*> .required "user_id" Json.int64
      <*> .required "created_at" Instant.decode
      <*> .required "updated_at" Instant.decode
      <*> .nullable "deleted_at" Instant.decode

def Receipt.toJson (r : Receipt) : Json :=
  .obj [("consignment_id", .str r.consignmentId), ("merchant_order_id", .opt .str r.merchantOrderId),
    ("order_status", .str r.status), ("delivery_fee", .float r.deliveryFee)]

def Receipt.decode : Decoder Receipt :=
  Record.decode "CreatedOrder" <|
    mk <$> .required "consignment_id" Json.string <*> .nullable "merchant_order_id" Json.string
      <*> .required "order_status" Json.string <*> .required "delivery_fee" Json.real

def OrderSummary.toJson (s : OrderSummary) : Json :=
  .obj ([("consignment_id", .str s.consignmentId)] ++ s.shipment.members ++ s.fees.members ++
    [("delivery_type", .str s.deliveryType), ("item_type", .str s.itemType),
      ("order_status", .str s.status), ("archived", .bool s.archived),
      ("promo_discount", .float s.promoDiscount), ("discount", .float s.discount),
      ("created_at", s.createdAt.toJson), ("updated_at", s.updatedAt.toJson)])

def OrderPage.toJson (p : OrderPage) : Json :=
  .obj [("orders", .ofList OrderSummary.toJson p.orders), ("total", .int p.total),
    ("current_page", .int p.currentPage.toNat), ("per_page", .int p.perPage.toNat),
    ("total_in_page", .int p.totalInPage), ("last_page", .int p.lastPage.toNat)]

namespace ListingRequest

def word (n : Option UInt32) : Json := .opt (fun w => .int w.toNat) n

def toJson (r : ListingRequest) : Json :=
  .obj [("transfer_status", .opt .str r.status), ("archive", .opt .int r.archive),
    ("page", word r.page), ("limit", word r.limit)]

def decode : Decoder ListingRequest :=
  Record.decode "OrderListParams" <|
    mk <$> .nullable "transfer_status" Json.string <*> .nullable "archive" Json.int64
      <*> .nullable "page" (fun n => (Json.nat32 n).map UInt32.ofNat)
      <*> .nullable "limit" (fun n => (Json.nat32 n).map UInt32.ofNat)

end ListingRequest

end ParcelDesk

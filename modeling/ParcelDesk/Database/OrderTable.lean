import ParcelDesk.Database.Row
import ParcelDesk.Database.Schema
import ParcelDesk.Failure
import ParcelDesk.Order.Basic

/-!
Orders in the database. The values that an insertion binds stand in the order of its columns, and a
row is read back column by column; a listing is a condition, an order and a stretch of rows.
-/

namespace ParcelDesk.Database

/-- A fault of the store, with what was being done. -/
def persistence (context : String) (fault : Fault) : Failure :=
  .persistence (context ++ ": " ++ fault.message)

/-- A row that does not hold what it should. -/
def columnFailure (name : String) (fault : Fault) : Failure :=
  .internal ("Failed to get " ++ name ++ ": " ++ fault.message)

/-- A column of a row, for an entity. -/
def Row.field {α : Type} (row : Row) (name : String) (r : Reading α) : Except Failure α :=
  (row.get name r).mapError (columnFailure name)

/-- The id that the server gave, as a signed word. -/
def signedId (n : Nat) : Int := (Int64.ofNat n).toInt

/-- A statement that adds a row with the given values. The blanks within the brackets differ between
a long list and a short one. -/
def insertion (table pad : String) (columns : List String) (params : List Param) : Statement :=
  ⟨"INSERT INTO " ++ table ++ " (" ++ pad ++ Table.listed columns ++ pad ++ ") VALUES (" ++
    Table.listed (columns.map fun _ => "?") ++ ")", params⟩

/-- A condition on rows: a column has a value, or it has none. -/
inductive Condition where
  | equals (column : String) (value : Param)
  | isNull (column : String)

namespace Condition

def text : Condition → String
  | equals column _ => column ++ " = ?"
  | isNull column => column ++ " IS NULL"

def params : Condition → List Param
  | equals _ value => [value]
  | isNull _ => []

/-- A clause that keeps the rows on which all conditions hold. -/
def clause (cs : List Condition) : String := " WHERE " ++ " AND ".intercalate (cs.map text)

end Condition

namespace OrderTable

/-- The columns of an insertion. -/
def insertColumns : List String :=
  ["store_id", "merchant_order_id", "recipient_name", "recipient_phone", "recipient_address",
    "recipient_city", "recipient_zone", "recipient_area", "delivery_type", "item_type",
    "special_instruction", "item_description", "item_quantity", "item_weight", "amount_to_collect",
    "order_consignment_id", "cod_fee", "delivery_fee", "total_fee", "promo_discount", "discount",
    "order_status", "archived", "user_id", "created_at", "updated_at"]

/-- The values that an insertion binds, one for each of its columns. -/
def insertParams (o : Order) : List Param :=
  let s := o.shipment
  [.int s.storeId, .ofText? s.merchantOrderId, .text s.recipient.name, .text s.recipient.phone,
    .text s.recipient.address, .int s.recipient.city, .int s.recipient.zone, .int s.recipient.area,
    .int o.deliveryType.code, .int o.itemType.code, .ofText? s.specialInstruction,
    .ofText? s.itemDescription, .int s.quantity, .real s.weight, .real s.amount,
    .text o.consignmentId, .real o.fees.cod, .real o.fees.delivery, .real o.fees.total,
    .real o.promoDiscount, .real o.discount, .text o.status.label, .bool o.archived, .int o.userId,
    .time o.createdAt, .time o.updatedAt]

/-- The columns of a query. -/
def columns : List String := "id" :: insertColumns ++ ["deleted_at"]

/-- The order of a row. Codes and labels that mean nothing are unknown kinds and pending orders. -/
def ofRow (row : Row) : Except Failure Order := do
  let deliveryCode ← row.field "delivery_type" Reading.int8
  let itemCode ← row.field "item_type" Reading.int8
  let status ← row.field "order_status" Reading.text
  let id ← row.field "id" Reading.int64
  let storeId ← row.field "store_id" Reading.int64
  let merchantOrderId ← row.field "merchant_order_id" Reading.text.optional
  let name ← row.field "recipient_name" Reading.text
  let phone ← row.field "recipient_phone" Reading.text
  let address ← row.field "recipient_address" Reading.text
  let city ← row.field "recipient_city" Reading.int64
  let zone ← row.field "recipient_zone" Reading.int64
  let area ← row.field "recipient_area" Reading.int64
  let specialInstruction ← row.field "special_instruction" Reading.text.optional
  let itemDescription ← row.field "item_description" Reading.text.optional
  let quantity ← row.field "item_quantity" Reading.int32
  let weight ← row.field "item_weight" Reading.real
  let amount ← row.field "amount_to_collect" Reading.real
  let consignmentId ← row.field "order_consignment_id" Reading.text
  let delivery ← row.field "delivery_fee" Reading.real
  let cod ← row.field "cod_fee" Reading.real
  let total ← row.field "total_fee" Reading.real
  let promoDiscount ← row.field "promo_discount" Reading.real
  let discount ← row.field "discount" Reading.real
  let archived ← row.field "archived" Reading.bool
  let userId ← row.field "user_id" Reading.int64
  let createdAt ← row.field "created_at" Reading.time
  let updatedAt ← row.field "updated_at" Reading.time
  let deletedAt ← row.field "deleted_at" Reading.time.optional
  pure {
    id, consignmentId, promoDiscount, discount, archived, userId, createdAt, updatedAt, deletedAt
    deliveryType := (DeliveryType.ofCode? deliveryCode).getD .unknown
    itemType := (ItemType.ofCode? itemCode).getD .unknown
    status := (OrderStatus.ofLabel? status).getD .pending
    fees := ⟨delivery, cod, total⟩
    shipment :=
      { storeId, merchantOrderId, recipient := { name, phone, address, city, zone, area },
        specialInstruction, itemDescription, quantity, weight, amount } }

/-- Adds an order, and answers it with the id that it has got. -/
def create (o : Order) : Talk Failure Order := do
  let fail (fault : Fault) : Failure :=
    match fault with
    | .refused e =>
      if e.isUniqueViolation then .conflict ("consignment id " ++ o.consignmentId)
      else persistence "Failed to insert order" fault
    | _ => persistence "Failed to insert order" fault
  let (_, lastId) ← Attempt.mapError fail
    (Talk.execute (insertion "orders" " " insertColumns (insertParams o)))
  pure { o with id := signedId lastId }

/-- The conditions that a filter puts on rows. -/
def conditions (f : OrderFilter) : List Condition :=
  [.equals "user_id" (.int f.userId), .isNull "deleted_at"] ++
    (f.status.map fun s => .equals "order_status" (.text s.label)).toList ++
    (f.archived.map fun b => .equals "archived" (.bool b)).toList

/-- The query for the number of orders that a filter admits. -/
def countQuery (f : OrderFilter) : Statement :=
  ⟨"SELECT COUNT(*) FROM orders" ++ Condition.clause (conditions f),
    (conditions f).flatMap Condition.params⟩

/-- The query for one page of those orders, the latest ones first. -/
def pageQuery (f : OrderFilter) : Statement :=
  ⟨"SELECT " ++ Table.listed columns ++ " FROM orders" ++ Condition.clause (conditions f) ++
      " ORDER BY created_at DESC, id DESC LIMIT ? OFFSET ?",
    (conditions f).flatMap Condition.params ++ [.int f.paging.limit, .int f.paging.offset]⟩

/-- One page of the orders that a filter admits, and how many there are. -/
def find (f : OrderFilter) : Talk Failure (List Order × Nat) := do
  let row ← Attempt.mapError (persistence "Failed to count orders") (Talk.fetchOne (countQuery f))
  let total ← Attempt.ofExcept
    ((row.first Reading.int64).mapError (persistence "Failed to count orders"))
  let rows ← Attempt.mapError (persistence "Failed to list orders") (Talk.fetchAll (pageQuery f))
  let orders ← Attempt.ofExcept (rows.mapM ofRow)
  pure (orders, total.toNat)

/-- Marks a user's order as deleted, and answers how many rows that changed. -/
def softDelete (now : Instant) (consignmentId : String) (userId : Int) : Talk Failure Nat := do
  let (affected, _) ← Attempt.mapError (persistence "Failed to cancel order") <| Talk.execute
    ⟨"UPDATE orders SET deleted_at = ?, updated_at = ? WHERE order_consignment_id = ? AND " ++
        "user_id = ? AND deleted_at IS NULL",
      [.time now, .time now, .text consignmentId, .int userId]⟩
  pure affected

end OrderTable

end ParcelDesk.Database

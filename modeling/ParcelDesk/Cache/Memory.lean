import ParcelDesk.Account.Token
import ParcelDesk.Order.Basic

/-!
Keys of the cache, and the cache in memory. Every family of keys has a lead of its own before a
colon, and the index of orders has none. The cache holds texts that expire, the mirrors of orders,
and the index of mirrored orders by their time of creation. Its clock counts milliseconds.
-/

namespace ParcelDesk.Cache

def orderIndex : String := "orders"

def orderKey (consignmentId : String) : String := "order:" ++ consignmentId

def tokenKey (kind : TokenKind) (token : String) : String := kind.family ++ ":" ++ token

def sessionKey (userId : Int) : String := "session:" ++ String.ofList (Decimal.integerDigits userId)

/-- What the cache keeps of an order. -/
def orderFields (o : Order) : List (String × String) :=
  [("consignment_id", o.consignmentId), ("merchant_order_id", o.shipment.merchantOrderId.getD ""),
    ("order_status", o.status.label), ("delivery_fee", Decimal.plain o.fees.delivery),
    ("created_at", o.createdAt.offsetText), ("updated_at", o.updatedAt.offsetText)]

/-- The cache cannot be reached. -/
inductive Outage where
  | unavailable
deriving DecidableEq, Repr

def Outage.message : Outage → String
  | unavailable => "cache unavailable"

/-- Values under keys, one for each. -/
abbrev Entries (α : Type) := List (String × α)

namespace Entries

variable {α : Type}

def erase (key : String) (es : Entries α) : Entries α := es.filter fun e => e.1 ≠ key

def put (key : String) (a : α) (es : Entries α) : Entries α := (key, a) :: erase key es

theorem lookup_erase_self (key : String) (es : Entries α) : (erase key es).lookup key = none := by
  simp only [erase, List.lookup_eq_none_iff, List.mem_filter, decide_eq_true_eq, bne_iff_ne]
  exact fun _ h he => h.2 he.symm

theorem lookup_put_self (key : String) (a : α) (es : Entries α) :
    (put key a es).lookup key = some a := by
  simp [put]

end Entries

/-- A text and the time of the cache's clock from which on it is gone. -/
structure Expiring where
  value : String
  expiresAt : Nat
deriving DecidableEq, Repr

structure Memory where
  clock : Nat := 0
  texts : Entries Expiring := []
  mirrors : Entries (List (String × String)) := []
  index : List (Int × String) := []
  isDown : Bool := false

namespace Memory

/-- The text under a key, unless it has expired. -/
def text? (m : Memory) (key : String) : Option String :=
  ((m.texts.lookup key).filter fun t => m.clock < t.expiresAt).map Expiring.value

/-- Ids of the mirrored orders, the oldest first. -/
def indexed (m : Memory) : List String :=
  (m.index.mergeSort fun a b => a.1 < b.1 || (a.1 = b.1 && a.2 ≤ b.2)).map Prod.snd

/-- Does something, unless the cache is out of reach. -/
def change (m : Memory) (f : Memory → Memory) : Except Outage Unit × Memory :=
  if m.isDown then (.error .unavailable, m) else (.ok (), f m)

def get (m : Memory) (key : String) : Except Outage (Option String) :=
  if m.isDown then .error .unavailable else .ok (m.text? key)

def set (m : Memory) (key value : String) (seconds : Nat) : Except Outage Unit × Memory :=
  m.change fun m => { m with texts := m.texts.put key ⟨value, m.clock + seconds * 1000⟩ }

/-- Takes out whatever is kept under the key. -/
def delete (m : Memory) (key : String) : Except Outage Unit × Memory :=
  m.change fun m =>
    { m with
      texts := m.texts.erase key
      mirrors := m.mirrors.erase key
      index := if key = orderIndex then [] else m.index }

def unindexed (m : Memory) (consignmentId : String) : List (Int × String) :=
  m.index.filter fun e => e.2 ≠ consignmentId

def mirror (m : Memory) (o : Order) : Except Outage Unit × Memory :=
  m.change fun m =>
    { m with
      mirrors := m.mirrors.put (orderKey o.consignmentId) (orderFields o)
      index := m.unindexed o.consignmentId ++ [(o.createdAt.seconds, o.consignmentId)] }

def evict (m : Memory) (consignmentId : String) : Except Outage Unit × Memory :=
  m.change fun m =>
    { m with
      mirrors := m.mirrors.erase (orderKey consignmentId)
      index := m.unindexed consignmentId }

def advance (m : Memory) (ms : Nat) : Memory := { m with clock := m.clock + ms }

end Memory

end ParcelDesk.Cache

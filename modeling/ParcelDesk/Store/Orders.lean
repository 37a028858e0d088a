import ParcelDesk.Failure
import ParcelDesk.Order.Basic

/-!
The store of orders in memory. Rows stay in the order of their insertion and are never taken out;
a cancelled order only gets a time of deletion.
-/

namespace ParcelDesk

/-- The order of a listing: the latest first, and the greater id first at one instant. -/
def Order.precedes (a b : Order) : Bool :=
  b.createdAt.lt a.createdAt || (a.createdAt = b.createdAt && b.id ≤ a.id)

/-- The row is an order of the user, under this consignment id, that has not been deleted. -/
def Order.isLiveFor (o : Order) (consignmentId : String) (userId : Int) : Bool :=
  o.consignmentId == consignmentId && o.userId == userId && !o.isDeleted

def Order.delete (o : Order) (now : Instant) : Order :=
  { o with deletedAt := some now, updatedAt := now }

/-- Insertions may be made to collide, and the store may be out of reach. -/
structure OrderStore where
  rows : List Order := []
  lastId : Nat := 0
  collisions : Nat := 0
  isDown : Bool := false

namespace OrderStore

def outage : Failure := .persistence "order store unavailable"

/-- Some row has the consignment id, be it deleted or not. -/
def isTaken (s : OrderStore) (consignmentId : String) : Bool :=
  s.rows.any fun o => o.consignmentId == consignmentId

def collision (consignmentId : String) : Failure := .conflict ("consignment id " ++ consignmentId)

/-- Adds a row under the next id, unless its consignment id is taken or counts as taken. -/
def insert (s : OrderStore) (o : Order) : Except Failure Order × OrderStore :=
  if s.isDown then (.error outage, s)
  else if 0 < s.collisions then
    (.error (collision o.consignmentId), { s with collisions := s.collisions - 1 })
  else if s.isTaken o.consignmentId then (.error (collision o.consignmentId), s)
  else
    let row := { o with id := s.lastId + 1 }
    (.ok row, { s with rows := s.rows ++ [row], lastId := s.lastId + 1 })

/-- All rows that a filter admits, in the order of a listing. -/
def listing (s : OrderStore) (f : OrderFilter) : List Order :=
  (s.rows.filter f.admits).mergeSort Order.precedes

/-- One page of a listing, and the number of rows on all its pages. -/
def find (s : OrderStore) (f : OrderFilter) : Except Failure (List Order × Nat) :=
  if s.isDown then .error outage
  else .ok (f.paging.slice (s.listing f), (s.listing f).length)

/-- Deletes a user's order, and answers how many rows that changed. -/
def delete (s : OrderStore) (now : Instant) (consignmentId : String) (userId : Int) :
    Except Failure Nat × OrderStore :=
  if s.isDown then (.error outage, s)
  else
    (.ok (s.rows.countP fun o => o.isLiveFor consignmentId userId),
      { s with
        rows := s.rows.map fun o => if o.isLiveFor consignmentId userId then o.delete now else o })

end OrderStore

end ParcelDesk

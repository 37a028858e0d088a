import Mathlib.Data.List.Forall2
import ParcelDesk.Proofs.DeskRuns
import ParcelDesk.Proofs.Drafts
import ParcelDesk.Proofs.Listings

/-!
What a desk has booked. The bookings of a run are told from its answers alone: a draft that was
taken in is booked under the id that the user was told, unless a later event cancels it and says so.
The rows that have not been deleted agree with the bookings, one by one and in the same order, and
every event keeps it so. A listing without filters therefore shows the bookings and nothing else.
-/

namespace ParcelDesk

/-- A draft that was taken in for a user, and the consignment id that the user was told. -/
structure Booking where
  consignmentId : String
  userId : Int
  draft : Draft

namespace Booking

/-- What a listing shows of a booking: the draft's own fields, the kinds that it names or the usual
ones, and a status that no one has changed. -/
structure ShownAs (b : Booking) (x : OrderSummary) : Prop where
  consignmentId : x.consignmentId = b.consignmentId
  shipment : x.shipment = b.draft.shipment
  deliveryType : ∃ t : DeliveryType, x.deliveryType = t.label ∧
    t.code = b.draft.deliveryCode.getD DeliveryType.delivery.code
  itemType : ∃ t : ItemType, x.itemType = t.label ∧
    t.code = b.draft.itemCode.getD ItemType.parcel.code
  status : x.status = "Pending"
  archived : x.archived = false

structure StoredAs (b : Booking) (o : Order) : Prop where
  consignmentId : o.consignmentId = b.consignmentId
  userId : o.userId = b.userId
  shipment : o.shipment = b.draft.shipment
  deliveryType : o.deliveryType = Order.deliveryTypeOf b.draft
  itemType : o.itemType = Order.itemTypeOf b.draft
  status : o.status = .pending
  archived : o.archived = false
  valid : b.draft.validate = .ok ()

theorem StoredAs.shownAs {b : Booking} {o : Order} (h : b.StoredAs o) : b.ShownAs o.summary where
  consignmentId := h.consignmentId
  shipment := h.shipment
  deliveryType := ⟨o.deliveryType, rfl, by rw [h.deliveryType, Draft.code_deliveryTypeOf h.valid]⟩
  itemType := ⟨o.itemType, rfl, by rw [h.itemType, Draft.code_itemTypeOf h.valid]⟩
  status := by
    change o.status.label = _
    rw [h.status]
    rfl
  archived := h.archived

end Booking

namespace Desk

def World.cancels (b : Booking) (w : World) : Event → Bool
  | .cancelOrder consignmentId userId =>
    b.consignmentId == consignmentId && b.userId == userId &&
      (w.answer (Desk.cancelOrder consignmentId userId)).isOk
  | _ => false

namespace Setup

variable (s : Setup)

def booked (w : World) : Event → List Booking
  | .createOrder d userId =>
    match w.answer (Desk.createOrder s.orders d userId) with
    | .ok receipt => [⟨receipt.consignmentId, userId, d⟩]
    | .error _ => []
  | _ => []

def cancelsLater (w : World) (b : Booking) : List Event → Bool
  | [] => false
  | e :: es => w.cancels b e || cancelsLater (s.step w e) b es

/-- What a run books and does not cancel later. -/
def ledger (w : World) : List Event → List Booking
  | [] => []
  | e :: es =>
    (s.booked w e).filter (fun b => !s.cancelsLater (s.step w e) b es) ++
      ledger (s.step w e) es

def rebooked (w : World) (e : Event) (bs : List Booking) : List Booking :=
  bs.filter (fun b => !w.cancels b e) ++ s.booked w e

def Refuses (w : World) : Event → Prop
  | .createOrder d userId => ∃ f, w.answer (Desk.createOrder s.orders d userId) = .error f
  | .cancelOrder consignmentId userId =>
    ∃ f, w.answer (Desk.cancelOrder consignmentId userId) = .error f
  | .listOrders userId r => ∃ f, w.answer (Desk.listOrders s.orders userId r) = .error f
  | _ => False

end Setup

/-- The orders that have not been deleted are those that were booked, and no row shares its
consignment id with another. -/
structure Tallies (bs : List Booking) (orders : OrderStore) : Prop where
  rows : List.Forall₂ Booking.StoredAs bs orders.standing
  distinct : (orders.rows.map Order.consignmentId).Nodup

namespace Tallies

variable {s : Setup} {w : World} {bs : List Booking}

theorem create (h : Tallies bs w.orders) (d : Draft) (userId : Int) :
    Tallies (s.rebooked w (.createOrder d userId) bs)
      (w.after (createOrder s.orders d userId)).orders := by
  have htakes := takes_createOrder s.orders d userId w
  have hkept : s.rebooked w (.createOrder d userId) bs =
      bs ++ s.booked w (.createOrder d userId) := by simp [Setup.rebooked, World.cancels]
  rw [hkept, Setup.booked, World.answer, World.after]
  generalize w.perform (createOrder s.orders d userId) = r at htakes
  cases htakes with
  | refused e suffixes collisions =>
    rw [List.append_nil]
    exact ⟨h.rows, h.distinct⟩
  | taken draw suffixes collisions hdrawn hvalid hup hfree =>
    rename_i o
    have hstored : Booking.StoredAs ⟨o.consignmentId, userId, d⟩ (w.orders.numbered o) := by
      subst hdrawn
      exact ⟨rfl, rfl, rfl, rfl, rfl, rfl, rfl, hvalid⟩
    have hstands : (w.orders.added o).standing = w.orders.standing ++ [w.orders.numbered o] :=
      OrderStore.standing_added w.orders (by rw [hdrawn]; rfl)
    refine ⟨?_, OrderStore.nodup_added h.distinct hfree⟩
    change List.Forall₂ _ _ (w.orders.added o).standing
    rw [hstands]
    exact List.rel_append h.rows (.cons hstored .nil)

theorem of_rows (h : Tallies bs w.orders) {orders : OrderStore}
    (hrows : orders.rows = w.orders.rows) : Tallies bs orders where
  rows := by
    rw [OrderStore.standing, hrows]
    exact h.rows
  distinct := by
    rw [hrows]
    exact h.distinct

/-- A booking and its row are picked alike, if it is by the consignment id and the user. -/
theorem filter (h : Tallies bs w.orders) (picked : String → Int → Bool) :
    List.Forall₂ Booking.StoredAs (bs.filter fun b => picked b.consignmentId b.userId)
      (w.orders.standing.filter fun o => picked o.consignmentId o.userId) := by
  refine List.rel_filter ?_ h.rows
  intro b o hstored
  simp only
  rw [hstored.consignmentId, hstored.userId]

theorem cancel (h : Tallies bs w.orders) (consignmentId : String) (userId : Int) :
    Tallies (s.rebooked w (.cancelOrder consignmentId userId) bs)
      (w.after (cancelOrder consignmentId userId)).orders := by
  have hkept : s.rebooked w (.cancelOrder consignmentId userId) bs = bs.filter fun b =>
      !(b.consignmentId == consignmentId && b.userId == userId &&
        (w.answer (cancelOrder consignmentId userId)).isOk) := List.append_nil _
  rw [hkept]
  cases hanswer : w.answer (cancelOrder consignmentId userId) with
  | error e =>
    have hall : bs.filter (fun b => !(b.consignmentId == consignmentId && b.userId == userId &&
        (Except.error e : Except Failure Unit).isOk)) = bs := by
      simp [Except.isOk, Except.toBool]
    rw [hall]
    exact h.of_rows (by rw [orders_after_cancelOrder_error hanswer])
  | ok _ =>
    rw [after_cancelOrder hanswer]
    refine ⟨?_, ?_⟩
    · have hstands : (w.cancelled consignmentId userId).orders.standing =
          w.orders.standing.filter fun o =>
            !(o.consignmentId == consignmentId && o.userId == userId) :=
        OrderStore.filter_map_deletedFor _ _ _ _
      rw [hstands]
      simpa [Except.isOk, Except.toBool] using
        h.filter fun id user => !(id == consignmentId && user == userId)
    · have hids := OrderStore.map_consignmentId_deletedFor w.orders.rows w.clock consignmentId
        userId
      exact hids ▸ h.distinct

/-- Events that neither book nor cancel leave the rows alone. -/
theorem other (h : Tallies bs w.orders) {e : Event} (hbooked : s.booked w e = [])
    (hcancels : ∀ b, w.cancels b e = false) (hrows : (s.step w e).orders.rows = w.orders.rows) :
    Tallies (s.rebooked w e bs) (s.step w e).orders := by
  have hkept : s.rebooked w e bs = bs := by simp [Setup.rebooked, hbooked, hcancels]
  rw [hkept]
  exact h.of_rows hrows

theorem step (h : Tallies bs w.orders) (e : Event) :
    Tallies (s.rebooked w e bs) (s.step w e).orders := by
  cases e with
  | createOrder d userId => exact h.create d userId
  | cancelOrder consignmentId userId => exact h.cancel consignmentId userId
  | login single f =>
    exact h.other rfl (fun _ => rfl) (by rw [Setup.step, orders_after_login])
  | logout userId => exact h.other rfl (fun _ => rfl) (by rw [Setup.step, orders_after_logout])
  | authenticate token =>
    exact h.other rfl (fun _ => rfl) (by rw [Setup.step, orders_after_authenticate])
  | listOrders userId r =>
    exact h.other rfl (fun _ => rfl) (by rw [Setup.step, after_listOrders])
  | _ => exact h.other rfl (fun _ => rfl) rfl

/-- What was booked before a run, and what the run books, as far as the run does not cancel it. -/
theorem run (h : Tallies bs w.orders) (es : List Event) :
    Tallies (bs.filter (fun b => !s.cancelsLater w b es) ++ s.ledger w es)
      (s.run w es).orders := by
  induction es generalizing w bs with
  | nil =>
    have hall : bs.filter (fun b => !s.cancelsLater w b []) = bs := by
      simp [Setup.cancelsLater]
    rw [hall, Setup.ledger, List.append_nil]
    exact h
  | cons e es ih =>
    -- what the first event books has been booked before the others
    have hsplit : bs.filter (fun b => !s.cancelsLater w b (e :: es)) ++ s.ledger w (e :: es) =
        (s.rebooked w e bs).filter (fun b => !s.cancelsLater (s.step w e) b es) ++
          s.ledger (s.step w e) es := by
      rw [Setup.rebooked, List.filter_append, List.filter_filter, Setup.ledger, List.append_assoc]
      simp only [Setup.cancelsLater, Bool.not_or, Bool.and_comm]
    rw [hsplit, Setup.run_cons]
    exact ih (h.step e)

end Tallies

/-- The listing of the user without filters shows these bookings and no other order, each once. Its
pages show them part by part, and whoever goes through all pages sees them all. -/
def World.Shows (s : OrderSettings) (userId : Int) (bs : List Booking) (w : World) : Prop :=
  ∀ limit, ∃ xs : List OrderSummary,
    (∃ ys, List.Forall₂ Booking.ShownAs bs ys ∧ ys.Perm xs) ∧
    (xs.map OrderSummary.consignmentId).Nodup ∧
    (∀ page, ∃ p, w.answer (listOrders s userId ⟨none, none, page, limit⟩) = .ok p ∧
      p.total = xs.length ∧ p.orders = (s.paging ⟨none, none, page, limit⟩).slice xs) ∧
    (Paging.pageCount (s.paging ⟨none, none, none, limit⟩).limit xs.length < UInt32.size →
      w.browse s userId ⟨none, none, none, limit⟩ = .ok xs)

theorem Tallies.shows {bs : List Booking} {w : World} (h : Tallies bs w.orders)
    (hup : w.orders.isDown = false) (s : OrderSettings) (userId : Int) :
    w.Shows s userId (bs.filter fun b => b.userId == userId) := by
  intro limit
  let r : ListingRequest := ⟨none, none, none, limit⟩
  let os := w.orders.standing.filter fun o => o.userId == userId
  have hwants : ∃ status, r.wants status = true := ⟨.pending, rfl⟩
  have hasked : w.orders.rows.filter (r.asksFor userId) = os := by
    simp only [os, OrderStore.standing, List.filter_filter]
    refine List.filter_congr fun o _ => ?_
    simp [ListingRequest.asksFor, ListingRequest.wants, r]
  have hperm : os.Perm (w.listed userId r) := hasked ▸ (List.mergeSort_perm _ _).symm
  refine ⟨(w.listed userId r).map Order.summary, ⟨os.map Order.summary, ?_,
    hperm.map Order.summary⟩, ?_, ?_, ?_⟩
  · have hstored := h.filter fun _ user => user == userId
    exact List.forall₂_map_right_iff.mpr (hstored.imp fun _ _ hrow => hrow.shownAs)
  · have hids : (os.map Order.consignmentId).Nodup :=
      h.distinct.sublist ((List.filter_sublist.trans List.filter_sublist).map _)
    rw [List.map_map]
    exact (hperm.map Order.consignmentId).nodup_iff.mp hids
  · intro page
    refine ⟨_, answer_listOrders (r := { r with page }) s userId hup hwants, ?_, ?_⟩
    · exact (List.length_map Order.summary).symm
    · exact Paging.map_slice Order.summary _ _
  · intro hfits
    rw [List.length_map] at hfits
    exact browse_eq s userId hup hwants hfits

namespace Setup

/-- A call on orders that is refused changes no row, and nothing about the reach of the store. -/
theorem Refuses.orders {s : Setup} {w : World} {e : Event} (h : s.Refuses w e) :
    (s.step w e).orders.rows = w.orders.rows ∧ (s.step w e).orders.isDown = w.orders.isDown := by
  cases e with
  | createOrder d userId =>
    obtain ⟨f, hrefused⟩ := h
    obtain ⟨suffixes, collisions, hafter⟩ := after_createOrder_error hrefused
    rw [step, hafter]
    exact ⟨rfl, rfl⟩
  | cancelOrder consignmentId userId =>
    obtain ⟨f, hrefused⟩ := h
    rw [step, orders_after_cancelOrder_error hrefused]
    exact ⟨rfl, rfl⟩
  | listOrders userId r =>
    rw [step, after_listOrders]
    exact ⟨rfl, rfl⟩
  | _ => exact h.elim

end Setup

def gift : Draft where
  shipment :=
    { storeId := 1, recipient := { name := "Rahim", phone := "01712345678", address := "Mirpur" },
      quantity := 1, weight := 0.5, amount := 300 }

def letter : Draft := { gift with itemCode := some 1 }

def emptyDesk : World where
  clock := ⟨1760000000, 0⟩
  chance := { suffix := fun n => [Char.ofNat (65 + n)], tokenId := fun _ => "" }

end Desk

end ParcelDesk

import ParcelDesk.Proofs.OrderRows
import ParcelDesk.Proofs.QuietCalls

/-!
What the calls on orders do to a world. Taking in a draft adds one row, or spends suffixes and
arranged collisions and nothing else; cancelling deletes an order of the user, or changes no row;
listing changes nothing. A listing sees the rows, and whether the store is in reach.
-/

namespace ParcelDesk.Desk

namespace World

def redrawn (suffixes collisions : Nat) (w : World) : World :=
  { w with
    chance := { w.chance with suffixes }
    orders := { w.orders with collisions } }

def withRow (o : Order) (w : World) : World := { w with orders := w.orders.added o }

def mirrored (o : Order) (w : World) : World := { w with cache := (w.cache.mirror o).2 }

def cancelled (consignmentId : String) (userId : Int) (w : World) : World :=
  { w with
    orders := { w.orders with
      rows := w.orders.rows.map (OrderStore.deletedFor w.clock consignmentId userId) }
    cache := (w.cache.evict consignmentId).2 }

end World

open World

/-- How the attempt to store an order ends: with a failure, once some ids were drawn, or with a
new row under an id that was drawn and is free. -/
inductive Stores (lead : String) (template : Order) (w : World) :
    Except Failure Order × World → Prop
  | refused (e : Failure) (suffixes collisions : Nat) :
      Stores lead template w (.error e, w.redrawn suffixes collisions)
  | stored (draw suffixes collisions : Nat) {o : Order}
      (hdrawn : o = { template with
        consignmentId := Consignment.idOf lead w.clock (w.chance.suffix draw) })
      (hup : w.orders.isDown = false) (hfree : w.orders.isTaken o.consignmentId = false) :
      Stores lead template w
        (.ok (w.orders.numbered o), (w.redrawn suffixes collisions).withRow o)

theorem stores_insertOnce (lead : String) (template : Order) (w : World) :
    Stores lead template w (w.perform (insertOnce lead template)) := by
  rw [insertOnce, perform_bind_ok (perform_ask w .now), perform_bind_ok (perform_ask _ .suffix),
    perform_of]
  simp only [serve]
  rcases w.orders.insert_cases { template with
      consignmentId := Consignment.idOf lead w.clock (w.chance.suffix w.chance.suffixes) } with
    ⟨e, collisions, hinsert⟩ | ⟨hup, hfree, hinsert⟩
  · rw [hinsert]
    exact .refused e _ collisions
  · rw [hinsert]
    exact .stored w.chance.suffixes (w.chance.suffixes + 1) w.orders.collisions rfl hup hfree

/-- What was drawn before does not matter to the end. -/
theorem Stores.of_redrawn {lead : String} {template : Order} {w : World}
    {suffixes collisions : Nat} {r : Except Failure Order × World}
    (h : Stores lead template (w.redrawn suffixes collisions) r) : Stores lead template w r := by
  cases h with
  | refused e suffixes collisions => exact .refused e suffixes collisions
  | stored draw suffixes collisions hdrawn hup hfree =>
    exact .stored draw suffixes collisions hdrawn hup hfree

section Redraw

variable {σ : Type} {serve : {β : Type} → Call β → σ → β × σ} {lead : String} {template : Order}
  {w v : σ}

/-- After a collision, another id is drawn, whoever serves the calls. -/
theorem run_insertFresh_conflict {id : String}
    (h : Attempt.run serve (insertOnce lead template) w = (.error (.conflict id), v)) (n : Nat) :
    Attempt.run serve (insertFresh lead template (n + 1)) w =
      Attempt.run serve (insertFresh lead template n) v := by
  have honce : Task.run serve (ExceptT.run (insertOnce lead template)) w =
      (.error (.conflict id), v) := h
  refine (Task.run_bind serve (ExceptT.run (insertOnce lead template)) _ w).trans ?_
  rw [honce]
  rfl

theorem run_insertFresh_other {r : Except Failure Order}
    (h : Attempt.run serve (insertOnce lead template) w = (r, v))
    (hother : ∀ id, r ≠ .error (.conflict id)) (n : Nat) :
    Attempt.run serve (insertFresh lead template (n + 1)) w = (r, v) := by
  have honce : Task.run serve (ExceptT.run (insertOnce lead template)) w = (r, v) := h
  refine (Task.run_bind serve (ExceptT.run (insertOnce lead template)) _ w).trans ?_
  rw [honce]
  cases r with
  | ok o => rfl
  | error e =>
    cases e with
    | conflict id => exact absurd rfl (hother id)
    | _ => rfl

end Redraw

theorem stores_insertFresh (lead : String) (template : Order) (n : Nat) (w : World) :
    Stores lead template w (w.perform (insertFresh lead template n)) := by
  induction n generalizing w with
  | zero => exact stores_insertOnce lead template w
  | succ n ih =>
    have honce := stores_insertOnce lead template w
    cases hend : w.perform (insertOnce lead template) with
    | mk r v =>
      rw [hend] at honce
      by_cases hconflict : ∃ id, r = .error (.conflict id)
      · obtain ⟨id, rfl⟩ := hconflict
        rw [World.perform, run_insertFresh_conflict hend]
        -- a collision leaves the rows as they were, so the next draw may start anew
        cases honce with
        | refused e suffixes collisions => exact (ih _).of_redrawn
      · rw [World.perform, run_insertFresh_other hend fun id h => hconflict ⟨id, h⟩]
        exact honce

inductive Takes (s : OrderSettings) (d : Draft) (userId : Int) (w : World) :
    Except Failure Receipt × World → Prop
  | refused (e : Failure) (suffixes collisions : Nat) :
      Takes s d userId w (.error e, w.redrawn suffixes collisions)
  | taken (draw suffixes collisions : Nat) {o : Order}
      (hdrawn : o = Order.ofDraft d s.homeCity userId
        (Consignment.idOf s.lead w.clock (w.chance.suffix draw)) w.clock)
      (hvalid : d.validate = .ok ()) (hup : w.orders.isDown = false)
      (hfree : w.orders.isTaken o.consignmentId = false) :
      Takes s d userId w (.ok (w.orders.numbered o).receipt,
        ((w.redrawn suffixes collisions).withRow o).mirrored (w.orders.numbered o))

theorem takes_createOrder (s : OrderSettings) (d : Draft) (userId : Int) (w : World) :
    Takes s d userId w (w.perform (createOrder s d userId)) := by
  unfold createOrder
  cases hvalid : d.validate with
  | error e => exact .refused (.invalid e) w.chance.suffixes w.orders.collisions
  | ok _ =>
    have hchecked : w.perform (Attempt.ofExcept ((Except.ok ()).mapError Failure.invalid)) =
        (.ok (), w) := rfl
    rw [perform_bind_ok hchecked, perform_bind_ok (perform_ask w .now)]
    simp only [serve]
    have hstores := stores_insertFresh s.lead (Order.ofDraft d s.homeCity userId "" w.clock)
      redraws w
    generalize hend : w.perform (insertFresh s.lead
      (Order.ofDraft d s.homeCity userId "" w.clock) redraws) = r at hstores
    cases hstores with
    | refused e suffixes collisions =>
      rw [perform_bind_error hend]
      exact .refused e suffixes collisions
    | stored draw suffixes collisions hdrawn hup hfree =>
      rw [perform_bind_ok hend, perform_bind_ok (perform_bestEffort _ _)]
      exact .taken draw suffixes collisions hdrawn hvalid hup hfree

/-- A draft that is refused costs at most some ids and some arranged collisions. -/
theorem after_createOrder_error {s : OrderSettings} {d : Draft} {userId : Int} {w : World}
    {e : Failure} (h : w.answer (createOrder s d userId) = .error e) :
    ∃ suffixes collisions,
      w.after (createOrder s d userId) = w.redrawn suffixes collisions := by
  have htakes := takes_createOrder s d userId w
  unfold World.answer at h
  unfold World.after
  generalize w.perform (createOrder s d userId) = r at h htakes
  cases htakes with
  | refused e suffixes collisions => exact ⟨suffixes, collisions, rfl⟩
  | taken draw suffixes collisions hdrawn hvalid hup hfree => simp at h

theorem perform_cancelOrder_down {w : World} (hdown : w.orders.isDown = true)
    (consignmentId : String) (userId : Int) :
    w.perform (cancelOrder consignmentId userId) = (.error OrderStore.outage, w) := by
  have hdelete : w.perform (Attempt.of (.deleteOrder consignmentId userId)) =
      (.error OrderStore.outage, w) := by
    rw [perform_of]
    simp only [serve, OrderStore.delete_of_isDown hdown, withOrders]
  exact perform_bind_error hdelete _

theorem perform_cancelOrder {w : World} (hup : w.orders.isDown = false) (consignmentId : String)
    (userId : Int) :
    w.perform (cancelOrder consignmentId userId) =
      (if w.orders.rows.countP (fun o => o.isLiveFor consignmentId userId) = 0 then
        .error (.notFound "order") else .ok (),
        w.cancelled consignmentId userId) := by
  have hdelete : w.perform (Attempt.of (.deleteOrder consignmentId userId)) =
      (.ok (w.orders.rows.countP fun o => o.isLiveFor consignmentId userId),
        { w with orders := { w.orders with
          rows := w.orders.rows.map
            (OrderStore.deletedFor w.clock consignmentId userId) } }) := by
    rw [perform_of]
    simp only [serve, OrderStore.delete_of_isUp hup, withOrders]
  refine (perform_bind_ok hdelete _).trans ?_
  refine (perform_bind_ok (perform_bestEffort _ _) _).trans ?_
  split <;> rfl

/-- Without the store a cancellation changes nothing. With it orders are deleted and evicted, also
where there is none to cancel. -/
theorem after_cancelOrder_cases (consignmentId : String) (userId : Int) (w : World) :
    (w.orders.isDown = true ∧ w.after (cancelOrder consignmentId userId) = w) ∨
      (w.orders.isDown = false ∧
        w.after (cancelOrder consignmentId userId) = w.cancelled consignmentId userId) := by
  unfold World.after
  cases hdown : w.orders.isDown with
  | true =>
    rw [perform_cancelOrder_down hdown]
    exact .inl ⟨rfl, rfl⟩
  | false =>
    rw [perform_cancelOrder hdown]
    exact .inr ⟨rfl, rfl⟩

theorem after_cancelOrder {consignmentId : String} {userId : Int} {w : World}
    (h : w.answer (cancelOrder consignmentId userId) = .ok ()) :
    w.after (cancelOrder consignmentId userId) = w.cancelled consignmentId userId := by
  unfold World.answer at h
  unfold World.after
  cases hdown : w.orders.isDown with
  | true =>
    rw [perform_cancelOrder_down hdown] at h
    simp at h
  | false => rw [perform_cancelOrder hdown]

/-- An order that cannot be cancelled leaves all orders as they are. -/
theorem orders_after_cancelOrder_error {consignmentId : String} {userId : Int} {w : World}
    {e : Failure} (h : w.answer (cancelOrder consignmentId userId) = .error e) :
    (w.after (cancelOrder consignmentId userId)).orders = w.orders := by
  unfold World.answer at h
  unfold World.after
  cases hdown : w.orders.isDown with
  | true => rw [perform_cancelOrder_down hdown]
  | false =>
    rw [perform_cancelOrder hdown] at h ⊢
    by_cases hnone : w.orders.rows.countP (fun o => o.isLiveFor consignmentId userId) = 0
    · simp only [World.cancelled, OrderStore.map_deletedFor_of_countP hnone]
    · simp [hnone] at h

/-- Listing changes nothing. -/
theorem perform_listOrders (s : OrderSettings) (userId : Int) (r : ListingRequest) (w : World) :
    w.perform (listOrders s userId r) =
      ((filterOf s userId r).bind fun f =>
        (w.orders.find f).map fun (orders, total) => .ofOrders orders total f.paging, w) := by
  rw [listOrders, perform_bind, perform_ofExcept]
  cases filterOf s userId r with
  | error e => rfl
  | ok f =>
    refine (perform_bind _ _ _).trans ?_
    rw [perform_of]
    simp only [serve, Except.bind]
    cases w.orders.find f <;> rfl

theorem after_listOrders (s : OrderSettings) (userId : Int) (r : ListingRequest) (w : World) :
    w.after (listOrders s userId r) = w := by
  rw [World.after, perform_listOrders]

section Unchanged

variable (r : SessionRules) (userId : Int) (w : World)

/-- Sessions have nothing to do with orders. -/
theorem orders_after_login (f : LoginForm) : (w.after (login r f)).orders = w.orders := by
  obtain ⟨n, hdrawn⟩ | ⟨u, -, -, hafter⟩ := after_login w r f
  · rw [hdrawn]
    rfl
  · rw [hafter, World.cleared]
    split <;> rfl

theorem orders_after_logout : (w.after (logout userId)).orders = w.orders := by
  obtain hsame | ⟨-, hafter⟩ := after_logout w userId
  · rw [hsame]
  · rw [hafter]
    rfl

theorem orders_after_authenticate (token : String) :
    (w.after (authenticate r token)).orders = w.orders := by
  obtain hsame | ⟨userId, -, hremind⟩ := after_authenticate w r token
  · rw [hsame]
  · rw [hremind]
    rfl

end Unchanged

end ParcelDesk.Desk

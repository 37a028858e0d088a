import ParcelDesk.Desk.Orders
import ParcelDesk.Proofs.SessionCalls

/-!
Calls that leave the sessions alone. The orders have a store of their own, and in the cache they
touch mirrors and the index but no texts. So whatever is done over the counter, the token rows and
the texts under the keys of tokens stay as they are.
-/

namespace ParcelDesk.Desk

/-- The later world has the same tokens and texts. Time may have passed, ids may have been spent,
and anything may have gone out of reach or come back. -/
structure World.Alike (w v : World) : Prop where
  rows : v.tokens.rows = w.tokens.rows
  texts : v.cache.texts = w.cache.texts
  clock : w.cache.clock ≤ v.cache.clock
  tokenId : v.chance.tokenId = w.chance.tokenId
  tokenIds : w.chance.tokenIds ≤ v.chance.tokenIds

namespace World.Alike

theorem refl (w : World) : w.Alike w := ⟨rfl, rfl, Nat.le_refl _, rfl, Nat.le_refl _⟩

theorem trans {w v u : World} (hwv : w.Alike v) (hvu : v.Alike u) : w.Alike u where
  rows := hvu.rows.trans hwv.rows
  texts := hvu.texts.trans hwv.texts
  clock := Nat.le_trans hwv.clock hvu.clock
  tokenId := hvu.tokenId.trans hwv.tokenId
  tokenIds := Nat.le_trans hwv.tokenIds hvu.tokenIds

end World.Alike

def Call.Quiet : {β : Type} → Call β → Prop
  | _, .now | _, .suffix | _, .insertOrder _ | _, .findOrders _ | _, .deleteOrder _ _
  | _, .mirror _ | _, .evict _ => True
  | _, _ => False

theorem Call.Quiet.alike {β : Type} (c : Call β) (w : World) (h : c.Quiet) :
    w.Alike (World.serve c w).2 := by
  cases c with
  | now => exact .refl w
  | suffix => exact ⟨rfl, rfl, Nat.le_refl _, rfl, Nat.le_refl _⟩
  | insertOrder o => exact ⟨rfl, rfl, Nat.le_refl _, rfl, Nat.le_refl _⟩
  | findOrders f => exact .refl w
  | deleteOrder consignmentId userId => exact ⟨rfl, rfl, Nat.le_refl _, rfl, Nat.le_refl _⟩
  | mirror o =>
    simp only [World.serve, World.withCache, Cache.Memory.mirror, Cache.Memory.change]
    split <;> exact ⟨rfl, rfl, Nat.le_refl _, rfl, Nat.le_refl _⟩
  | evict consignmentId =>
    simp only [World.serve, World.withCache, Cache.Memory.evict, Cache.Memory.change]
    split <;> exact ⟨rfl, rfl, Nat.le_refl _, rfl, Nat.le_refl _⟩
  | _ => exact h.elim

/-- Work that makes quiet calls only leaves a world alike. -/
theorem alike_after {α : Type} {a : Work α} (h : a.Makes Call.Quiet) (w : World) :
    w.Alike (w.after a) :=
  Task.Makes.run World.Alike.refl World.Alike.trans Call.Quiet.alike h w

theorem quiet_ask {α : Type} (c : Call α) (h : c.Quiet) : (ask c).Makes Call.Quiet :=
  Task.Makes.bind (Task.makes_of h) fun _ => trivial

theorem quiet_bestEffort (c : Call (Except Cache.Outage Unit)) (h : c.Quiet) :
    (bestEffort c).Makes Call.Quiet :=
  (Attempt.makes_of h).ignore

theorem quiet_insertOnce (lead : String) (template : Order) :
    (insertOnce lead template).Makes Call.Quiet :=
  (quiet_ask .now trivial).bind fun _ => (quiet_ask .suffix trivial).bind fun _ =>
    Attempt.makes_of trivial

theorem quiet_insertFresh (lead : String) (template : Order) (n : Nat) :
    (insertFresh lead template n).Makes Call.Quiet := by
  induction n with
  | zero => exact quiet_insertOnce lead template
  | succ n ih =>
    refine Task.Makes.bind (quiet_insertOnce lead template) fun r => ?_
    split
    · exact ih
    · trivial

theorem quiet_createOrder (s : OrderSettings) (d : Draft) (userId : Int) :
    (createOrder s d userId).Makes Call.Quiet :=
  (Attempt.makes_ofExcept _).bind fun _ => (quiet_ask .now trivial).bind fun _ =>
    (quiet_insertFresh _ _ _).bind fun o => (quiet_bestEffort (.mirror o) trivial).bind fun _ =>
      Attempt.makes_pure _

theorem quiet_cancelOrder (consignmentId : String) (userId : Int) :
    (cancelOrder consignmentId userId).Makes Call.Quiet := by
  refine (Attempt.makes_of trivial).bind fun affected =>
    (quiet_bestEffort (.evict consignmentId) trivial).bind fun _ => ?_
  split
  · exact Attempt.makes_throw _
  · exact Attempt.makes_pure _

theorem quiet_listOrders (s : OrderSettings) (userId : Int) (r : ListingRequest) :
    (listOrders s userId r).Makes Call.Quiet :=
  (Attempt.makes_ofExcept _).bind fun _ => (Attempt.makes_of trivial).bind fun _ =>
    Attempt.makes_pure _

end ParcelDesk.Desk

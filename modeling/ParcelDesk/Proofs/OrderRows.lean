import ParcelDesk.Store.Orders

/-!
The rows of the order store. Whatever is inserted and deleted, rows are numbered from one on in the
order of their insertion, and no two of them share a consignment id, deleted ones included. So a
listing, which goes by time and then by number, is in strict order.
-/

namespace ParcelDesk

/-- The order stands before the other in a listing: it is later, or as late with a greater id. -/
def Order.Before (a b : Order) : Prop :=
  b.createdAt.lt a.createdAt = true ∨ a.createdAt = b.createdAt ∧ b.id < a.id

theorem Instant.lt_iff (a b : Instant) :
    a.lt b = true ↔ a.seconds < b.seconds ∨ a.seconds = b.seconds ∧ a.nanos < b.nanos := by
  simp [Instant.lt]

theorem Instant.eq_iff (a b : Instant) : a = b ↔ a.seconds = b.seconds ∧ a.nanos = b.nanos := by
  rw [Instant.mk.injEq]

namespace Order

theorem precedes_iff (a b : Order) :
    a.precedes b = true ↔
      b.createdAt.lt a.createdAt = true ∨ a.createdAt = b.createdAt ∧ b.id ≤ a.id := by
  simp [precedes]

theorem precedes_trans (a b c : Order) (hab : a.precedes b = true) (hbc : b.precedes c = true) :
    a.precedes c = true := by
  rw [precedes_iff, Instant.lt_iff, Instant.eq_iff] at *
  omega

theorem precedes_total (a b : Order) : (a.precedes b || b.precedes a) = true := by
  rw [Bool.or_eq_true, precedes_iff, precedes_iff, Instant.lt_iff, Instant.lt_iff, Instant.eq_iff,
    Instant.eq_iff]
  omega

theorem before_of_precedes {a b : Order} (h : a.precedes b = true) (hid : a.id ≠ b.id) :
    a.Before b := by
  rcases (precedes_iff a b).mp h with hlater | ⟨hsame, hle⟩
  · exact .inl hlater
  · exact .inr ⟨hsame, by omega⟩

theorem Before.asymm {a b : Order} (hab : a.Before b) : ¬ b.Before a := by
  unfold Before at *
  rw [Instant.lt_iff, Instant.eq_iff] at *
  omega

end Order

namespace OrderStore

/-- What a store can become as orders are inserted and deleted, collisions are arranged, and the
store goes out of reach and comes back. -/
inductive Leads (s : OrderStore) : OrderStore → Prop
  | refl : Leads s s
  | insert {t : OrderStore} (o : Order) (h : Leads s t) : Leads s (t.insert o).2
  | delete {t : OrderStore} (now : Instant) (consignmentId : String) (userId : Int)
      (h : Leads s t) : Leads s (t.delete now consignmentId userId).2
  | arrange {t : OrderStore} (collisions : Nat) (isDown : Bool) (h : Leads s t) :
      Leads s { t with collisions, isDown }

def numbered (s : OrderStore) (o : Order) : Order := { o with id := s.lastId + 1 }

def added (s : OrderStore) (o : Order) : OrderStore :=
  { s with rows := s.rows ++ [s.numbered o], lastId := s.lastId + 1 }

/-- An insertion fails and changes at most the collisions that are left, or it adds a row under a
consignment id that was free. -/
theorem insert_cases (s : OrderStore) (o : Order) :
    (∃ e collisions, s.insert o = (.error e, { s with collisions })) ∨
      s.isDown = false ∧ s.isTaken o.consignmentId = false ∧
        s.insert o = (.ok (s.numbered o), s.added o) := by
  unfold insert
  split
  · exact .inl ⟨outage, s.collisions, rfl⟩
  rename_i hup
  split
  · exact .inl ⟨collision o.consignmentId, s.collisions - 1, rfl⟩
  split
  · exact .inl ⟨collision o.consignmentId, s.collisions, rfl⟩
  · rename_i hfree
    exact .inr ⟨by simpa using hup, by simpa using hfree, rfl⟩

def deletedFor (now : Instant) (consignmentId : String) (userId : Int) (o : Order) : Order :=
  if o.isLiveFor consignmentId userId then o.delete now else o

theorem deletedFor_id (now : Instant) (consignmentId : String) (userId : Int) (o : Order) :
    (deletedFor now consignmentId userId o).id = o.id := by
  unfold deletedFor
  split <;> rfl

theorem map_consignmentId_deletedFor (rows : List Order) (now : Instant)
    (consignmentId : String) (userId : Int) :
    (rows.map (deletedFor now consignmentId userId)).map Order.consignmentId =
      rows.map Order.consignmentId := by
  rw [List.map_map]
  refine List.map_congr_left fun o _ => ?_
  rw [Function.comp_apply, deletedFor]
  split <;> rfl

theorem delete_of_isDown {s : OrderStore} (h : s.isDown = true) (now : Instant)
    (consignmentId : String) (userId : Int) :
    s.delete now consignmentId userId = (.error outage, s) := by
  rw [delete, if_pos h]

theorem delete_of_isUp {s : OrderStore} (h : s.isDown = false) (now : Instant)
    (consignmentId : String) (userId : Int) :
    s.delete now consignmentId userId =
      (.ok (s.rows.countP fun o => o.isLiveFor consignmentId userId),
        { s with rows := s.rows.map (deletedFor now consignmentId userId) }) := by
  rw [delete, if_neg (by simp [h])]
  rfl

/-- A deletion that finds nothing to delete changes nothing. -/
theorem map_deletedFor_of_countP {rows : List Order} {consignmentId : String} {userId : Int}
    (h : rows.countP (fun o => o.isLiveFor consignmentId userId) = 0) (now : Instant) :
    rows.map (deletedFor now consignmentId userId) = rows := by
  rw [List.countP_eq_zero] at h
  calc rows.map (deletedFor now consignmentId userId) = rows.map id :=
        List.map_congr_left fun o ho => if_neg (h o ho)
    _ = rows := List.map_id rows

def standing (s : OrderStore) : List Order := s.rows.filter fun o => !o.isDeleted

theorem standing_added (s : OrderStore) {o : Order} (h : o.isDeleted = false) :
    (s.added o).standing = s.standing ++ [s.numbered o] := by
  have hnumbered : (s.numbered o).isDeleted = false := h
  simp [standing, added, hnumbered]

theorem isDeleted_deletedFor (now : Instant) (consignmentId : String) (userId : Int) (o : Order) :
    (deletedFor now consignmentId userId o).isDeleted =
      (o.isDeleted || o.isLiveFor consignmentId userId) := by
  unfold deletedFor
  split
  · rename_i hlive
    simp [hlive, Order.delete, Order.isDeleted]
  · rename_i hlive
    simp [hlive]

/-- After a deletion those stand that stood, but for the one that was deleted. -/
theorem filter_map_deletedFor (rows : List Order) (now : Instant) (consignmentId : String)
    (userId : Int) :
    (rows.map (deletedFor now consignmentId userId)).filter (fun o => !o.isDeleted) =
      (rows.filter fun o => !o.isDeleted).filter fun o =>
        !(o.consignmentId == consignmentId && o.userId == userId) := by
  rw [List.filter_map, List.filter_filter]
  -- the deletion has not touched a row that stands after it
  have hstays : ∀ o ∈ rows.filter ((fun o => !o.isDeleted) ∘ deletedFor now consignmentId userId),
      deletedFor now consignmentId userId o = o := by
    intro o ho
    have hstands := (List.mem_filter.mp ho).2
    simp only [Function.comp_apply, isDeleted_deletedFor, Bool.not_or, Bool.and_eq_true,
      Bool.not_eq_true'] at hstands
    exact if_neg (by simp [hstands.2])
  rw [List.map_congr_left hstays, List.map_id']
  refine List.filter_congr fun o _ => ?_
  rw [Function.comp_apply, isDeleted_deletedFor, Order.isLiveFor]
  cases o.isDeleted <;> simp

structure Sound (s : OrderStore) : Prop where
  ids : s.rows.map Order.id = (List.range s.lastId).map fun (n : Nat) => (n : Int) + 1
  consignments : (s.rows.map Order.consignmentId).Nodup

theorem notMem_of_isTaken {s : OrderStore} {consignmentId : String}
    (h : s.isTaken consignmentId = false) :
    consignmentId ∉ s.rows.map Order.consignmentId := by
  intro hmem
  obtain ⟨o, ho, rfl⟩ := List.mem_map.mp hmem
  have htaken : s.isTaken o.consignmentId = true := List.any_eq_true.mpr ⟨o, ho, by simp⟩
  simp [htaken] at h

theorem nodup_added {s : OrderStore} (h : (s.rows.map Order.consignmentId).Nodup) {o : Order}
    (hfree : s.isTaken o.consignmentId = false) :
    ((s.added o).rows.map Order.consignmentId).Nodup := by
  have hfresh := notMem_of_isTaken hfree
  rw [OrderStore.added, List.map_append]
  exact List.nodup_append.mpr ⟨h, by simp, by simpa [numbered] using hfresh⟩

namespace Sound

theorem empty : Sound {} := ⟨rfl, List.nodup_nil⟩

theorem added {s : OrderStore} (h : s.Sound) {o : Order}
    (hfree : s.isTaken o.consignmentId = false) : (s.added o).Sound where
  ids := by
    rw [OrderStore.added, List.map_append, h.ids, List.range_succ, List.map_append]
    rfl
  consignments := nodup_added h.consignments hfree

theorem insert {s : OrderStore} (h : s.Sound) (o : Order) : (s.insert o).2.Sound := by
  rcases insert_cases s o with ⟨e, collisions, hinsert⟩ | ⟨-, hfree, hinsert⟩
  · rw [hinsert]
    exact ⟨h.ids, h.consignments⟩
  · rw [hinsert]
    exact h.added hfree

theorem delete {s : OrderStore} (h : s.Sound) (now : Instant) (consignmentId : String)
    (userId : Int) : (s.delete now consignmentId userId).2.Sound := by
  cases hdown : s.isDown with
  | true => rwa [delete_of_isDown hdown]
  | false =>
    rw [delete_of_isUp hdown]
    refine ⟨?_, ?_⟩
    · simp only [List.map_map, Function.comp_def, deletedFor_id]
      exact h.ids
    · rw [map_consignmentId_deletedFor]
      exact h.consignments

/-- Whatever is done to a sound store, it stays sound. -/
theorem leads {s t : OrderStore} (h : s.Sound) (hst : s.Leads t) : t.Sound := by
  induction hst with
  | refl => exact h
  | insert o _ ih => exact ih.insert o
  | delete now consignmentId userId _ ih => exact ih.delete now consignmentId userId
  | arrange collisions isDown _ ih => exact ⟨ih.ids, ih.consignments⟩

theorem ids_nodup {s : OrderStore} (h : s.Sound) : (s.rows.map Order.id).Nodup := by
  rw [h.ids]
  refine List.pairwise_map.mpr (List.nodup_range.imp ?_)
  intro m n hmn hsame
  omega

end Sound

/-- What no two rows share, no two rows share in a listing. -/
theorem nodup_map_listing {α : Type} {f : Order → α} {rows : List Order} (h : (rows.map f).Nodup)
    (taken : Order → Bool) :
    (((rows.filter taken).mergeSort Order.precedes).map f).Nodup :=
  ((List.mergeSort_perm _ _).map f).nodup_iff.mpr (h.sublist (List.filter_sublist.map f))

/-- Whichever rows of a sound store a listing takes, it has them in strict order. -/
theorem pairwise_before {s : OrderStore} (h : s.Sound) (taken : Order → Bool) :
    ((s.rows.filter taken).mergeSort Order.precedes).Pairwise Order.Before := by
  have hsorted := List.pairwise_mergeSort Order.precedes_trans Order.precedes_total
    (s.rows.filter taken)
  have hdistinct : ((s.rows.filter taken).mergeSort Order.precedes).Pairwise
      fun a b => a.id ≠ b.id := List.pairwise_map.mp (nodup_map_listing h.ids_nodup taken)
  exact (hsorted.and hdistinct).imp fun hab => Order.before_of_precedes hab.1 hab.2

end OrderStore

end ParcelDesk

import Mathlib.Data.List.Nodup
import ParcelDesk.Proofs.AgeingRows
import ParcelDesk.Proofs.OrderRows

/-!
What becomes of the rows of the order store. A row keeps its place for good, and all that may ever
happen to it is that it is deleted, once. Consignment ids stay taken by deleted rows, so a deletion
meets one row at most; and a call that fails has changed no row and spent no id.
-/

namespace ParcelDesk

/-- The order at a later time: nothing has changed in it, but it may have been deleted meanwhile. -/
def Order.Ages : Order → Order → Prop :=
  AgesBy (fun o v => v = { o with deletedAt := v.deletedAt, updatedAt := v.updatedAt })
    Order.isDeleted

instance : IsPreorder Order Order.Ages := by
  apply AgesBy.isPreorder
  · exact fun _ => rfl
  · intro o v x hov hvx
    rw [hov] at hvx
    exact hvx

theorem Order.Ages.delete {o : Order} (h : o.isDeleted = false) (now : Instant) :
    o.Ages (o.delete now) :=
  AgesBy.mk rfl fun hdeleted => absurd hdeleted (by simp [h])

namespace OrderStore

def Ages (s t : OrderStore) : Prop := RowsAge Order.Ages s.rows t.rows

theorem ages_deletedFor (now : Instant) (consignmentId : String) (userId : Int) (o : Order) :
    o.Ages (deletedFor now consignmentId userId o) := by
  unfold deletedFor
  split
  · rename_i hlive
    simp only [Order.isLiveFor, Bool.and_eq_true, Bool.not_eq_true'] at hlive
    exact .delete hlive.2 now
  · exact refl o

theorem ages_added (s : OrderStore) (o : Order) : s.Ages (s.added o) := RowsAge.append s.rows _

theorem ages_insert (s : OrderStore) (o : Order) : s.Ages (s.insert o).2 := by
  rcases insert_cases s o with ⟨e, collisions, hinsert⟩ | ⟨-, -, hinsert⟩
  · rw [hinsert]
    exact RowsAge.of_eq rfl
  · rw [hinsert]
    exact s.ages_added o

theorem ages_map_deletedFor (s : OrderStore) (now : Instant) (consignmentId : String)
    (userId : Int) :
    s.Ages { s with rows := s.rows.map (deletedFor now consignmentId userId) } :=
  RowsAge.map (ages_deletedFor now consignmentId userId) s.rows

theorem ages_delete (s : OrderStore) (now : Instant) (consignmentId : String) (userId : Int) :
    s.Ages (s.delete now consignmentId userId).2 := by
  cases hdown : s.isDown with
  | true =>
    rw [delete_of_isDown hdown]
    exact RowsAge.of_eq rfl
  | false =>
    rw [delete_of_isUp hdown]
    exact s.ages_map_deletedFor now consignmentId userId

theorem Leads.ages {s t : OrderStore} (h : s.Leads t) : s.Ages t := by
  induction h with
  | refl => exact RowsAge.of_eq rfl
  | insert o _ ih => exact ih.trans (ages_insert _ o)
  | delete now consignmentId userId _ ih => exact ih.trans (ages_delete _ now consignmentId userId)
  | arrange collisions isDown _ ih => exact ih.trans (RowsAge.of_eq rfl)

theorem Sound.lastId_eq {s : OrderStore} (h : s.Sound) : s.lastId = s.rows.length := by
  have hlength := congrArg List.length h.ids
  simpa using hlength.symm

/-- Where no two rows share a consignment id, at most one order is met by it. -/
theorem countP_isLiveFor_le {rows : List Order} (h : (rows.map Order.consignmentId).Nodup)
    (consignmentId : String) (userId : Int) :
    rows.countP (fun o => o.isLiveFor consignmentId userId) ≤ 1 := by
  calc rows.countP (fun o => o.isLiveFor consignmentId userId)
    _ ≤ rows.countP (fun o => o.consignmentId == consignmentId) := by
      refine List.countP_mono_left fun o _ hlive => ?_
      simp only [Order.isLiveFor, Bool.and_eq_true] at hlive
      exact hlive.1.1
    _ = (rows.map Order.consignmentId).count consignmentId := by
      rw [List.count, List.countP_map]
      rfl
    _ ≤ 1 := List.nodup_iff_count_le_one.mp h consignmentId

/-- A row that a deletion has changed has the consignment id that was asked for. -/
theorem consignmentId_of_changed {s : OrderStore} {now : Instant} {consignmentId : String}
    {userId : Int} {i : Nat}
    (h : (s.delete now consignmentId userId).2.rows[i]? ≠ s.rows[i]?) :
    (s.rows.map Order.consignmentId)[i]? = some consignmentId := by
  cases hdown : s.isDown with
  | true =>
    rw [delete_of_isDown hdown] at h
    exact absurd rfl h
  | false =>
    rw [delete_of_isUp hdown] at h
    rw [List.getElem?_map] at h ⊢
    cases hrow : s.rows[i]? with
    | none => simp [hrow] at h
    | some o =>
      simp only [hrow, Option.map_some, ne_eq, Option.some.injEq] at h ⊢
      by_contra hother
      refine h (if_neg ?_)
      simp [Order.isLiveFor, hother]

theorem unchanged_of_insert_error {s : OrderStore} {o : Order} {e : Failure}
    (h : (s.insert o).1 = .error e) :
    (s.insert o).2.rows = s.rows ∧ (s.insert o).2.lastId = s.lastId := by
  rcases insert_cases s o with ⟨_, collisions, hinsert⟩ | ⟨-, -, hinsert⟩
  · rw [hinsert]
    exact ⟨rfl, rfl⟩
  · rw [hinsert] at h
    simp at h

theorem unchanged_of_delete_error {s : OrderStore} {now : Instant} {consignmentId : String}
    {userId : Int} {e : Failure} (h : (s.delete now consignmentId userId).1 = .error e) :
    (s.delete now consignmentId userId).2 = s := by
  cases hdown : s.isDown with
  | true => rw [delete_of_isDown hdown]
  | false =>
    rw [delete_of_isUp hdown] at h
    simp at h

/-- Whatever orders were inserted and deleted, with collisions and outages in between: rows are
numbered from one on in the order of their insertion, and no two of them share a consignment id;
earlier rows are still at their places, unchanged but for a deletion, and a deleted row does not
change at all; a deletion says that it met one row at most, and changes no more; and a call that
fails leaves the rows and the counter as they were. Finding orders never touches the store. -/
theorem rows_keep_their_places {s t : OrderStore} (hs : Leads {} s) (hst : s.Leads t) :
    t.rows.map Order.id = (List.range t.rows.length).map (fun (n : Nat) => (n : Int) + 1) ∧
    t.lastId = t.rows.length ∧
    (t.rows.map Order.consignmentId).Nodup ∧
    s.Ages t ∧
    (∀ now consignmentId userId,
      (∀ n, (t.delete now consignmentId userId).1 = .ok n → n ≤ 1) ∧
      ∀ i j : Nat, (t.delete now consignmentId userId).2.rows[i]? ≠ t.rows[i]? →
        (t.delete now consignmentId userId).2.rows[j]? ≠ t.rows[j]? → i = j) ∧
    (∀ o e, (t.insert o).1 = .error e →
      (t.insert o).2.rows = t.rows ∧ (t.insert o).2.lastId = t.lastId) ∧
    ∀ now consignmentId userId e, (t.delete now consignmentId userId).1 = .error e →
      (t.delete now consignmentId userId).2 = t := by
  have hsound : t.Sound := (Sound.empty.leads hs).leads hst
  have hids := hsound.ids
  rw [hsound.lastId_eq] at hids
  refine ⟨hids, hsound.lastId_eq, hsound.consignments, hst.ages, ?_,
    fun _ _ => unchanged_of_insert_error, fun _ _ _ _ => unchanged_of_delete_error⟩
  intro now consignmentId userId
  constructor
  · intro n hn
    cases hdown : t.isDown with
    | true =>
      rw [delete_of_isDown hdown] at hn
      simp at hn
    | false =>
      rw [delete_of_isUp hdown] at hn
      obtain rfl := Except.ok.inj hn
      exact countP_isLiveFor_le hsound.consignments consignmentId userId
  · intro i j hi hj
    have hfirst := consignmentId_of_changed hi
    have hsecond := consignmentId_of_changed hj
    have hbound : i < (t.rows.map Order.consignmentId).length :=
      (List.getElem?_eq_some_iff.mp hfirst).1
    exact (List.getElem?_inj hbound hsound.consignments).mp (hfirst.trans hsecond.symm)

def standingParcel : OrderStore :=
  ((({} : OrderStore).insert (.ofDraft {} 1 7 "CN1" ⟨20, 0⟩)).2.delete ⟨30, 0⟩ "CN1" 8).2

def cancelledParcel : OrderStore := (standingParcel.delete ⟨40, 0⟩ "CN1" 7).2

/-- The parcel stays where it is, and its consignment id stays taken. -/
theorem cancelled_parcel_keeps_its_place :
    Leads {} standingParcel ∧ standingParcel.Leads cancelledParcel ∧
    cancelledParcel.rows.map Order.id = [1] ∧ standingParcel.Ages cancelledParcel ∧
    (cancelledParcel.insert (.ofDraft {} 1 8 "CN1" ⟨50, 0⟩)).2.rows = cancelledParcel.rows := by
  have hstanding : Leads {} standingParcel := .delete _ _ _ (.insert _ .refl)
  have hcancelled : standingParcel.Leads cancelledParcel := .delete _ _ _ .refl
  have htaken : (cancelledParcel.insert (.ofDraft {} 1 8 "CN1" ⟨50, 0⟩)).1 =
      .error (collision "CN1") := rfl
  obtain ⟨hids, -, -, hages, -, hrefused, -⟩ := rows_keep_their_places hstanding hcancelled
  exact ⟨hstanding, hcancelled, hids, hages, (hrefused _ _ htaken).1⟩

end OrderStore

end ParcelDesk

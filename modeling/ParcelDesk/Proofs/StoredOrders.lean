import ParcelDesk.Proofs.Conversations
import ParcelDesk.Proofs.Drafts
import ParcelDesk.Proofs.Labels
import ParcelDesk.Proofs.StoredValues

/-!
Orders that a database keeps. An insertion binds one value for each of its columns, and a row that
holds those values under those columns, with an id and without a time of deletion, is read as the
order that was answered when it was inserted.
-/

namespace ParcelDesk

theorem OrderStatus.ofLabel?_label (s : OrderStatus) : ofLabel? s.label = some s := by
  cases s <;> rfl

theorem DeliveryType.isWord_code (t : DeliveryType) : Database.IsWord 8 t.code := by
  cases t <;> decide

theorem ItemType.isWord_code (t : ItemType) : Database.IsWord 8 t.code := by
  cases t <;> decide

theorem DeliveryType.ofCode?_code (t : DeliveryType) : ofCode? t.code = some t :=
  (ofCode?_eq_some_iff _ _).mpr rfl

theorem ItemType.ofCode?_code (t : ItemType) : ofCode? t.code = some t :=
  (ofCode?_eq_some_iff _ _).mpr rfl

namespace Database

/-- The numbers of an order fit its columns, and its times are in whole microseconds. -/
structure Storable (o : Order) : Prop where
  id : IsWord 64 o.id
  storeId : IsWord 64 o.shipment.storeId
  city : IsWord 64 o.shipment.recipient.city
  zone : IsWord 64 o.shipment.recipient.zone
  area : IsWord 64 o.shipment.recipient.area
  quantity : IsWord 32 o.shipment.quantity
  userId : IsWord 64 o.userId
  createdAt : o.createdAt.IsStamp
  updatedAt : o.updatedAt.IsStamp
  deletedAt : ∀ a ∈ o.deletedAt, a.IsStamp

namespace OrderTable

def values (o : Order) : List Param :=
  .int o.id :: insertParams o ++ [o.deletedAt.elim .null .time]

def Stores (row : Row) (o : Order) : Prop := List.Forall₂ row.Keeps columns (values o)

/-- A row that holds the values of an order is read as that order. -/
theorem ofRow_of_stores {row : Row} {o : Order} (h : Stores row o) (ho : Storable o) :
    ofRow row = .ok o := by
  simp only [Stores, columns, insertColumns, values, insertParams, List.cons_append,
    List.nil_append, List.forall₂_cons] at h
  obtain ⟨hid, hstoreId, hmerchantOrderId, hname, hphone, haddress, hcity, hzone, harea,
    hdeliveryType, hitemType, hinstruction, hdescription, hquantity, hweight, hamount,
    hconsignmentId, hcod, hdelivery, htotal, hpromoDiscount, hdiscount, hstatus, harchived, huserId,
    hcreatedAt, hupdatedAt, hdeletedAt, -⟩ := h
  -- Every column has the type of what is bound to it.
  replace hid := hid.field (Reading.takes_int64 rfl ho.id)
  replace hstoreId := hstoreId.field (Reading.takes_int64 rfl ho.storeId)
  replace hmerchantOrderId := hmerchantOrderId.field (Reading.takes_optional_text _ rfl)
  replace hname := hname.field (Reading.takes_text _ rfl)
  replace hphone := hphone.field (Reading.takes_text _ rfl)
  replace haddress := haddress.field (Reading.takes_text _ rfl)
  replace hcity := hcity.field (Reading.takes_int64 rfl ho.city)
  replace hzone := hzone.field (Reading.takes_int64 rfl ho.zone)
  replace harea := harea.field (Reading.takes_int64 rfl ho.area)
  replace hdeliveryType := hdeliveryType.field (Reading.takes_int8 rfl o.deliveryType.isWord_code)
  replace hitemType := hitemType.field (Reading.takes_int8 rfl o.itemType.isWord_code)
  replace hinstruction := hinstruction.field (Reading.takes_optional_text _ rfl)
  replace hdescription := hdescription.field (Reading.takes_optional_text _ rfl)
  replace hquantity := hquantity.field (Reading.takes_int32 rfl ho.quantity)
  replace hweight := hweight.field (Reading.takes_real _ rfl)
  replace hamount := hamount.field (Reading.takes_real _ rfl)
  replace hconsignmentId := hconsignmentId.field (Reading.takes_text _ rfl)
  replace hcod := hcod.field (Reading.takes_real _ rfl)
  replace hdelivery := hdelivery.field (Reading.takes_real _ rfl)
  replace htotal := htotal.field (Reading.takes_real _ rfl)
  replace hpromoDiscount := hpromoDiscount.field (Reading.takes_real _ rfl)
  replace hdiscount := hdiscount.field (Reading.takes_real _ rfl)
  replace hstatus := hstatus.field (Reading.takes_text _ rfl)
  replace harchived := harchived.field (Reading.takes_bool _ rfl)
  replace huserId := huserId.field (Reading.takes_int64 rfl ho.userId)
  replace hcreatedAt := hcreatedAt.field (Reading.takes_time rfl ho.createdAt)
  replace hupdatedAt := hupdatedAt.field (Reading.takes_time rfl ho.updatedAt)
  replace hdeletedAt := hdeletedAt.field (Reading.takes_optional_time rfl ho.deletedAt)
  have hdeliveryCode :
      (DeliveryType.ofCode? o.deliveryType.code).getD .unknown = o.deliveryType := by
    rw [DeliveryType.ofCode?_code, Option.getD_some]
  have hitemCode : (ItemType.ofCode? o.itemType.code).getD .unknown = o.itemType := by
    rw [ItemType.ofCode?_code, Option.getD_some]
  have hlabel : (OrderStatus.ofLabel? o.status.label).getD .pending = o.status := by
    rw [OrderStatus.ofLabel?_label, Option.getD_some]
  simp only [ofRow, hid, hstoreId, hmerchantOrderId, hname, hphone, haddress, hcity, hzone, harea,
    hdeliveryType, hitemType, hinstruction, hdescription, hquantity, hweight, hamount,
    hconsignmentId, hcod, hdelivery, htotal, hpromoDiscount, hdiscount, hstatus, harchived,
    huserId, hcreatedAt, hupdatedAt, hdeletedAt, bind, Except.bind, hdeliveryCode, hitemCode,
    hlabel]
  rfl

def rowOf (o : Order) : Row := .ofCells columns ((values o).map .ofParam)

theorem nodup_columns : columns.Nodup := by decide +kernel

theorem stores_rowOf {o : Order} (h : ∀ a, .time a ∈ values o → 0 ≤ a.date.year) :
    Stores (rowOf o) o := by
  have hlength : columns.length = ((values o).map Cell.ofParam).length := by
    rw [List.length_map]
    rfl
  refine Row.keeps_ofCells nodup_columns hlength ?_
  rw [List.forall₂_map_left_iff, List.forall₂_same]
  exact fun p hp => Cell.keeps_ofParam fun a ha => h a (ha ▸ hp)

def oddParcel : Order where
  id := 0
  shipment :=
    { storeId := 7
      merchantOrderId := some "MO-1"
      recipient := ⟨"Rahim", "01712345678", "Banani, Dhaka", 1, 2, 3⟩
      itemDescription := some ""
      quantity := 2
      weight := 0.5
      amount := 1200 }
  deliveryType := .unknown
  itemType := .other
  consignmentId := "DA240101ABCDEF"
  fees := ⟨60, 12, 72⟩
  promoDiscount := 5
  discount := 1.25
  status := .completed
  archived := true
  userId := 3
  createdAt := ⟨1483228700, 120000⟩
  updatedAt := ⟨1483228799, 1500000000⟩
  deletedAt := none

theorem storable_oddParcel : Storable oddParcel where
  id := by decide
  storeId := by decide
  city := by decide
  zone := by decide
  area := by decide
  quantity := by decide
  userId := by decide
  createdAt := ⟨by decide, by decide⟩
  updatedAt := ⟨by decide, by decide⟩
  deletedAt := by rintro a ⟨⟩

theorem stores_oddParcel (id userId : Int) :
    Stores (rowOf { oddParcel with id, userId }) { oddParcel with id, userId } := by
  refine stores_rowOf fun a ha => ?_
  have hstamp : a = oddParcel.createdAt ∨ a = oddParcel.updatedAt := by
    simpa [values, insertParams, Param.ofText?, Param.bool, oddParcel] using ha
  rcases hstamp with rfl | rfl <;> decide

end OrderTable

end Database

end ParcelDesk

import ParcelDesk.Order.Draft
import ParcelDesk.Proofs.GroupedComplaints

/-!
What a draft without complaints says. The codes that it names have kinds, so its kinds are the ones
that were named, and the usual ones only where no code was given.
-/

namespace ParcelDesk

theorem DeliveryType.ofCode?_eq_some_iff (n : Int) (t : DeliveryType) :
    ofCode? n = some t ↔ t.code = n := by
  cases t <;> grind [ofCode?, code]

theorem ItemType.ofCode?_eq_some_iff (n : Int) (t : ItemType) :
    ofCode? n = some t ↔ t.code = n := by
  cases t <;> grind [ofCode?, code]

namespace Draft

theorem complaint_eq_nil_iff (broken : Bool) (field message : String) :
    complaint broken field message = [] ↔ broken = false := by
  unfold complaint
  split
  · rename_i hbroken
    simp [hbroken]
  · rename_i hholds
    simp [hholds]

/-- A draft without complaints names no code without a kind. -/
theorem codes_of_validate {d : Draft} (h : d.validate = .ok ()) :
    (d.deliveryCode.any fun c => (DeliveryType.ofCode? c).isNone) = false ∧
      (d.itemCode.any fun c => (ItemType.ofCode? c).isNone) = false := by
  rw [validate, Complaints.verdict_eq_ok_iff, complaints, List.append_eq_nil_iff,
    List.append_eq_nil_iff, complaint_eq_nil_iff, complaint_eq_nil_iff] at h
  exact ⟨h.1.2, h.2⟩

/-- A kind that is named by a code has that code. -/
theorem code_getD {Kind : Type} {ofCode? : Int → Option Kind} {code : Kind → Int}
    (hread : ∀ n t, ofCode? n = some t ↔ code t = n) {named : Option Int}
    (hknown : (named.any fun c => (ofCode? c).isNone) = false) (usual : Kind) :
    code ((named.bind ofCode?).getD usual) = named.getD (code usual) := by
  cases named with
  | none => rfl
  | some c =>
    rw [Option.any_some, Option.isNone_eq_false_iff] at hknown
    obtain ⟨t, ht⟩ := Option.isSome_iff_exists.mp hknown
    rw [Option.bind_some, ht]
    exact (hread c t).mp ht

theorem code_deliveryTypeOf {d : Draft} (h : d.validate = .ok ()) :
    (Order.deliveryTypeOf d).code = d.deliveryCode.getD DeliveryType.delivery.code :=
  code_getD DeliveryType.ofCode?_eq_some_iff (codes_of_validate h).1 _

theorem code_itemTypeOf {d : Draft} (h : d.validate = .ok ()) :
    (Order.itemTypeOf d).code = d.itemCode.getD ItemType.parcel.code :=
  code_getD ItemType.ofCode?_eq_some_iff (codes_of_validate h).2 _

end Draft

end ParcelDesk

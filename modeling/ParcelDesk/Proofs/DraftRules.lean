import Mathlib.Tactic.ByContra
import ParcelDesk.Proofs.Drafts
import ParcelDesk.Proofs.GroupedComplaints

/-!
The rules for drafts, field by field. Every field with a broken rule is reported, with all that
there is to say about it, and no other field is. What is said about a field depends on that field
alone, so nothing that is wrong elsewhere hides it or adds to it.
-/

namespace ParcelDesk.Draft

inductive Field where
  | storeId
  | recipientName
  | recipientPhone
  | recipientAddress
  | amount
  | quantity
  | weight
  | deliveryType
  | itemType
deriving DecidableEq

def isBlank (s : String) : Bool := s.toList.all Text.isBlank

/-- A code was given that is none of the codes up to the last one. -/
def isOutside (last : Int) (code : Option Int) : Bool := code.any fun c => c < 0 || last < c

namespace Field

def all : List Field :=
  [storeId, recipientName, recipientPhone, recipientAddress, amount, quantity, weight,
    deliveryType, itemType]

def label : Field → String
  | storeId => "store_id"
  | recipientName => "recipient_name"
  | recipientPhone => "recipient_phone"
  | recipientAddress => "recipient_address"
  | amount => "amount_to_collect"
  | quantity => "item_quantity"
  | weight => "item_weight"
  | deliveryType => "delivery_type"
  | itemType => "item_type"

/-- The field breaks a rule. A figure that is not a number is not at most zero. -/
def isBroken (d : Draft) : Field → Bool
  | storeId => d.shipment.storeId ≤ 0
  | recipientName => isBlank d.shipment.recipient.name
  | recipientPhone =>
    isBlank d.shipment.recipient.phone || !Phone.isMobile d.shipment.recipient.phone
  | recipientAddress => isBlank d.shipment.recipient.address
  | amount => d.shipment.amount ≤ 0
  | quantity => d.shipment.quantity ≤ 0
  | weight => d.shipment.weight ≤ 0
  | deliveryType => isOutside 2 d.deliveryCode
  | itemType => isOutside 3 d.itemCode

/-- What is said about a field that breaks a rule. A phone number that is missing is not called
invalid. -/
def messages (d : Draft) : Field → List String
  | storeId => ["The store field is required.", "Wrong Store selected."]
  | recipientName => ["The recipient name field is required."]
  | recipientPhone =>
    if isBlank d.shipment.recipient.phone then ["The recipient phone field is required."]
    else ["The recipient phone must be a valid mobile number."]
  | recipientAddress => ["The recipient address field is required."]
  | amount => ["The amount to collect field is required."]
  | quantity => ["The item quantity field is required."]
  | weight => ["The item weight field is required."]
  | deliveryType => ["The selected delivery type is invalid."]
  | itemType => ["The selected item type is invalid."]

def Agrees (a b : Draft) : Field → Prop
  | storeId => a.shipment.storeId = b.shipment.storeId
  | recipientName => a.shipment.recipient.name = b.shipment.recipient.name
  | recipientPhone => a.shipment.recipient.phone = b.shipment.recipient.phone
  | recipientAddress => a.shipment.recipient.address = b.shipment.recipient.address
  | amount => a.shipment.amount = b.shipment.amount
  | quantity => a.shipment.quantity = b.shipment.quantity
  | weight => a.shipment.weight = b.shipment.weight
  | deliveryType => a.deliveryCode = b.deliveryCode
  | itemType => a.itemCode = b.itemCode

theorem mem_all (f : Field) : f ∈ all := by
  cases f <;> decide

theorem nodup_labels : (all.map label).Nodup := by
  decide

theorem label_injective {f g : Field} (h : f.label = g.label) : f = g :=
  List.inj_on_of_nodup_map nodup_labels f.mem_all g.mem_all h

theorem isBroken_of_agrees {a b : Draft} {f : Field} (h : f.Agrees a b) :
    f.isBroken a = f.isBroken b := by
  cases f <;> simp only [Agrees] at h <;> simp only [isBroken, h]

theorem messages_of_agrees {a b : Draft} {f : Field} (h : f.Agrees a b) :
    f.messages a = f.messages b := by
  cases f with
  | recipientPhone =>
    simp only [Agrees] at h
    simp only [messages, h]
  | _ => rfl

theorem messages_ne_nil (d : Draft) (f : Field) : f.messages d ≠ [] := by
  cases f with
  | recipientPhone =>
    simp only [messages]
    split
    · simp
    · simp
  | _ => exact List.cons_ne_nil _ _

def complaints (d : Draft) (f : Field) : Complaints :=
  if f.isBroken d then (f.messages d).map fun message => (f.label, message) else []

theorem complaint_eq_complaints {d : Draft} {f : Field} {message : String}
    (h : f.messages d = [message]) :
    complaint (f.isBroken d) f.label message = f.complaints d := by
  unfold complaint complaints
  rw [h]
  rfl

theorem fst_of_mem_complaints {d : Draft} {f : Field} {m : String × String}
    (h : m ∈ f.complaints d) : m.1 = f.label := by
  unfold complaints at h
  split at h
  · rcases List.mem_map.mp h with ⟨message, -, rfl⟩
    rfl
  · cases h

end Field

theorem not_notBlank (s : String) : (!Text.notBlank s) = isBlank s := by
  rw [Text.notBlank, isBlank, List.not_any_eq_all_not]
  simp

theorem isNone_deliveryType (n : Int) : (DeliveryType.ofCode? n).isNone = (n < 0 || 2 < n) := by
  unfold DeliveryType.ofCode?
  grind

theorem isNone_itemType (n : Int) : (ItemType.ofCode? n).isNone = (n < 0 || 3 < n) := by
  unfold ItemType.ofCode?
  grind

theorem storeComplaints_eq (d : Draft) :
    storeComplaints d.shipment = Field.complaints d .storeId := by
  unfold storeComplaints Field.complaints
  by_cases h : d.shipment.storeId ≤ 0
  · simp [Field.isBroken, Field.messages, Field.label, h]
  · simp [Field.isBroken, h]

theorem phoneComplaints_eq (d : Draft) :
    phoneComplaints d.shipment.recipient.phone = Field.complaints d .recipientPhone := by
  unfold phoneComplaints Field.complaints complaint
  rw [not_notBlank]
  by_cases hblank : isBlank d.shipment.recipient.phone = true
  · simp [Field.isBroken, Field.messages, Field.label, hblank]
  · simp [Field.isBroken, Field.messages, Field.label, hblank]

/-- The complaints about a draft are those about its fields, one field after another. -/
theorem complaints_eq_flatMap (d : Draft) :
    d.complaints = Field.all.flatMap fun f => f.complaints d := by
  have hname := Field.complaint_eq_complaints (d := d) (f := .recipientName) rfl
  have haddress := Field.complaint_eq_complaints (d := d) (f := .recipientAddress) rfl
  have hamount := Field.complaint_eq_complaints (d := d) (f := .amount) rfl
  have hquantity := Field.complaint_eq_complaints (d := d) (f := .quantity) rfl
  have hweight := Field.complaint_eq_complaints (d := d) (f := .weight) rfl
  have hdelivery := Field.complaint_eq_complaints (d := d) (f := .deliveryType) rfl
  have hitem := Field.complaint_eq_complaints (d := d) (f := .itemType) rfl
  simp only [Field.all, List.flatMap_cons, List.flatMap_nil, List.append_nil, ← hname, ← haddress,
    ← hamount, ← hquantity, ← hweight, ← hdelivery, ← hitem, ← storeComplaints_eq,
    ← phoneComplaints_eq]
  simp only [complaints, not_notBlank, isNone_deliveryType, isNone_itemType, List.append_assoc]
  rfl

theorem mem_fields_complaints_iff (d : Draft) (name : String) :
    name ∈ d.complaints.fields ↔ ∃ f : Field, f.isBroken d = true ∧ name = f.label := by
  rw [Complaints.mem_fields_iff, complaints_eq_flatMap]
  simp only [List.mem_flatMap]
  constructor
  · intro h
    rcases h with ⟨message, f, -, hmem⟩
    refine ⟨f, ?_, Field.fst_of_mem_complaints hmem⟩
    by_contra hfine
    rw [Field.complaints, if_neg hfine] at hmem
    cases hmem
  · intro h
    rcases h with ⟨f, hbroken, rfl⟩
    rcases List.exists_mem_of_ne_nil _ (f.messages_ne_nil d) with ⟨message, hmessage⟩
    refine ⟨message, f, f.mem_all, ?_⟩
    rw [Field.complaints, if_pos hbroken]
    exact List.mem_map_of_mem hmessage

/-- Only a field itself has complaints under its label. -/
theorem filter_complaints (d : Draft) (f g : Field) :
    ((g.complaints d).filter fun m => m.1 == f.label) = if g = f then f.complaints d else [] := by
  by_cases hsame : g = f
  · rw [if_pos hsame, hsame]
    apply List.filter_eq_self.mpr
    intro m hm
    rw [Field.fst_of_mem_complaints hm, beq_self_eq_true]
  · rw [if_neg hsame]
    apply List.filter_eq_nil_iff.mpr
    intro m hm hlabel
    rw [Field.fst_of_mem_complaints hm, beq_iff_eq] at hlabel
    exact hsame (Field.label_injective hlabel)

/-- The messages under the label of a broken field are the field's own, in their order. -/
theorem messages_complaints {d : Draft} {f : Field} (h : f.isBroken d = true) :
    d.complaints.messages f.label = f.messages d := by
  have hown : (Field.all.flatMap fun g => if g = f then f.complaints d else []) =
      f.complaints d := by
    cases f <;> simp [Field.all]
  rw [Complaints.messages, complaints_eq_flatMap, List.filter_flatMap]
  simp only [filter_complaints]
  rw [hown, Field.complaints, if_pos h, List.map_map]
  exact List.map_id _

theorem complaints_eq_nil_iff (d : Draft) :
    d.complaints = [] ↔ ∀ f : Field, f.isBroken d = false := by
  rw [List.eq_nil_iff_forall_not_mem]
  constructor
  · intro h f
    rw [← Bool.not_eq_true]
    intro hbroken
    have hlabel := (mem_fields_complaints_iff d f.label).mpr ⟨f, hbroken, rfl⟩
    rcases (Complaints.mem_fields_iff _ _).mp hlabel with ⟨message, hmem⟩
    exact h _ hmem
  · intro h m hm
    have hlabel := (Complaints.mem_fields_iff _ _).mpr ⟨m.2, hm⟩
    rcases (mem_fields_complaints_iff d m.1).mp hlabel with ⟨f, hbroken, -⟩
    rw [h f] at hbroken
    cases hbroken

theorem validate_eq_ok_iff (d : Draft) :
    d.validate = .ok () ↔ ∀ f : Field, f.isBroken d = false := by
  rw [validate, Complaints.verdict_eq_ok_iff, complaints_eq_nil_iff]

theorem eq_grouped_of_validate {d : Draft} {e : FieldErrors} (h : d.validate = .error e) :
    e = d.complaints.grouped :=
  ((Complaints.verdict_eq_error_iff _ _).mp h).2

def errors (d : Draft) : FieldErrors :=
  match d.validate with
  | .ok _ => []
  | .error e => e

theorem errors_eq_grouped (d : Draft) : d.errors = d.complaints.grouped := by
  unfold errors
  cases h : d.validate with
  | ok _ =>
    rw [validate, Complaints.verdict_eq_ok_iff] at h
    rw [h]
    rfl
  | error e => exact eq_grouped_of_validate h

/-- The entry of a field depends on no other field. -/
theorem lookup_errors (d : Draft) (f : Field) :
    d.errors.lookup f.label = if f.isBroken d then some (f.messages d) else none := by
  rw [errors_eq_grouped]
  by_cases hbroken : f.isBroken d = true
  · have hmem := (mem_fields_complaints_iff d f.label).mpr ⟨f, hbroken, rfl⟩
    rw [if_pos hbroken, Complaints.lookup_grouped_of_mem hmem, messages_complaints hbroken]
  · rw [if_neg hbroken]
    apply Complaints.lookup_grouped_of_notMem
    intro hmem
    rcases (mem_fields_complaints_iff d f.label).mp hmem with ⟨g, hg, hlabel⟩
    rw [Field.label_injective hlabel] at hbroken
    exact hbroken hg

/-- A draft is valid if no field breaks a rule. Any other is refused, and the refusal names each
field with a broken rule once, with all that is to be said about it, and names nothing else. Drafts
that say the same in a field are told the same about it. -/
theorem drafts_are_checked_field_by_field (d : Draft) :
    (d.validate = .ok () ↔ ∀ f : Field, f.isBroken d = false) ∧
    (∀ e, d.validate = .error e → (e.map Prod.fst).Nodup ∧
      ∀ name messages, (name, messages) ∈ e ↔
        ∃ f : Field, f.isBroken d = true ∧ name = f.label ∧ messages = f.messages d) ∧
    ∀ (other : Draft) (f : Field), f.Agrees d other →
      d.errors.lookup f.label = other.errors.lookup f.label := by
  refine ⟨validate_eq_ok_iff d, ?_, ?_⟩
  · intro e h
    rw [eq_grouped_of_validate h]
    refine ⟨Complaints.nodup_keys_grouped _, ?_⟩
    intro name messages
    rw [Complaints.mem_grouped_iff, mem_fields_complaints_iff]
    constructor
    · intro hentry
      rcases hentry with ⟨⟨f, hbroken, rfl⟩, rfl⟩
      exact ⟨f, hbroken, rfl, messages_complaints hbroken⟩
    · intro hfield
      rcases hfield with ⟨f, hbroken, rfl, rfl⟩
      exact ⟨⟨f, hbroken, rfl⟩, (messages_complaints hbroken).symm⟩
  · intro other f hagrees
    rw [lookup_errors, lookup_errors, Field.isBroken_of_agrees hagrees,
      Field.messages_of_agrees hagrees]

def hastyDraft : Draft where
  shipment := { recipient := { phone := "0121234567" } }
  deliveryCode := some 9

/-- The hasty draft is told twice about its store and once about its phone, as the empty draft is
about its store, and nothing about the item type that it does not give. -/
theorem hasty_draft_is_refused : ∃ e, hastyDraft.validate = .error e ∧
    ("store_id", ["The store field is required.", "Wrong Store selected."]) ∈ e ∧
    ("recipient_phone", ["The recipient phone must be a valid mobile number."]) ∈ e ∧
    (∀ messages, ("item_type", messages) ∉ e) ∧
    hastyDraft.errors.lookup "store_id" = ({} : Draft).errors.lookup "store_id" := by
  rcases drafts_are_checked_field_by_field hastyDraft with ⟨hvalid, hrefused, halike⟩
  cases h : hastyDraft.validate with
  | ok _ =>
    have hstore : Field.storeId.isBroken hastyDraft = false := hvalid.mp h .storeId
    cases hstore
  | error e =>
    rcases hrefused e h with ⟨-, hentries⟩
    have hphone : Field.recipientPhone.isBroken hastyDraft = true := by decide
    refine ⟨e, rfl, ?_, ?_, ?_, halike {} .storeId rfl⟩
    · exact (hentries _ _).mpr ⟨.storeId, rfl, rfl, rfl⟩
    · exact (hentries _ _).mpr ⟨.recipientPhone, hphone, rfl, by decide⟩
    · intro messages hmem
      rcases (hentries _ _).mp hmem with ⟨f, hbroken, hlabel, -⟩
      have hitem : f = .itemType := Field.label_injective hlabel.symm
      rw [hitem] at hbroken
      cases hbroken

end ParcelDesk.Draft

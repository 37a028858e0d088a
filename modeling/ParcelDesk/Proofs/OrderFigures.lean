import ParcelDesk.Proofs.Drafts
import ParcelDesk.Proofs.OrderTerms

/-!
The figures of stored orders. A draft is refused over a store, a quantity, a weight or an amount
that is zero or less. On doubles this is not the same as being positive: one that is not a number
compares with nothing, so it is let through. It is the only figure that should not be in the rows
and can be.
-/

namespace ParcelDesk

open Float.Model (UnpackedFloat)

/-- Among the doubles that are not at most zero, one is not positive either. -/
theorem not_le_zero_iff (x : Float) : ¬ x ≤ 0 ↔ 0 < x ∨ x.isNaN = true := by
  have hzero : (0 : Float).toModel.unpack = .zero .positive := rfl
  have hle : x ≤ 0 ↔ x.toModel.unpack.le (.zero .positive) = true := by
    change decide (x.toModel.unpack.le (0 : Float).toModel.unpack = true) = true ↔ _
    rw [hzero, decide_eq_true_iff]
  have hlt : 0 < x ↔ (UnpackedFloat.zero .positive).lt x.toModel.unpack = true := by
    change decide ((0 : Float).toModel.unpack.lt x.toModel.unpack = true) = true ↔ _
    rw [hzero, decide_eq_true_iff]
  have hnan : x.isNaN = x.toModel.unpack.isNaN := rfl
  rw [hle, hlt, hnan]
  cases x.toModel.unpack with
  | notANumber => decide
  | zero sign => cases sign <;> decide
  | infinity sign => cases sign <;> decide
  | finite sign mantissa exponent hpos =>
    cases sign with
    | positive =>
      change ¬ false = true ↔ true = true ∨ false = true
      decide
    | negative =>
      change ¬ true = true ↔ false = true ∨ false = true
      decide

/-- The figures of a shipment are positive, or are none. -/
structure Shipment.Measured (s : Shipment) : Prop where
  storeId : 0 < s.storeId
  quantity : 0 < s.quantity
  weight : 0 < s.weight ∨ s.weight.isNaN = true
  amount : 0 < s.amount ∨ s.amount.isNaN = true

namespace Draft

def figureNames : List String := ["store_id", "item_quantity", "item_weight", "amount_to_collect"]

theorem mem_complaint_iff {broken : Bool} {field message : String} {m : String × String} :
    m ∈ complaint broken field message ↔ broken = true ∧ m = (field, message) := by
  unfold complaint
  cases broken <;> simp

theorem fst_of_mem_phoneComplaints {phone : String} {m : String × String}
    (h : m ∈ phoneComplaints phone) : m.1 = "recipient_phone" := by
  unfold phoneComplaints at h
  split at h
  · rw [List.mem_singleton.mp h]
  · rw [(mem_complaint_iff.mp h).2]

/-- Nobody complains about the figures of exactly those drafts whose figures are positive or
none. -/
theorem measured_iff (d : Draft) :
    d.shipment.Measured ↔ ∀ m ∈ d.complaints, m.1 ∉ figureNames := by
  constructor
  · intro hmeasured m hm
    have hstore : storeComplaints d.shipment = [] := by
      unfold storeComplaints
      rw [if_neg (Int.not_le.mpr hmeasured.storeId)]
    have hquantity : ¬ d.shipment.quantity ≤ 0 := Int.not_le.mpr hmeasured.quantity
    have hweight := (not_le_zero_iff _).mpr hmeasured.weight
    have hamount := (not_le_zero_iff _).mpr hmeasured.amount
    simp only [complaints, hstore, List.nil_append, List.mem_append, mem_complaint_iff,
      decide_eq_true_eq, hquantity, hweight, hamount, false_and, or_false] at hm
    obtain (((⟨-, rfl⟩ | hphone) | ⟨-, rfl⟩) | ⟨-, rfl⟩) | ⟨-, rfl⟩ := hm
    · simp [figureNames]
    · rw [fst_of_mem_phoneComplaints hphone]
      simp [figureNames]
    · simp [figureNames]
    · simp [figureNames]
    · simp [figureNames]
  · intro hquiet
    have hstore : ¬ d.shipment.storeId ≤ 0 := fun hbroken =>
      hquiet ("store_id", "The store field is required.")
        (by simp [complaints, storeComplaints, hbroken]) (by simp [figureNames])
    have hquantity : ¬ d.shipment.quantity ≤ 0 := fun hbroken =>
      hquiet ("item_quantity", "The item quantity field is required.")
        (by simp [complaints, mem_complaint_iff, hbroken]) (by simp [figureNames])
    have hweight : ¬ d.shipment.weight ≤ 0 := fun hbroken =>
      hquiet ("item_weight", "The item weight field is required.")
        (by simp [complaints, mem_complaint_iff, hbroken]) (by simp [figureNames])
    have hamount : ¬ d.shipment.amount ≤ 0 := fun hbroken =>
      hquiet ("amount_to_collect", "The amount to collect field is required.")
        (by simp [complaints, mem_complaint_iff, hbroken]) (by simp [figureNames])
    exact ⟨Int.not_le.mp hstore, Int.not_le.mp hquantity, (not_le_zero_iff _).mp hweight,
      (not_le_zero_iff _).mp hamount⟩

theorem measured_of_validate {d : Draft} (h : d.validate = .ok ()) : d.shipment.Measured := by
  rw [validate, Complaints.verdict_eq_ok_iff] at h
  rw [measured_iff, h]
  exact fun m hm => absurd hm List.not_mem_nil

/-- A draft with a complaint about a figure is refused, with all complaints. -/
theorem validate_of_not_measured {d : Draft} (h : ¬ d.shipment.Measured) :
    d.validate = .error d.complaints.grouped := by
  refine (Complaints.verdict_eq_error_iff _ _).mpr ⟨fun hempty => ?_, rfl⟩
  refine h ((measured_iff d).mpr ?_)
  rw [hempty]
  exact fun m hm => absurd hm List.not_mem_nil

end Draft

def OrderStore.Hold (P : Shipment → Prop) (s : OrderStore) : Prop := ∀ o ∈ s.rows, P o.shipment

section Hold

variable {P : Shipment → Prop}

theorem OrderStore.Hold.stays {s t : OrderStore} (h : s.Hold P) (hst : s.Stays t) : t.Hold P := by
  obtain ⟨hages, hlength⟩ := hst
  intro o ho
  obtain ⟨i, hi, rfl⟩ := List.getElem_of_mem ho
  have hbefore : i < s.rows.length := hlength ▸ hi
  obtain ⟨later, hlater, hrow⟩ := hages i _ (List.getElem?_eq_getElem hbefore)
  obtain rfl := Option.some.inj ((List.getElem?_eq_getElem hi).symm.trans hlater)
  rw [hrow.same]
  exact h s.rows[i] (List.getElem_mem hbefore)

namespace Desk

variable {w : World}

/-- What a draft must have to be valid, a row has when it is made. -/
theorem hold_createOrder (hvalid : ∀ d : Draft, d.validate = .ok () → P d.shipment)
    (h : w.orders.Hold P) (s : OrderSettings) (d : Draft) (userId : Int) :
    (w.after (createOrder s d userId)).orders.Hold P := by
  have htakes := takes_createOrder s d userId w
  unfold World.after
  generalize w.perform (createOrder s d userId) = r at htakes
  cases htakes with
  | refused e suffixes collisions => exact h
  | taken draw suffixes collisions hdrawn hgood hup hfree =>
    intro o ho
    obtain hold | hnew := List.mem_append.mp ho
    · exact h o hold
    · rw [List.mem_singleton.mp hnew, hdrawn]
      exact hvalid d hgood

end Desk

namespace Web

open Desk (World)

variable {w : World}

theorem hold_inside (hvalid : ∀ d : Draft, d.validate = .ok () → P d.shipment)
    (h : w.orders.Hold P) (s : Settings) (q : Request) (userId : Int) (place : Inside) :
    ((inside s q userId place).run World.serve w).2.orders.Hold P := by
  have hdoes := does_inside s q userId place w
  generalize (inside s q userId place).run World.serve w = result at hdoes ⊢
  cases hdoes with
  | aside hplain => exact h
  | logsOut hplain =>
    rw [Desk.orders_after_logout]
    exact h
  | cancels consignmentId hplain => exact h.stays (Desk.stays_cancelOrder consignmentId userId w)
  | orders d hread => exact Desk.hold_createOrder hvalid h s.orders d userId
  | lists r =>
    rw [Desk.after_listOrders]
    exact h

theorem hold_exchange (hvalid : ∀ d : Draft, d.validate = .ok () → P d.shipment)
    (h : w.orders.Hold P) (s : Settings) (q : Request) : (exchange s w q).2.orders.Hold P := by
  have hserves := serves_exchange s w q
  generalize exchange s w q = result at hserves
  cases hserves with
  | aside hplain => exact h
  | signsIn f hroute hplain =>
    rw [Desk.orders_after_login]
    exact h
  | @admitted place token c r v hroute hbears haccepted hinside =>
    obtain ⟨cache, hafter⟩ := Desk.cache_after_authenticate w (rules s) token
    rw [hafter] at hinside
    have hkept := hold_inside (w := { w with cache }) hvalid h s q c.userId place
    rw [hinside] at hkept
    exact hkept

theorem hold_occur (hvalid : ∀ d : Draft, d.validate = .ok () → P d.shipment)
    (h : w.orders.Hold P) (s : Settings) (x : Occurrence) : (occur s w x).orders.Hold P := by
  cases x with
  | request q => exact hold_exchange hvalid h s q
  | event e =>
    cases e with
    | createOrder d userId => exact Desk.hold_createOrder hvalid h s.orders d userId
    | cancelOrder consignmentId userId =>
      exact h.stays (Desk.stays_cancelOrder consignmentId userId w)
    | login single f =>
      rw [occur, Desk.Setup.step, Desk.orders_after_login]
      exact h
    | logout userId =>
      rw [occur, Desk.Setup.step, Desk.orders_after_logout]
      exact h
    | authenticate token =>
      rw [occur, Desk.Setup.step, Desk.orders_after_authenticate]
      exact h
    | listOrders userId r =>
      rw [occur, Desk.Setup.step, Desk.after_listOrders]
      exact h
    | _ => exact h

/-- Whatever validation demands of drafts, every row of a history has. -/
theorem hold_history (hvalid : ∀ d : Draft, d.validate = .ok () → P d.shipment)
    (h : w.orders.Hold P) (s : Settings) (xs : List Occurrence) :
    (history s w xs).orders.Hold P := by
  induction xs generalizing w with
  | nil => exact h
  | cons x xs ih => exact ih (hold_occur hvalid h s x)

/-- From a store without orders on, whatever happens over the counter and over the web, every row
has a store and a quantity above zero, and a weight and an amount that are above zero or not numbers.
Any draft without such figures is refused with all complaints about it and without a trace, and
drafts with such figures, also with those that are not numbers, get no complaint about them. -/
theorem rows_are_measured (s : Settings) (hnew : w.orders.rows = []) :
    (∀ xs : List Occurrence, ∀ o ∈ (history s w xs).orders.rows, o.shipment.Measured) ∧
    (∀ (d : Draft) (userId : Int) (v : World), ¬ d.shipment.Measured →
      v.perform (Desk.createOrder s.orders d userId) =
        (.error (.invalid d.complaints.grouped), v)) ∧
    ∀ d : Draft, d.shipment.Measured ↔ ∀ m ∈ d.complaints, m.1 ∉ Draft.figureNames := by
  refine ⟨fun xs => ?_, fun d userId v hunmeasured => ?_, Draft.measured_iff⟩
  · refine hold_history (fun d => Draft.measured_of_validate) ?_ s xs
    intro o ho
    rw [hnew] at ho
    exact absurd ho List.not_mem_nil
  · unfold Desk.createOrder
    rw [Draft.validate_of_not_measured hunmeasured]
    rfl

def unweighedCrate : Draft := { crate with shipment := { crate.shipment with weight := 0 / 0 } }

/-- The weight of a row need not be a number. -/
theorem unweighed_crate_is_kept :
    (Desk.karimsSession {}).orders.rows = [] ∧
    (∃ o, (history {} (Desk.karimsSession {})
        [.event (.createOrder unweighedCrate Desk.karim.id)]).orders.rows = [o] ∧
      o.shipment.Measured ∧ ¬ 0 < o.shipment.weight ∧ o.shipment.weight.isNaN = true) ∧
    ¬ ({} : Shipment).Measured ∧
    (Desk.karimsSession {}).after (Desk.createOrder {} {} Desk.karim.id) =
      Desk.karimsSession {} := by
  have hnew : (Desk.karimsSession {}).orders.rows = [] := rfl
  obtain ⟨hrows, hrefused, -⟩ := rows_are_measured {} hnew
  have hempty : ¬ ({} : Shipment).Measured := fun h => absurd h.storeId (by decide)
  have hanswer : ∃ receipt, (Desk.karimsSession {}).answer
      (Desk.createOrder {} unweighedCrate Desk.karim.id) = .ok receipt := ⟨_, rfl⟩
  obtain ⟨receipt, hreceipt⟩ := hanswer
  obtain ⟨f, herror, -⟩ | ⟨draw, -, hkept⟩ :=
    Desk.rows_createOrder {} unweighedCrate Desk.karim.id (Desk.karimsSession {})
  · rw [hreceipt] at herror
    cases herror
  · rw [hnew, List.nil_append] at hkept
    have hrow : (history {} (Desk.karimsSession {})
        [.event (.createOrder unweighedCrate Desk.karim.id)]).orders.rows =
          [(Desk.karimsSession {}).rowFor {} unweighedCrate Desk.karim.id draw] := hkept
    have hmeasured := hrows _ _ (by rw [hrow]; exact List.mem_singleton_self _)
    have hweight : ¬ (0 : Float) < 0 / 0 ∧ (0 / 0 : Float).isNaN = true := by decide
    refine ⟨hnew, ⟨_, hrow, hmeasured, hweight⟩, hempty, ?_⟩
    rw [World.after, hrefused {} Desk.karim.id _ hempty]

end Web

end Hold

end ParcelDesk

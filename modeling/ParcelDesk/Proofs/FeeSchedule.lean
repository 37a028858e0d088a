import Mathlib.Data.Rat.Floor
import Mathlib.Order.Interval.Set.Defs
import Mathlib.Tactic.Linarith
import Mathlib.Tactic.NormNum
import ParcelDesk.Fee

/-!
The fee schedule on exact numbers. The surcharge over the base fee is nothing up to half a kilogram,
and then depends on the kilograms begun alone. So it never falls as the weight grows, and every
kilogram begun after the first costs the same; and the home city lowers each fee by the same amount.
-/

namespace ParcelDesk

/-- Exact numbers. -/
instance : Quantity ℚ where
  ofNat n := n
  atMost a b := decide (a ≤ b)
  ceil a := ⌈a⌉

namespace Fee

def surcharge (weight : ℚ) : ℚ := if weight ≤ 1 / 2 then 0 else 10 + 15 * (⌈weight⌉ - 1)

theorem ceil_of_started {n : ℕ} {weight : ℚ} (h : weight ∈ Set.Ioc (n : ℚ) (n + 1)) :
    ⌈weight⌉ = n + 1 := by
  rw [Int.ceil_eq_iff]
  push_cast
  constructor
  · linarith [h.1]
  · exact h.2

theorem surcharge_of_light {weight : ℚ} (h : weight ≤ 1 / 2) : surcharge weight = 0 := if_pos h

theorem surcharge_of_heavier {weight : ℚ} (h : 1 / 2 < weight) :
    surcharge weight = 10 + 15 * (⌈weight⌉ - 1) := if_neg (not_le.mpr h)

/-- The rest of the first kilogram is one kilogram begun. -/
theorem surcharge_of_middling {weight : ℚ} (h : 1 / 2 < weight) (hone : weight ≤ 1) :
    surcharge weight = 10 := by
  have hceil : ⌈weight⌉ = 1 := by
    rw [Int.ceil_eq_iff]
    norm_num
    exact ⟨by linarith, hone⟩
  rw [surcharge_of_heavier h, hceil]
  norm_num

theorem surcharge_of_started {n : ℕ} (hn : 1 ≤ n) {weight : ℚ}
    (h : weight ∈ Set.Ioc (n : ℚ) (n + 1)) : surcharge weight = 10 + 15 * n := by
  have hfirst : (1 : ℚ) ≤ n := by exact_mod_cast hn
  have hheavier : 1 / 2 < weight := by linarith [h.1]
  rw [surcharge_of_heavier hheavier, ceil_of_started h]
  push_cast
  ring

theorem surcharge_mono : Monotone surcharge := by
  intro v w hvw
  by_cases hv : v ≤ 1 / 2
  · rw [surcharge_of_light hv]
    by_cases hw : w ≤ 1 / 2
    · rw [surcharge_of_light hw]
    · have hbegun : (1 : ℤ) ≤ ⌈w⌉ := Int.one_le_ceil_iff.mpr (by linarith)
      have hcast : (1 : ℚ) ≤ ⌈w⌉ := by exact_mod_cast hbegun
      rw [surcharge_of_heavier (not_le.mp hw)]
      linarith
  · have hw : 1 / 2 < w := lt_of_lt_of_le (not_le.mp hv) hvw
    have hceil : ⌈v⌉ ≤ ⌈w⌉ := Int.ceil_mono hvw
    have hcast : (⌈v⌉ : ℚ) ≤ ⌈w⌉ := by exact_mod_cast hceil
    rw [surcharge_of_heavier (not_le.mp hv), surcharge_of_heavier hw]
    linarith

theorem base_eq (home : Bool) : (base home : ℚ) = if home then 60 else 100 := by
  cases home <;> rfl

theorem half_eq : (half : ℚ) = 1 / 2 := by
  show ((1 : ℕ) : ℚ) / ((2 : ℕ) : ℚ) = 1 / 2
  norm_num

theorem delivery_eq_if (home : Bool) (weight : ℚ) :
    delivery home weight =
      if weight ≤ 1 / 2 then (base home : ℚ)
      else if weight ≤ 1 then base home + 10
      else base home + 10 + 15 * (⌈weight⌉ - 1) := by
  have hatMost (a b : ℚ) : Quantity.atMost a b = true ↔ a ≤ b := decide_eq_true_iff
  have hone : (number 1 : ℚ) = 1 := Nat.cast_one
  have hten : (number 10 : ℚ) = 10 := rfl
  have hfifteen : (number 15 : ℚ) = 15 := rfl
  have hbegun : (Quantity.ceil (weight - 1) : ℚ) * 15 = 15 * (⌈weight⌉ - 1) := by
    show ((⌈weight - 1⌉ : ℤ) : ℚ) * 15 = _
    rw [Int.ceil_sub_one]
    push_cast
    ring
  simp only [delivery, hatMost, half_eq, hone, hten, hfifteen, hbegun]

/-- The delivery fee is the base fee with the surcharge. -/
theorem delivery_eq (home : Bool) (weight : ℚ) :
    delivery home weight = (base home : ℚ) + surcharge weight := by
  rw [delivery_eq_if]
  by_cases hlight : weight ≤ 1 / 2
  · rw [if_pos hlight, surcharge_of_light hlight, add_zero]
  · rw [if_neg hlight]
    by_cases hone : weight ≤ 1
    · rw [if_pos hone, surcharge_of_middling (not_le.mp hlight) hone]
    · rw [if_neg hone, surcharge_of_heavier (not_le.mp hlight), add_assoc]

theorem cod_eq (amount : ℚ) : cod amount = amount / 100 := by
  show amount * ((1 : ℕ) : ℚ) / ((100 : ℕ) : ℚ) = amount / 100
  norm_num

def quote (city homeCity : ℤ) (weight amount : ℚ) : Fees ℚ :=
  fees (decide (city = homeCity)) weight amount

section Quote

variable (city homeCity : ℤ) (weight amount : ℚ)

theorem delivery_quote :
    (quote city homeCity weight amount).delivery =
      (if city = homeCity then 60 else 100) + surcharge weight := by
  show delivery (decide (city = homeCity)) weight = _
  rw [delivery_eq, base_eq]
  simp only [decide_eq_true_eq]

theorem total_quote :
    (quote city homeCity weight amount).total =
      (quote city homeCity weight amount).delivery + amount / 100 := by
  show delivery _ weight + cod amount = delivery _ weight + amount / 100
  rw [cod_eq]

end Quote

/-- What a parcel costs, for all cities and all exact weights and amounts. Half a kilogram goes for
the base fee, the rest of the first one for ten more, and every further one begun for fifteen. The
fee never falls with the weight; after the first kilogram it is the same until the next one is begun
and then fifteen higher; and outside the home city it is forty higher for the same weight. One
hundredth of the amount comes on top, so the total falls neither with the weight nor with the
amount. -/
theorem fees_follow_the_schedule (city homeCity : ℤ) :
    (∀ weight amount, (quote city homeCity weight amount).delivery =
      let base : ℚ := if city = homeCity then 60 else 100
      if weight ≤ 1 / 2 then base
      else if weight ≤ 1 then base + 10
      else base + 10 + 15 * (⌈weight⌉ - 1)) ∧
    (∀ amount, Monotone fun weight => (quote city homeCity weight amount).delivery) ∧
    (∀ n : ℕ, 1 ≤ n → ∀ amount, ∀ v ∈ Set.Ioc (n : ℚ) (n + 1),
      (∀ w ∈ Set.Ioc (n : ℚ) (n + 1),
        (quote city homeCity w amount).delivery = (quote city homeCity v amount).delivery) ∧
      ∀ w ∈ Set.Ioc (n + 1 : ℚ) (n + 2),
        (quote city homeCity w amount).delivery = (quote city homeCity v amount).delivery + 15) ∧
    (city ≠ homeCity → ∀ weight amount, (quote city homeCity weight amount).delivery =
      (quote homeCity homeCity weight amount).delivery + 40) ∧
    (∀ weight amount, (quote city homeCity weight amount).cod = amount / 100 ∧
      (quote city homeCity weight amount).total =
        (quote city homeCity weight amount).delivery +
          (quote city homeCity weight amount).cod) ∧
    (∀ amount, Monotone fun weight => (quote city homeCity weight amount).total) ∧
    ∀ weight, Monotone fun amount => (quote city homeCity weight amount).total := by
  refine ⟨?schedule, ?rises, ?started, ?outside, ?total, ?totalByWeight, ?totalByAmount⟩
  case schedule =>
    intro weight amount
    show delivery (decide (city = homeCity)) weight = _
    rw [delivery_eq_if, base_eq]
    simp only [decide_eq_true_eq]
  case rises =>
    intro amount v w hvw
    simp only [delivery_quote]
    exact add_le_add_right (surcharge_mono hvw) _
  case started =>
    intro n hn amount v hv
    constructor
    · intro w hw
      rw [delivery_quote, delivery_quote, surcharge_of_started hn hv, surcharge_of_started hn hw]
    · intro w hw
      have hnext : w ∈ Set.Ioc ((n + 1 : ℕ) : ℚ) ((n + 1 : ℕ) + 1) := by
        push_cast
        exact ⟨hw.1, by linarith [hw.2]⟩
      rw [delivery_quote, delivery_quote, surcharge_of_started hn hv,
        surcharge_of_started (Nat.le_add_left 1 n) hnext]
      push_cast
      ring
  case outside =>
    intro hcity weight amount
    rw [delivery_quote, delivery_quote, if_neg hcity, if_pos rfl]
    ring
  case total =>
    intro weight amount
    exact ⟨cod_eq amount, rfl⟩
  case totalByWeight =>
    intro amount v w hvw
    simp only [total_quote, delivery_quote]
    linarith [surcharge_mono hvw]
  case totalByAmount =>
    intro weight a b hab
    simp only [total_quote, delivery_quote]
    linarith [hab]

/-- A crate of two and a half kilograms goes for 125 abroad, as one of three does. -/
theorem crate_is_charged_by_the_kilogram :
    (quote 2 1 (5 / 2) 1000).delivery = (quote 2 1 3 1000).delivery ∧
    (quote 2 1 (7 / 2) 1000).delivery = (quote 2 1 3 1000).delivery + 15 ∧
    (quote 2 1 3 1000).delivery = (quote 1 1 3 1000).delivery + 40 ∧
    (quote 2 1 3 1000).total ≤ (quote 2 1 4 1000).total := by
  obtain ⟨-, -, hstarted, houtside, -, htotal, -⟩ := fees_follow_the_schedule 2 1
  have hthree : (3 : ℚ) ∈ Set.Ioc ((2 : ℕ) : ℚ) ((2 : ℕ) + 1) := by
    constructor <;> norm_num
  obtain ⟨hsame, hmore⟩ := hstarted 2 (by norm_num) 1000 3 hthree
  refine ⟨hsame _ ?_, hmore _ ?_, houtside (by norm_num) 3 1000, htotal 1000 (by norm_num)⟩
  · constructor <;> norm_num
  · constructor <;> norm_num

end Fee

end ParcelDesk

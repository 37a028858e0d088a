/-!
Delivery and collection fees. The schedule is written once for every kind of number that can add,
multiply, compare and round up: doubles when the service runs, and exact numbers when it is
reasoned about.
-/

namespace ParcelDesk

/-- What the schedule asks of numbers. -/
class Quantity (α : Type) extends Add α, Sub α, Mul α, Div α where
  ofNat : Nat → α
  atMost : α → α → Bool
  ceil : α → α

instance : Quantity Float where
  ofNat := Float.ofNat
  atMost a b := a ≤ b
  ceil := Float.ceil

structure Fees (α : Type) where
  delivery : α
  cod : α
  total : α
deriving Repr

namespace Fee

variable {α : Type} [Quantity α]

def number (n : Nat) : α := Quantity.ofNat n

/-- The base fee is lower within the home city. -/
def base (home : Bool) : α := if home then number 60 else number 100

def half : α := (number 1 : α) / number 2

/-- Half a kilogram goes for the base fee, the rest of the first one for ten more, and every
further kilogram begun for fifteen. -/
def delivery (home : Bool) (weight : α) : α :=
  if Quantity.atMost weight half then base home
  else if Quantity.atMost weight (number 1) then base home + number 10
  else base home + number 10 + Quantity.ceil (weight - number 1) * number 15

/-- One percent of the amount to collect. -/
def cod (amount : α) : α := amount * number 1 / number 100

def fees (home : Bool) (weight amount : α) : Fees α :=
  ⟨delivery home weight, cod amount, delivery home weight + cod amount⟩

end Fee

end ParcelDesk

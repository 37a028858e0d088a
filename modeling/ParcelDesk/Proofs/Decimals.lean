import Mathlib.Algebra.Group.Nat.Defs
import Mathlib.Logic.Function.Basic
import ParcelDesk.Decimal.Notation

/-!
Decimal digits of whole numbers. They are digits, there is at least one, only zero begins with a
zero, and different numbers have different digits. The text under which the cache keeps the owner
of a token therefore names one user.
-/

namespace ParcelDesk.Decimal

theorem isDigit_of_mem_naturalDigits {n : Nat} {c : Char} (hc : c ∈ naturalDigits n) :
    c.isDigit = true :=
  Nat.isDigit_of_mem_toDigits (by omega) (by omega) hc

theorem naturalDigits_ne_nil (n : Nat) : naturalDigits n ≠ [] := Nat.toDigits_ne_nil

theorem naturalDigits_eq_if (n : Nat) : naturalDigits n =
    if n < 10 then [Nat.digitChar n] else naturalDigits (n / 10) ++ [Nat.digitChar (n % 10)] :=
  Nat.toDigits_eq_if (by omega)

/-- A zero in front stands alone. -/
theorem naturalDigits_zero_head {n : Nat} {ds : List Char} (h : naturalDigits n = '0' :: ds) :
    n = 0 ∧ ds = [] := by
  induction n using Nat.strongRecOn generalizing ds with
  | ind n ih =>
    rw [naturalDigits_eq_if] at h
    split at h
    · obtain ⟨hd, hds⟩ := List.cons.inj h
      exact ⟨Nat.digitChar_eq_zero.mp hd, hds.symm⟩
    · rename_i hn
      cases hq : naturalDigits (n / 10) with
      | nil => exact absurd hq (naturalDigits_ne_nil _)
      | cons d rest =>
        rw [hq] at h
        have hd : d = '0' := (List.cons.inj h).1
        subst d
        have hzero := (ih (n / 10) (by omega) hq).1
        omega

theorem ofDigitChars_naturalDigits (n : Nat) : Nat.ofDigitChars 10 (naturalDigits n) 0 = n :=
  Nat.ofDigitChars_ten_toDigits

theorem naturalDigits_injective : Function.Injective naturalDigits := by
  intro m n h
  rw [← ofDigitChars_naturalDigits m, ← ofDigitChars_naturalDigits n, h]

/-! ### Digits with leading zeros -/

theorem isDigit_of_mem_paddedDigits {width n : Nat} {c : Char} (hc : c ∈ paddedDigits width n) :
    c.isDigit = true := by
  rcases List.mem_append.mp hc with hzero | hdigit
  · rw [List.eq_of_mem_replicate hzero]
    decide
  · exact isDigit_of_mem_naturalDigits hdigit

theorem length_paddedDigits {width n : Nat} (hwidth : 0 < width) (hn : n < 10 ^ width) :
    (paddedDigits width n).length = width := by
  have hfits : (naturalDigits n).length ≤ width :=
    (Nat.length_toDigits_le_iff (by omega) hwidth).mpr hn
  rw [paddedDigits, List.length_append, List.length_replicate]
  omega

/-- Leading zeros do not change what number is read. -/
theorem ofDigitChars_paddedDigits (width n : Nat) :
    Nat.ofDigitChars 10 (paddedDigits width n) 0 = n := by
  rw [paddedDigits, Nat.ofDigitChars_append, Nat.ofDigitChars_replicate_zero, Nat.mul_zero]
  exact ofDigitChars_naturalDigits n

/-! ### Signs -/

theorem minus_notMem_naturalDigits (n : Nat) : '-' ∉ naturalDigits n := by
  intro h
  exact absurd (isDigit_of_mem_naturalDigits h) (by decide)

theorem integerDigits_injective : Function.Injective integerDigits := by
  intro m n h
  unfold integerDigits at h
  split at h <;> split at h
  · have := naturalDigits_injective (List.cons.inj h).2
    omega
  · exact absurd (h ▸ List.mem_cons_self) (minus_notMem_naturalDigits n.natAbs)
  · exact absurd (h ▸ List.mem_cons_self) (minus_notMem_naturalDigits m.natAbs)
  · have := naturalDigits_injective h
    omega

end ParcelDesk.Decimal

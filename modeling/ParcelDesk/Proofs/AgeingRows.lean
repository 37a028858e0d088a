import Mathlib.Order.Defs.Unbundled

/-!
Rows that age. What may happen to a row is that it is ended, once; all else in it stays as it is, and
it never loses its place among the others. So rows that are added to and ended are, at any later
time, still the rows that they were.
-/

namespace ParcelDesk

variable {α : Type}

/-- The row at a later time: it may have been ended meanwhile, and is the same but for that; one that
has been ended does not change at all. -/
structure AgesBy (same : α → α → Prop) (ended : α → Bool) (a b : α) : Prop where
  same : same a b
  settled : ended a = true → b = a

theorem AgesBy.isPreorder {same : α → α → Prop} (hrefl : ∀ a, same a a)
    (htrans : ∀ a b c, same a b → same b c → same a c) (ended : α → Bool) :
    IsPreorder α (AgesBy same ended) where
  refl a := ⟨hrefl a, fun _ => rfl⟩
  trans a b c hab hbc := by
    refine ⟨htrans a b c hab.same hbc.same, fun hended => ?_⟩
    have hb := hab.settled hended
    exact (hbc.settled (hb ▸ hended)).trans hb

def RowsAge (ages : α → α → Prop) (rows later : List α) : Prop :=
  ∀ (i : Nat) (row : α), rows[i]? = some row → ∃ aged, later[i]? = some aged ∧ ages row aged

namespace RowsAge

variable {ages : α → α → Prop} {rows later latest : List α}

theorem of_eq [Std.Refl ages] (h : later = rows) : RowsAge ages rows later := by
  intro i row hrow
  rw [h]
  exact ⟨row, hrow, refl row⟩

theorem trans [IsTrans α ages] (h : RowsAge ages rows later) (hlater : RowsAge ages later latest) :
    RowsAge ages rows latest := by
  intro i row hrow
  obtain ⟨aged, haged, hrow⟩ := h i row hrow
  obtain ⟨last, hlast, hold⟩ := hlater i aged haged
  exact ⟨last, hlast, IsTrans.trans row aged last hrow hold⟩

theorem append [Std.Refl ages] (rows more : List α) : RowsAge ages rows (rows ++ more) := by
  intro i row hrow
  have hi : i < rows.length := (List.getElem?_eq_some_iff.mp hrow).1
  rw [List.getElem?_append_left hi]
  exact ⟨row, hrow, refl row⟩

theorem map {f : α → α} (h : ∀ row, ages row (f row)) (rows : List α) :
    RowsAge ages rows (rows.map f) := by
  intro i row hrow
  rw [List.getElem?_map, hrow]
  exact ⟨f row, rfl, h row⟩

end RowsAge

end ParcelDesk

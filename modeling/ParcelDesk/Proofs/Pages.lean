import Mathlib.Data.List.Basic
import ParcelDesk.Paging

/-!
The pages of a listing. Page sizes and page numbers are never zero, and the page that is reported is
the one that was asked for. A page starts before the end of the listing exactly if its number is at
most the number of pages; so all pages but the last are full, those behind it are empty, and one
after another they give the whole listing.
-/

namespace ParcelDesk

namespace Paging

theorem toNat_max (a b : UInt32) : (max a b).toNat = max a.toNat b.toNat := by
  have hmax : max a b = if a ≤ b then b else a := rfl
  rw [hmax]
  split
  · rename_i h
    exact (Nat.max_eq_right (UInt32.le_iff_toNat_le.mp h)).symm
  · rename_i h
    have hlt := Nat.lt_of_not_le fun hle => h (UInt32.le_iff_toNat_le.mpr hle)
    exact (Nat.max_eq_left (Nat.le_of_lt hlt)).symm

theorem toNat_min (a b : UInt32) : (min a b).toNat = min a.toNat b.toNat := by
  have hmin : min a b = if a ≤ b then a else b := rfl
  rw [hmin]
  split
  · rename_i h
    exact (Nat.min_eq_left (UInt32.le_iff_toNat_le.mp h)).symm
  · rename_i h
    have hlt := Nat.lt_of_not_le fun hle => h (UInt32.le_iff_toNat_le.mpr hle)
    exact (Nat.min_eq_right (Nat.le_of_lt hlt)).symm

section Within

variable (page perPage : Option UInt32) (default maximum : UInt32)

theorem within_page : (within page perPage default maximum).page = max (page.getD 1) 1 := rfl

theorem one_le_page : 1 ≤ (within page perPage default maximum).page.toNat := by
  rw [within_page, toNat_max]
  exact Nat.le_max_right _ _

theorem one_le_limit : 1 ≤ (within page perPage default maximum).limit := by
  have hpositive (n : UInt32) : 1 ≤ (max n 1).toNat := by
    rw [toNat_max]
    exact Nat.le_max_right _ _
  change 1 ≤ (min (max _ 1) (max maximum 1)).toNat
  rw [toNat_min]
  exact Nat.le_min.mpr ⟨hpositive _, hpositive _⟩

end Within

/-- The page that is told back is the page that was asked for. -/
theorem currentPage_eq {p : Paging} (hpage : 1 ≤ p.page.toNat) (hlimit : 1 ≤ p.limit) :
    p.currentPage = p.page := by
  have hnumber : p.offset / p.limit = p.page.toNat - 1 := Nat.mul_div_cancel _ hlimit
  have hbound := p.page.toNat_lt
  rw [currentPage, hnumber, ← UInt32.toNat_inj, UInt32.toNat_add, UInt32.toNat_ofNat']
  simp only [UInt32.reduceToNat]
  omega

def pageCount (size total : Nat) : Nat := (total + size - 1) / size

theorem lt_pageCount_iff {size : Nat} (hsize : 1 ≤ size) (n total : Nat) :
    n < pageCount size total ↔ n * size < total := by
  rw [pageCount, Nat.lt_iff_add_one_le, Nat.le_div_iff_mul_le hsize, Nat.add_one_mul]
  omega

theorem toNat_lastPage {p : Paging} {total : Nat}
    (hfits : pageCount p.limit total < UInt32.size) :
    (p.lastPage total).toNat = pageCount p.limit total :=
  UInt32.toNat_ofNat_of_lt' hfits

variable {α : Type}

theorem length_slice (p : Paging) (xs : List α) :
    (p.slice xs).length = min p.limit (xs.length - p.offset) := by
  rw [slice, List.length_take, List.length_drop]

theorem map_slice {β : Type} (f : α → β) (p : Paging) (xs : List α) :
    (p.slice xs).map f = p.slice (xs.map f) := by
  rw [slice, slice, List.map_take, List.map_drop]

theorem length_slice_of_lt {p : Paging} (hpage : 1 ≤ p.page.toNat) (hlimit : 1 ≤ p.limit)
    {xs : List α} (h : p.page.toNat < pageCount p.limit xs.length) :
    (p.slice xs).length = p.limit := by
  have hnext := (lt_pageCount_iff hlimit _ _).mp h
  have hoffset : p.offset + p.limit = p.page.toNat * p.limit := by
    rw [offset, limit, ← Nat.add_one_mul, Nat.sub_add_cancel hpage]
  rw [length_slice]
  omega

theorem slice_of_pageCount_lt {p : Paging} (hlimit : 1 ≤ p.limit) {xs : List α}
    (h : pageCount p.limit xs.length < p.page.toNat) : p.slice xs = [] := by
  have hpast : ¬ p.page.toNat - 1 < pageCount p.limit xs.length := by omega
  rw [lt_pageCount_iff hlimit, Nat.not_lt] at hpast
  have hoffset : xs.length ≤ p.offset := hpast
  rw [slice, List.drop_eq_nil_of_le hoffset, List.take_nil]

theorem flatMap_take_drop (size : Nat) (xs : List α) (n : Nat) :
    ((List.range n).flatMap fun k => (xs.drop (k * size)).take size) = xs.take (n * size) := by
  induction n with
  | zero => simp
  | succ n ih =>
    rw [List.range_succ, List.flatMap_append, ih, Nat.add_one_mul, List.take_add]
    simp

theorem flatMap_chunks {size : Nat} (hsize : 1 ≤ size) (xs : List α) :
    ((List.range (pageCount size xs.length)).flatMap fun k => (xs.drop (k * size)).take size) =
      xs := by
  rw [flatMap_take_drop]
  apply List.take_of_length_le
  have hall : ¬ pageCount size xs.length < pageCount size xs.length := Nat.lt_irrefl _
  rw [lt_pageCount_iff hsize] at hall
  omega

section Whole

variable (perPage : Option UInt32) (default maximum : UInt32)

theorem slice_within {n : Nat} (h : n + 1 < UInt32.size) (xs : List α) :
    (within (some (.ofNat (n + 1))) perPage default maximum).slice xs =
      (xs.drop (n * (within none perPage default maximum).limit)).take
        (within none perPage default maximum).limit := by
  have hpage : (within (some (.ofNat (n + 1))) perPage default maximum).page.toNat = n + 1 := by
    rw [within_page, toNat_max, Option.getD_some, UInt32.toNat_ofNat_of_lt' h]
    exact Nat.max_eq_left (Nat.le_add_left 1 n)
  rw [slice, offset, hpage, Nat.add_sub_cancel]
  rfl

/-- One after another, the pages of a listing give the whole listing. -/
theorem flatMap_slice {xs : List α} {count : Nat}
    (hcount : pageCount (within none perPage default maximum).limit xs.length = count)
    (hfits : count < UInt32.size) :
    ((List.range count).flatMap fun n =>
      (within (some (.ofNat (n + 1))) perPage default maximum).slice xs) = xs := by
  subst hcount
  calc ((List.range _).flatMap fun n =>
        (within (some (.ofNat (n + 1))) perPage default maximum).slice xs)
    _ = (List.range _).flatMap fun n =>
        (xs.drop (n * (within none perPage default maximum).limit)).take
          (within none perPage default maximum).limit := by
      refine List.flatMap_congr fun n hn => slice_within perPage default maximum ?_ xs
      exact Nat.lt_of_le_of_lt (List.mem_range.mp hn) hfits
    _ = xs := flatMap_chunks (one_le_limit none perPage default maximum) xs

end Whole

end Paging

end ParcelDesk

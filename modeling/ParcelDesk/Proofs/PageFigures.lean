import Mathlib.Algebra.Group.Int.Defs
import Mathlib.Algebra.Group.Nat.Defs
import Mathlib.Order.Bounds.Basic
import ParcelDesk.Proofs.Pages

/-!
The figures of a page, reckoned in words. A number that is negative or too large for its word, and a
quotient by zero, would put an end to the reckoning; for a page within the bounds of a listing there
is neither. So the figures are the exact ones, up to the largest page numbers, sizes and totals, and
the number of pages is cut to 32 bits only where it needs more.
-/

namespace ParcelDesk

namespace Paging

/-! ### Words -/

def word32? (n : Int) : Option UInt32 :=
  if 0 ≤ n ∧ n < 2 ^ 32 then some (.ofNat n.toNat) else none

def word64? (n : Int) : Option UInt64 :=
  if 0 ≤ n ∧ n < 2 ^ 64 then some (.ofNat n.toNat) else none

def quotient? (a b : UInt64) : Option UInt64 := if b = 0 then none else some (a / b)

def quotientUp? (a b : UInt64) : Option UInt64 :=
  if b = 0 then none
  else if 0 < a % b then word64? ((a / b).toNat + 1)
  else some (a / b)

theorem exists_word32? {n : Nat} (h : n < 2 ^ 32) :
    ∃ w : UInt32, word32? n = some w ∧ w.toNat = n := by
  refine ⟨.ofNat n, ?_, UInt32.toNat_ofNat_of_lt' h⟩
  rw [word32?, if_pos (by omega), Int.toNat_natCast]

theorem exists_word64? {n : Nat} (h : n < 2 ^ 64) :
    ∃ w : UInt64, word64? n = some w ∧ w.toNat = n := by
  refine ⟨.ofNat n, ?_, UInt64.toNat_ofNat_of_lt' h⟩
  rw [word64?, if_pos (by omega), Int.toNat_natCast]

theorem ne_zero_of_one_le {b : UInt64} (h : 1 ≤ b.toNat) : b ≠ 0 := by
  rintro rfl
  exact absurd h (by decide)

/-- A listing takes its full pages, and one more if entries are left over. -/
theorem pageCount_eq {size : Nat} (hsize : 1 ≤ size) (total : Nat) :
    pageCount size total = if 0 < total % size then total / size + 1 else total / size := by
  have hparts := Nat.div_add_mod' total size
  have hrest := Nat.mod_lt total hsize
  have hnext := Nat.add_one_mul (total / size) size
  rw [pageCount]
  split
  · apply Nat.div_eq_of_lt_le
    · omega
    · rw [Nat.add_one_mul]
      omega
  · apply Nat.div_eq_of_lt_le <;> omega

/-- A quotient that is not cut fits whenever the dividend does. -/
theorem exists_quotientUp? (a : UInt64) {b : UInt64} (h : 1 ≤ b.toNat) :
    ∃ w, quotientUp? a b = some w ∧ w.toNat = pageCount b.toNat a.toNat := by
  have hrest : 0 < a % b ↔ 0 < a.toNat % b.toNat := by
    rw [UInt64.lt_iff_toNat_lt, UInt64.toNat_mod]
    rfl
  rw [quotientUp?, if_neg (ne_zero_of_one_le h), pageCount_eq h, UInt64.toNat_div]
  by_cases hleft : 0 < a.toNat % b.toNat
  · have hlt := a.toNat_lt
    have hparts := Nat.div_add_mod' a.toNat b.toNat
    have hless : a.toNat / b.toNat ≤ a.toNat / b.toNat * b.toNat := Nat.le_mul_of_pos_right _ h
    have hfits : a.toNat / b.toNat + 1 < 2 ^ 64 := by omega
    rw [if_pos (hrest.mpr hleft), if_pos hleft]
    exact exists_word64? hfits
  · rw [if_neg fun hmore => hleft (hrest.mp hmore), if_neg hleft]
    exact ⟨a / b, rfl, UInt64.toNat_div a b⟩

variable (p : Paging)

def offset? : Option UInt64 := do
  let before ← word32? (p.page.toNat - 1)
  word64? (before.toUInt64.toNat * p.perPage.toUInt64.toNat)

def currentPage? : Option UInt32 := do
  let before ← p.offset?
  let pages ← quotient? before p.perPage.toUInt64
  word32? (pages.toUInt32.toNat + 1)

/-- The number of pages, reckoned in words and cut to 32 bits at the end. -/
def lastPage? (total : UInt64) : Option UInt32 :=
  (quotientUp? total p.perPage.toUInt64).map UInt64.toUInt32

variable {p}

/-! ### The figures of a page -/

theorem toNat_toUInt64_perPage (p : Paging) : p.perPage.toUInt64.toNat = p.limit :=
  UInt32.toNat_toUInt64 p.perPage

theorem offset_lt (p : Paging) : p.offset < 2 ^ 64 := by
  have hpage : p.page.toNat - 1 < 2 ^ 32 := Nat.lt_of_le_of_lt (Nat.sub_le _ _) p.page.toNat_lt
  calc p.offset
    _ = (p.page.toNat - 1) * p.perPage.toNat := rfl
    _ < 2 ^ 32 * 2 ^ 32 := Nat.mul_lt_mul'' hpage p.perPage.toNat_lt
    _ = 2 ^ 64 := by decide

theorem exists_offset? (hpage : 1 ≤ p.page.toNat) :
    ∃ before, p.offset? = some before ∧ before.toNat = p.offset := by
  have hlt := p.page.toNat_lt
  obtain ⟨pages, hpages, hcount⟩ := exists_word32? (n := p.page.toNat - 1) (by omega)
  obtain ⟨before, hbefore, hnat⟩ := exists_word64? p.offset_lt
  refine ⟨before, ?_, hnat⟩
  have hdifference : (p.page.toNat : Int) - 1 = (p.page.toNat - 1 : Nat) := by omega
  have hproduct : pages.toUInt64.toNat * p.perPage.toUInt64.toNat = p.offset := by
    rw [UInt32.toNat_toUInt64, UInt32.toNat_toUInt64, hcount]
    rfl
  rw [offset?, hdifference, hpages, Option.bind_eq_bind, Option.bind_some, ← Int.natCast_mul,
    hproduct, hbefore]

theorem currentPage?_eq (hpage : 1 ≤ p.page.toNat) (hlimit : 1 ≤ p.limit) :
    p.currentPage? = some p.page := by
  have hlt := p.page.toNat_lt
  obtain ⟨before, hbefore, hnat⟩ := exists_offset? hpage
  obtain ⟨page, hword, hcount⟩ := exists_word32? hlt
  have hsize : quotient? before p.perPage.toUInt64 = some (before / p.perPage.toUInt64) := by
    rw [← toNat_toUInt64_perPage] at hlimit
    exact if_neg (ne_zero_of_one_le hlimit)
  have hnumber : p.offset / p.limit = p.page.toNat - 1 := Nat.mul_div_cancel _ hlimit
  have hpages : (before / p.perPage.toUInt64).toUInt32.toNat = p.page.toNat - 1 := by
    rw [UInt64.toNat_toUInt32, UInt64.toNat_div, toNat_toUInt64_perPage, hnat, hnumber]
    exact Nat.mod_eq_of_lt (by omega)
  have hnext : ((p.page.toNat - 1 : Nat) : Int) + 1 = p.page.toNat := by omega
  rw [currentPage?, hbefore, Option.bind_eq_bind, Option.bind_some, hsize, Option.bind_some, hpages,
    hnext, hword, UInt32.toNat_inj.mp hcount]

theorem lastPage?_eq (hlimit : 1 ≤ p.limit) (total : UInt64) :
    p.lastPage? total = some (p.lastPage total.toNat) := by
  rw [← toNat_toUInt64_perPage] at hlimit
  obtain ⟨pages, hpages, hcount⟩ := exists_quotientUp? total hlimit
  rw [toNat_toUInt64_perPage] at hcount
  have hcut : pages.toUInt32 = p.lastPage total.toNat := by
    rw [← UInt32.toNat_inj, UInt64.toNat_toUInt32, hcount]
    exact UInt32.toNat_ofNat'.symm
  rw [lastPage?, hpages, Option.map_some, hcut]

theorem isLeast_pageCount {size : Nat} (hsize : 1 ≤ size) (total : Nat) :
    IsLeast {n | total ≤ n * size} (pageCount size total) := by
  have hiff := lt_pageCount_iff hsize
  constructor
  · exact Nat.not_lt.mp fun h => lt_irrefl _ ((hiff _ total).mpr h)
  · intro n hn
    exact Nat.not_lt.mp fun h => absurd ((hiff n total).mp h) (Nat.not_lt.mpr hn)

theorem perPage_le (page perPage : Option UInt32) (default maximum : UInt32) :
    (within page perPage default maximum).perPage ≤ max 1 maximum := by
  rw [UInt32.le_iff_toNat_le, toNat_max, Nat.max_comm, ← toNat_max]
  change (min (max _ 1) (max maximum 1)).toNat ≤ _
  rw [toNat_min]
  exact Nat.min_le_right _ _

/-- A page that is asked for in any way lies within the bounds of the listing, whatever the default
and the largest size are. None of its figures goes beyond a word, and no quotient is one by zero:
the entries before it are those of the pages before it, the page that is told back is the one asked
for, and the number of pages, if it fits 32 bits, is the least that holds all entries. -/
theorem page_figures_are_exact (page perPage : Option UInt32) (default maximum : UInt32) :
    let p := within page perPage default maximum
    (1 ≤ p.page ∧ 1 ≤ p.perPage ∧ p.perPage ≤ max 1 maximum) ∧
    (∃ before : UInt64, p.offset? = some before ∧ before.toNat = p.offset ∧
      (before.toNat : Int) = (p.page.toNat - 1) * p.perPage.toNat) ∧
    (p.currentPage? = some p.page ∧ p.currentPage = p.page) ∧
    ∀ total : UInt64, p.lastPage? total = some (p.lastPage total.toNat) ∧
      ∃ least, IsLeast {n : Nat | total.toNat ≤ n * p.perPage.toNat} least ∧
        (least < 2 ^ 32 → (p.lastPage total.toNat).toNat = least) := by
  intro p
  have hpage : 1 ≤ p.page.toNat := one_le_page page perPage default maximum
  have hlimit : 1 ≤ p.limit := one_le_limit page perPage default maximum
  obtain ⟨before, hbefore, hoffset⟩ := exists_offset? hpage
  refine ⟨⟨UInt32.le_iff_toNat_le.mpr hpage, UInt32.le_iff_toNat_le.mpr hlimit,
    perPage_le page perPage default maximum⟩, ⟨before, hbefore, hoffset, ?_⟩,
    ⟨currentPage?_eq hpage hlimit, currentPage_eq hpage hlimit⟩, fun total => ?_⟩
  · rw [hoffset, offset, Int.natCast_mul, Int.natCast_sub hpage]
    rfl
  · exact ⟨lastPage?_eq hlimit total, _, isLeast_pageCount hlimit total.toNat, toNat_lastPage⟩

/-- The largest page of the largest size, in a listing that fills the largest number of pages. -/
theorem largest_figures_are_exact :
    (within (some 0xFFFFFFFF) (some 0xFFFFFFFF) 0 0xFFFFFFFF).offset? = some 0xFFFFFFFD00000002 ∧
    (0xFFFFFFFF < 2 ^ 32 ∧ IsLeast {n : Nat | 0xFFFFFFFE00000001 ≤ n * 0xFFFFFFFF} 0xFFFFFFFF ∧
      ((within (some 0xFFFFFFFF) (some 0xFFFFFFFF) 0 0xFFFFFFFF).lastPage
        0xFFFFFFFE00000001).toNat = 0xFFFFFFFF) := by
  obtain ⟨-, ⟨before, hbefore, hnat, -⟩, -, hlast⟩ :=
    page_figures_are_exact (some 0xFFFFFFFF) (some 0xFFFFFFFF) 0 0xFFFFFFFF
  obtain ⟨-, least, hleast, hfits⟩ := hlast 0xFFFFFFFE00000001
  have hcount : IsLeast {n : Nat | 0xFFFFFFFE00000001 ≤ n * 0xFFFFFFFF} 0xFFFFFFFF :=
    isLeast_pageCount (by decide) 0xFFFFFFFE00000001
  obtain rfl := hleast.unique hcount
  have hbound : 0xFFFFFFFF < 2 ^ 32 := by decide
  refine ⟨?_, hbound, hcount, hfits hbound⟩
  rw [hbefore, ← UInt64.ofNat_toNat (x := before), hnat]
  rfl

end Paging

end ParcelDesk

import Mathlib.Tactic.ByContra
import ParcelDesk.Time.Civil

/-!
Dates and their day numbers. Every day number is that of a date, which exists; of two dates that
exist, the later one has the greater number. Years are counted from March here, so that the leap day
is the last one of its year and all other months are equally long in every year.
-/

namespace ParcelDesk.Time

theorem isLeap_iff (y : Int) :
    isLeap y = true ↔ y % 4 = 0 ∧ (y % 100 ≠ 0 ∨ y % 400 = 0) := by
  simp [isLeap]

def marchDays (y : Int) : Int := 365 * y + y / 4 - y / 100 + y / 400

/-- The days of the year from 1 March on, which ends with the February of the next one. -/
def yearLength (y : Int) : Int := if isLeap (y + 1) then 366 else 365

theorem le_yearLength (y : Int) : 365 ≤ yearLength y := by
  unfold yearLength
  split <;> omega

theorem marchDays_succ (y : Int) : marchDays (y + 1) = marchDays y + yearLength y := by
  have hleap := isLeap_iff (y + 1)
  unfold marchDays yearLength
  by_cases hfour : (y + 1) % 4 = 0
  · by_cases hcentury : (y + 1) % 100 = 0
    · by_cases hera : (y + 1) % 400 = 0
      · rw [if_pos (hleap.mpr ⟨hfour, .inr hera⟩)]
        omega
      · rw [if_neg fun h => hera ((hleap.mp h).2.resolve_left fun hne => hne hcentury)]
        omega
    · rw [if_pos (hleap.mpr ⟨hfour, .inl hcentury⟩)]
      omega
  · rw [if_neg fun h => hfour (hleap.mp h).1]
    omega

theorem marchDays_mono {x y : Int} (h : x ≤ y) : marchDays x ≤ marchDays y := by
  unfold marchDays
  omega

/-- The days of the year from 1 March on before a month, the first of which is number 0. -/
def monthStart (m : Int) : Int := (153 * m + 2) / 5

def monthLength (y m : Int) : Int :=
  if m = 11 then yearLength y - monthStart 11 else monthStart (m + 1) - monthStart m

namespace Date

def marchYear (d : Date) : Int := if d.month ≤ 2 then d.year - 1 else d.year

def marchMonth (d : Date) : Int := if 2 < d.month then (d.month : Int) - 3 else d.month + 9

def marchDay (d : Date) : Int := monthStart d.marchMonth + d.day - 1

theorem toDays_eq (d : Date) : d.toDays = marchDays d.marchYear + d.marchDay - 719468 := by
  have hunfold : d.toDays = d.marchYear / 400 * 146097 +
      ((d.marchYear - d.marchYear / 400 * 400) * 365 +
        (d.marchYear - d.marchYear / 400 * 400) / 4 -
        (d.marchYear - d.marchYear / 400 * 400) / 100 + d.marchDay) - 719468 := rfl
  rw [hunfold, marchDays]
  omega

theorem valid_iff (d : Date) : d.valid = true ↔
    1 ≤ d.month ∧ d.month ≤ 12 ∧ 1 ≤ d.day ∧ d.day ≤ daysInMonth d.year d.month := by
  simp [valid, and_assoc]

theorem marchMonth_bounds {d : Date} (h : 1 ≤ d.month ∧ d.month ≤ 12) :
    0 ≤ d.marchMonth ∧ d.marchMonth ≤ 11 := by
  unfold marchMonth
  split <;> omega

theorem daysInMonth_eq {d : Date} (h : 1 ≤ d.month ∧ d.month ≤ 12) :
    (daysInMonth d.year d.month : Int) = monthLength d.marchYear d.marchMonth := by
  obtain ⟨year, month, day⟩ := d
  simp only at h
  have hmonths : month = 1 ∨ month = 2 ∨ month = 3 ∨ month = 4 ∨ month = 5 ∨ month = 6 ∨
      month = 7 ∨ month = 8 ∨ month = 9 ∨ month = 10 ∨ month = 11 ∨ month = 12 := by omega
  rcases hmonths with rfl | rfl | rfl | rfl | rfl | rfl | rfl | rfl | rfl | rfl | rfl | rfl
  case inr.inl =>
    have hnext : year - 1 + 1 = year := by omega
    simp only [daysInMonth, marchYear, marchMonth, monthLength, yearLength, monthStart]
    simp only [Nat.lt_irrefl, Nat.le_refl, if_true, if_false, hnext]
    cases isLeap year <;> rfl
  all_goals simp [daysInMonth, marchMonth, monthLength, monthStart]

/-- A date exists if it lies in one of twelve months and in no other. -/
theorem valid_iff_march (d : Date) : d.valid = true ↔
    (1 ≤ d.month ∧ d.month ≤ 12) ∧ 1 ≤ d.day ∧ d.day ≤ monthLength d.marchYear d.marchMonth := by
  rw [valid_iff, ← and_assoc]
  refine and_congr_right fun hmonth => and_congr_right fun _ => ?_
  rw [← daysInMonth_eq hmonth]
  omega

def Before (d e : Date) : Prop :=
  d.year < e.year ∨ d.year = e.year ∧ (d.month < e.month ∨ d.month = e.month ∧ d.day < e.day)

/-- Counting from March does not change which of two dates is the earlier one. -/
theorem Before.march {d e : Date} (hd : d.valid = true) (he : e.valid = true) (h : d.Before e) :
    d.marchYear < e.marchYear ∨ d.marchYear = e.marchYear ∧
      (d.marchMonth < e.marchMonth ∨ d.marchMonth = e.marchMonth ∧ d.day < e.day) := by
  obtain ⟨hdmonth, -⟩ := (valid_iff_march d).mp hd
  obtain ⟨hemonth, -⟩ := (valid_iff_march e).mp he
  unfold Before at h
  unfold marchYear marchMonth
  split <;> split <;> split <;> split <;> omega

/-- A date that exists lies within its year, and before the month that follows. -/
theorem marchDay_bounds {d : Date} (h : d.valid = true) :
    0 ≤ d.marchDay ∧ d.marchDay < yearLength d.marchYear ∧
      ∀ m, d.marchMonth < m → m ≤ 11 → d.marchDay < monthStart m := by
  obtain ⟨hmonth, hday, hfits⟩ := (valid_iff_march d).mp h
  obtain ⟨hfirst, hlast⟩ := marchMonth_bounds hmonth
  have hlength := le_yearLength d.marchYear
  unfold marchDay
  unfold monthLength at hfits
  unfold monthStart at hfits ⊢
  refine ⟨by omega, ?_, fun m hm hle => ?_⟩
  · split at hfits <;> omega
  · rw [if_neg (by omega)] at hfits
    omega

theorem toDays_lt {d e : Date} (hd : d.valid = true) (he : e.valid = true) (h : d.Before e) :
    d.toDays < e.toDays := by
  obtain ⟨hdfirst, hdyear, hdmonth⟩ := marchDay_bounds hd
  obtain ⟨hefirst, -, -⟩ := marchDay_bounds he
  obtain ⟨hmonth, hday, -⟩ := (valid_iff_march e).mp he
  rw [toDays_eq, toDays_eq]
  rcases h.march hd he with hyears | ⟨hyear, hmonths | ⟨hmonth, hdays⟩⟩
  · have hnext := marchDays_mono (Int.add_one_le_of_lt hyears)
    rw [marchDays_succ] at hnext
    omega
  · have hstart := hdmonth e.marchMonth hmonths (marchMonth_bounds hmonth).2
    rw [hyear]
    unfold marchDay at hstart ⊢
    omega
  · rw [hyear]
    unfold marchDay
    rw [hmonth]
    omega

def monthOf (t : Int) : Int := (5 * t + 2) / 153

theorem monthOf_bounds {t : Int} (hfirst : 0 ≤ t) (hlast : t ≤ 365) :
    (0 ≤ monthOf t ∧ monthOf t ≤ 11) ∧ monthStart (monthOf t) ≤ t ∧
      t < monthStart (monthOf t + 1) := by
  unfold monthOf monthStart
  omega

def ofMarch (y t : Int) : Date :=
  let month := if monthOf t < 10 then monthOf t + 3 else monthOf t - 9
  ⟨y + (if month ≤ 2 then 1 else 0), month.toNat, (t - monthStart (monthOf t) + 1).toNat⟩

/-- A day of a year lies in one of its months. -/
theorem march_ofMarch {y t : Int} (hfirst : 0 ≤ t) (hlast : t < yearLength y) :
    (ofMarch y t).valid = true ∧ (ofMarch y t).marchYear = y ∧ (ofMarch y t).marchDay = t := by
  have hlength : yearLength y ≤ 366 := by
    unfold yearLength
    split <;> omega
  obtain ⟨⟨hm, hm11⟩, hstart, hend⟩ := monthOf_bounds hfirst (by omega)
  have hmonth : 1 ≤ (ofMarch y t).month ∧ (ofMarch y t).month ≤ 12 := by
    simp only [ofMarch]
    split <;> omega
  have hmarchMonth : (ofMarch y t).marchMonth = monthOf t := by
    simp only [ofMarch, marchMonth]
    split <;> split <;> omega
  have hmarchYear : (ofMarch y t).marchYear = y := by
    simp only [ofMarch, marchYear]
    split <;> split <;> split <;> omega
  have hday : ((ofMarch y t).day : Int) = t - monthStart (monthOf t) + 1 :=
    Int.toNat_of_nonneg (by omega)
  refine ⟨(valid_iff_march _).mpr ⟨hmonth, by omega, ?_⟩, hmarchYear, ?_⟩
  · rw [hday, hmarchYear, hmarchMonth, monthLength]
    split
    · rename_i hlastMonth
      rw [hlastMonth]
      omega
    · omega
  · rw [marchDay, hmarchMonth, hday]
    omega

end Date

/-- The day of an era, in whole centuries, leap cycles and years, and the days that are left. Only
the last year of a cycle has a day more than the others, unless it ends a century within the era. -/
structure EraDay (z q j y t : Int) : Prop where
  sum : z = 36524 * q + 1461 * j + 365 * y + t
  century : 0 ≤ q ∧ q ≤ 3
  cycle : 0 ≤ j ∧ j ≤ 24
  year : 0 ≤ y ∧ y ≤ 3
  day : 0 ≤ t ∧ (t ≤ 364 ∨ t = 365 ∧ y = 3 ∧ (j < 24 ∨ q = 3))

theorem exists_eraDay {z : Int} (hfirst : 0 ≤ z) (hlast : z < 146097) :
    ∃ q j y t, EraDay z q j y t := by
  -- the last day of an era belongs to its fourth century
  let q := z / 36524 - z / 146096
  let j := (z - 36524 * q) / 1461
  let rest := z - 36524 * q - 1461 * j
  have hq : 0 ≤ q ∧ q ≤ 3 ∧ 0 ≤ z - 36524 * q ∧
      (z - 36524 * q < 36524 ∨ q = 3 ∧ z - 36524 * q = 36524) := by omega
  have hj : 0 ≤ j ∧ j ≤ 24 ∧ 0 ≤ rest ∧ rest < 1461 ∧ (rest = 1460 → j < 24 ∨ q = 3) := by omega
  refine ⟨q, j, rest / 365 - rest / 1460, rest - 365 * (rest / 365 - rest / 1460), ?_⟩
  constructor <;> omega

/-- Without its leap days, a day of an era tells its year. -/
theorem EraDay.yearOf {z q j y t : Int} (h : EraDay z q j y t) :
    (z - z / 1460 + z / 36524 - z / 146096) / 365 = 100 * q + 4 * j + y := by
  obtain ⟨hsum, ⟨hq, hq3⟩, ⟨hj, hj24⟩, ⟨hy, hy3⟩, ht, hday⟩ := h
  have hcentury : z / 36524 - z / 146096 = q := by
    obtain ⟨rest, hrest⟩ : ∃ rest, rest = 1461 * j + 365 * y + t := ⟨_, rfl⟩
    have hbounds : 0 ≤ rest ∧ (rest < 36524 ∨ rest = 36524 ∧ q = 3) := by omega
    have hsum : z = 36524 * q + rest := by omega
    clear hrest hj hj24 hy hy3 ht hday
    omega
  have hleap : z / 1460 = 25 * q + j ∨ z / 1460 = 25 * q + j + 1 ∧ 1364 ≤ 365 * y + t := by omega
  have hlast : 365 * y + t = 1460 → z / 1460 = 25 * q + j + 1 := by omega
  omega

theorem EraDay.dayOf {z q j y t : Int} (h : EraDay z q j y t) :
    z - (365 * (100 * q + 4 * j + y) + (100 * q + 4 * j + y) / 4 - (100 * q + 4 * j + y) / 100) =
      t := by
  obtain ⟨hsum, -, hj, hy, -⟩ := h
  have hfour : (100 * q + 4 * j + y) / 4 = 25 * q + j := by omega
  have hcentury : (100 * q + 4 * j + y) / 100 = q := by omega
  omega

/-- The day of an era is a day of the year that it tells. -/
theorem EraDay.lt_yearLength {z q j y t : Int} (h : EraDay z q j y t) (e : Int) :
    t < yearLength (100 * q + 4 * j + y + 400 * e) := by
  obtain ⟨-, ⟨hq, hq3⟩, ⟨hj, hj24⟩, -, -, hday⟩ := h
  rcases hday with hday | ⟨rfl, rfl, hleap⟩
  · exact Int.lt_of_lt_of_le (by omega) (le_yearLength _)
  · have hends : isLeap (100 * q + 4 * j + 3 + 400 * e + 1) = true := by
      rw [isLeap_iff]
      rcases hleap with hcycle | rfl
      · exact ⟨by omega, .inl (by omega)⟩
      · by_cases hlast : j = 24
        · exact ⟨by omega, .inr (by omega)⟩
        · exact ⟨by omega, .inl (by omega)⟩
    rw [yearLength, if_pos hends]
    omega

theorem EraDay.marchDays_add {z q j y t : Int} (h : EraDay z q j y t) (e : Int) :
    marchDays (100 * q + 4 * j + y + 400 * e) + t = z + 146097 * e := by
  obtain ⟨hsum, hq, hj, hy, -⟩ := h
  unfold marchDays
  omega

namespace Date

/-- A day number is taken apart into the year and the day of that year. -/
theorem exists_march (n : Int) : ∃ y t, ofDays n = ofMarch y t ∧ 0 ≤ t ∧ t < yearLength y ∧
    n = marchDays y + t - 719468 := by
  obtain ⟨e, he⟩ : ∃ e, e = (n + 719468) / 146097 := ⟨_, rfl⟩
  obtain ⟨z, hz⟩ : ∃ z, z = n + 719468 - e * 146097 := ⟨_, rfl⟩
  obtain ⟨q, j, y, t, h⟩ := exists_eraDay (z := z) (by omega) (by omega)
  refine ⟨100 * q + 4 * j + y + 400 * e, t, ?_, h.day.1, h.lt_yearLength e, ?_⟩
  · have hyear := h.yearOf
    have hday := h.dayOf
    simp only [ofDays, ← he, ← hz, hyear, hday, Int.mul_comm e 400]
    rfl
  · rw [h.marchDays_add]
    omega

theorem valid_ofDays (n : Int) : (ofDays n).valid = true := by
  obtain ⟨y, t, hdate, hfirst, hlast, -⟩ := exists_march n
  rw [hdate]
  exact (march_ofMarch hfirst hlast).1

theorem toDays_ofDays (n : Int) : (ofDays n).toDays = n := by
  obtain ⟨y, t, hdate, hfirst, hlast, hn⟩ := exists_march n
  obtain ⟨-, hyear, hday⟩ := march_ofMarch hfirst hlast
  rw [hdate, toDays_eq, hyear, hday, hn]

end Date

end ParcelDesk.Time

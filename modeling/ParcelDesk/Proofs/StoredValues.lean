import Mathlib.Algebra.Group.Int.Defs
import Mathlib.Algebra.Group.Nat.Defs
import Mathlib.Data.List.Forall2
import Mathlib.Data.List.Nodup
import ParcelDesk.Database.OrderTable
import ParcelDesk.Proofs.CivilDates

/-!
Values that a database keeps. A bound value stands in a cell as it is, but for a time, which is cut
to microseconds and told by the calendar and the clock. A column of its type gives the value back,
if a number fits the type and a time is one that a clock shows in whole microseconds.
-/

namespace ParcelDesk

namespace Instant

/-- A time in whole microseconds that a clock shows. Past one billion, the nanoseconds belong to a
leap second, which only ends a minute. -/
structure IsStamp (a : Instant) : Prop where
  whole : a.nanos % 1000 = 0
  shown : a.nanos < 1000000000 ∨ a.seconds % 60 = 59 ∧ a.nanos < 2000000000

end Instant

namespace Database

def IsWord (bits : Nat) (n : Int) : Prop := -2 ^ (bits - 1) ≤ n ∧ n < 2 ^ (bits - 1)

instance (bits : Nat) (n : Int) : Decidable (IsWord bits n) := inferInstanceAs (Decidable (_ ∧ _))

namespace ClockReading

structure Tells (r : ClockReading) (a : Instant) : Prop where
  year : (r.year : Int) = a.date.year
  month : r.month = a.date.month
  day : r.day = a.date.day
  hour : r.hour = a.hour
  minute : r.minute = a.minute
  second : r.second = a.secondOfDay % 60
  micros : r.micros = a.nanos / 1000

variable {r : ClockReading} {a : Instant}

theorem tells_ofInstant (h : 0 ≤ a.date.year) : (ofInstant a).Tells a :=
  ⟨Int.toNat_of_nonneg h, rfl, rfl, rfl, rfl, rfl, rfl⟩

theorem Tells.date (h : r.Tells a) : r.date = a.date := by
  rw [ClockReading.date, h.year, h.month, h.day]

/-- The parts of a reading are those of a date and of a time of day, and count the seconds of its
instant. -/
theorem Tells.seconds (h : r.Tells a) :
    r.date.valid = true ∧ r.hour < 24 ∧ r.minute < 60 ∧ r.second < 60 ∧
      a.seconds = r.date.toDays * 86400 + (r.hour * 3600 + r.minute * 60 + r.second : Nat) := by
  have hvalid : r.date.valid = true := h.date ▸ Time.Date.valid_ofDays _
  have hdays : r.date.toDays = a.seconds / 86400 := h.date ▸ Time.Date.toDays_ofDays _
  have hhour := h.hour
  have hminute := h.minute
  have hsecond := h.second
  unfold Instant.hour Instant.secondOfDay at hhour
  unfold Instant.minute Instant.secondOfDay at hminute
  unfold Instant.secondOfDay at hsecond
  exact ⟨hvalid, by omega, by omega, by omega, by omega⟩

theorem Tells.hasTime (h : r.Tells a) (ha : a.IsStamp) : r.hasTime = true := by
  obtain ⟨-, hhour, hminute, hsecond, hseconds⟩ := h.seconds
  have hmicros := h.micros
  have hshown := ha.shown
  simp only [ClockReading.hasTime, Bool.and_eq_true, Bool.or_eq_true, decide_eq_true_eq]
  omega

/-- The reading of a stamp is that of no other instant. -/
theorem Tells.instant (h : r.Tells a) (ha : a.IsStamp) : r.instant = .ok a := by
  obtain ⟨hvalid, -, -, -, hseconds⟩ := h.seconds
  have hnanos : r.micros * 1000 = a.nanos := by
    rw [h.micros]
    exact Nat.div_mul_cancel (Nat.dvd_of_mod_eq_zero ha.whole)
  rw [ClockReading.instant, if_neg (by simp [hvalid]), if_neg (by simp [h.hasTime ha]), ← hseconds,
    hnanos]

end ClockReading

inductive Cell.Keeps : Cell → Param → Prop
  | null : Keeps .null .null
  | int (n : Int) : Keeps (.int n) (.int n)
  | text (s : String) : Keeps (.text s) (.text s)
  | real (x : Float) : Keeps (.real x) (.real x)
  | time {r : ClockReading} {a : Instant} (h : r.Tells a) : Keeps (.time r) (.time a)

namespace Cell.Keeps

variable {c : Cell}

theorem eq_null (h : c.Keeps .null) : c = .null := by
  cases h
  rfl

theorem eq_int {n : Int} (h : c.Keeps (.int n)) : c = .int n := by
  cases h
  rfl

theorem eq_text {s : String} (h : c.Keeps (.text s)) : c = .text s := by
  cases h
  rfl

theorem eq_time {a : Instant} (h : c.Keeps (.time a)) : ∃ r, c = .time r ∧ r.Tells a := by
  cases h with
  | time h => exact ⟨_, rfl, h⟩

end Cell.Keeps

def Cell.ofParam : Param → Cell
  | .null => .null
  | .int n => .int n
  | .text s => .text s
  | .real x => .real x
  | .time a => .time (.ofInstant a)

theorem Cell.keeps_ofParam {p : Param} (h : ∀ a, p = .time a → 0 ≤ a.date.year) :
    (ofParam p).Keeps p := by
  cases p with
  | null => exact .null
  | int n => exact .int n
  | text s => exact .text s
  | real x => exact .real x
  | time a => exact .time (ClockReading.tells_ofInstant (h a rfl))

namespace Reading

variable {α : Type}

/-- A column of the type gives the value back for which the parameter was bound. -/
def Takes (r : Reading α) (type : ColumnType) (p : Param) (a : α) : Prop :=
  ∀ c, Cell.Keeps c p → r.ofCell type c = .ok a

theorem takes_within {accepts : ColumnType → Bool} {low high n : Int} {type : ColumnType}
    (htype : accepts type = true) (hlow : low ≤ n) (hhigh : n ≤ high) :
    (within accepts low high).Takes type (.int n) n := by
  rintro _ ⟨⟩
  simp only [ofCell, within, htype, if_true]
  rw [if_neg (by omega), if_neg (by omega)]

theorem takes_int64 {n : Int} {type : ColumnType} (htype : type.isSigned = true)
    (h : IsWord 64 n) : int64.Takes type (.int n) n :=
  takes_within htype h.1 (Int.le_of_lt_add_one h.2)

theorem takes_int32 {n : Int} {type : ColumnType} (htype : type.isSigned = true)
    (h : IsWord 32 n) : int32.Takes type (.int n) n :=
  takes_within htype h.1 (Int.le_of_lt_add_one h.2)

theorem takes_int8 {n : Int} {type : ColumnType} (htype : type.isSigned = true)
    (h : IsWord 8 n) : int8.Takes type (.int n) n :=
  takes_within htype h.1 (Int.le_of_lt_add_one h.2)

theorem takes_bool (b : Bool) {type : ColumnType} (htype : type.isSigned = true) :
    bool.Takes type (.bool b) b := by
  rintro _ ⟨⟩
  simp only [ofCell, bool, htype, Bool.true_or, if_true]
  cases b <;> rfl

theorem takes_real (x : Float) {type : ColumnType} (htype : type = .double) :
    real.Takes type (.real x) x := by
  rintro _ ⟨⟩
  simp [ofCell, real, htype]

theorem takes_text (s : String) {type : ColumnType} (htype : type.isText = true) :
    text.Takes type (.text s) s := by
  rintro _ ⟨⟩
  simp [ofCell, text, htype]

theorem takes_time {a : Instant} {type : ColumnType} (htype : type.isTime = true)
    (ha : a.IsStamp) : time.Takes type (.time a) a := by
  rintro _ ⟨⟩
  rename_i r h
  simp [ofCell, time, htype, h.instant ha]

theorem takes_optional_null (r : Reading α) (type : ColumnType) :
    r.optional.Takes type .null none := by
  rintro _ ⟨⟩
  rfl

theorem ofCell_optional (r : Reading α) (type : ColumnType) {c : Cell} (hc : c ≠ .null) :
    r.optional.ofCell type c = (r.ofCell type c).map some := by
  have haccepts : r.optional.accepts type = r.accepts type := rfl
  cases c with
  | null => exact absurd rfl hc
  | _ =>
    simp only [ofCell, haccepts]
    split <;> rfl

theorem Takes.optional {r : Reading α} {type : ColumnType} {p : Param} {a : α}
    (h : r.Takes type p a) (hp : p ≠ .null) : r.optional.Takes type p (some a) := by
  intro c hc
  have hnull : c ≠ .null := by
    rintro rfl
    cases hc
    exact hp rfl
  rw [ofCell_optional r type hnull, h c hc]
  rfl

theorem takes_optional_text (s : Option String) {type : ColumnType} (htype : type.isText = true) :
    text.optional.Takes type (.ofText? s) s := by
  cases s with
  | none => exact takes_optional_null _ _
  | some s => exact (takes_text s htype).optional (by rintro ⟨⟩)

theorem takes_optional_time {a : Option Instant} {type : ColumnType} (htype : type.isTime = true)
    (h : ∀ b ∈ a, b.IsStamp) : time.optional.Takes type (a.elim .null .time) a := by
  cases a with
  | none => exact takes_optional_null _ _
  | some a => exact (takes_time htype (h a rfl)).optional (by rintro ⟨⟩)

end Reading

namespace Row

variable {row : Row} {name : String} {p : Param}

def Keeps (row : Row) (name : String) (p : Param) : Prop :=
  ∃ c, row.find? name = some (⟨name, columnType name⟩, c) ∧ Cell.Keeps c p

theorem Keeps.field {α : Type} {r : Reading α} {a : α} (h : row.Keeps name p)
    (ht : r.Takes (columnType name) p a) : row.field name r = .ok a := by
  obtain ⟨c, hfind, hc⟩ := h
  rw [Row.field, get, hfind]
  simp only [ht c hc]
  rfl

def ofCells (names : List String) (cells : List Cell) : Row :=
  ⟨names.map fun name => ⟨name, columnType name⟩, cells⟩

variable {names : List String} {cells : List Cell}

theorem find?_ofCells (hnames : names.Nodup) (hlength : names.length ≤ cells.length)
    {name : String} {c : Cell} (hmem : (name, c) ∈ names.zip cells) :
    (ofCells names cells).find? name = some (⟨name, columnType name⟩, c) := by
  let declare (q : String × Cell) : Column × Cell := (⟨q.1, columnType q.1⟩, q.2)
  have hzip : (ofCells names cells).columns.zip (ofCells names cells).cells =
      (names.zip cells).map declare := by
    rw [ofCells, List.zip_map_left]
    rfl
  have hkeys : ((names.zip cells).map Prod.fst).Nodup := by
    rwa [List.map_fst_zip hlength]
  cases hfind : (ofCells names cells).find? name with
  | none =>
    rw [find?, hzip, List.find?_eq_none] at hfind
    have hother := hfind (declare (name, c)) (by simpa using ⟨name, c, hmem, rfl⟩)
    simp [declare] at hother
  | some found =>
    rw [find?, hzip] at hfind
    have hname := List.find?_some hfind
    obtain ⟨q, hq, rfl⟩ := List.mem_map.mp (List.mem_reverse.mp (List.mem_of_find?_eq_some hfind))
    rw [List.inj_on_of_nodup_map hkeys hq hmem (by simpa [declare] using hname)]

theorem keeps_ofCells {params : List Param} (hnames : names.Nodup)
    (hlength : names.length = cells.length) (hcells : List.Forall₂ Cell.Keeps cells params) :
    List.Forall₂ (ofCells names cells).Keeps names params := by
  rw [List.forall₂_iff_get]
  refine ⟨hlength.trans hcells.length_eq, fun i h₁ h₂ => ?_⟩
  have hi : i < cells.length := by omega
  refine ⟨cells[i], find?_ofCells hnames (Nat.le_of_eq hlength) ?_, hcells.get hi h₂⟩
  exact List.mem_iff_getElem.mpr ⟨i, by simp; omega, by simp⟩

end Row

end Database

end ParcelDesk

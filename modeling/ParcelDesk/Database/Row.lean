import ParcelDesk.Database.Statement

/-!
Rows of a reply and their values. A value is wanted of some type; the column has to have a type that
can hold it, unless the cell is null, and the cell has to lie within the type's bounds.
-/

namespace ParcelDesk.Database

structure Row where
  columns : List Column
  cells : List Cell

/-- How values of a type are taken out of cells: the column types they come from, and the value
of a null, if it has one. -/
structure Reading (α : Type) where
  accepts : ColumnType → Bool
  absent : Option α
  read : Cell → Except CellFlaw α

namespace ColumnType

def isSigned : ColumnType → Bool
  | tinyint | smallint | int | bigint => true
  | _ => false

def isText : ColumnType → Bool
  | text | varchar => true
  | _ => false

def isTime : ColumnType → Bool
  | timestamp | datetime => true
  | _ => false

end ColumnType

namespace ClockReading

def date (r : ClockReading) : Time.Date := ⟨r.year, r.month, r.day⟩

/-- Microseconds past the last one belong to a leap second, which only ends a minute. -/
def hasTime (r : ClockReading) : Bool :=
  r.hour < 24 && r.minute < 60 && r.second < 60 &&
    (r.micros < 1000000 || (r.second = 59 && r.micros < 2000000))

def instant (r : ClockReading) : Except CellFlaw Instant :=
  if !r.date.valid then .error (.invalidDate r)
  else if !r.hasTime then .error (.invalidTime r)
  else
    .ok ⟨r.date.toDays * 86400 + (r.hour * 3600 + r.minute * 60 + r.second : Nat), r.micros * 1000⟩

/-- The reading of an instant, cut to microseconds. -/
def ofInstant (a : Instant) : ClockReading :=
  { year := a.date.year.toNat, month := a.date.month, day := a.date.day
    hour := a.hour, minute := a.minute, second := a.secondOfDay % 60, micros := a.nanos / 1000 }

/-- Date and time of day with six digits for the fraction of the second. -/
def text (r : ClockReading) : String :=
  String.ofList (Decimal.paddedDigits 4 r.year ++ '-' :: Instant.two r.month ++ '-' ::
    Instant.two r.day ++ ' ' :: Instant.two r.hour ++ ':' :: Instant.two r.minute ++ ':' ::
    Instant.two r.second ++ '.' :: Decimal.paddedDigits 6 r.micros)

end ClockReading

namespace Reading

/-- Whole numbers between two bounds. -/
def within (accepts : ColumnType → Bool) (low high : Int) : Reading Int where
  accepts := accepts
  absent := none
  read
    | .int n => if n < low then .error .tooSmall else if high < n then .error .tooLarge else .ok n
    | _ => .error .unexpectedNull

def int64 : Reading Int := within ColumnType.isSigned (-0x8000000000000000) 0x7FFFFFFFFFFFFFFF

def int32 : Reading Int := within ColumnType.isSigned (-0x80000000) 0x7FFFFFFF

def int8 : Reading Int := within ColumnType.isSigned (-0x80) 0x7F

/-- Truth values; every number but zero is true. -/
def bool : Reading Bool where
  accepts t := t.isSigned || t = .bigintUnsigned
  absent := none
  read c := (int8.read c).map (· ≠ 0)

def real : Reading Float where
  accepts t := t = .double
  absent := none
  read
    | .real x => .ok x
    | _ => .error .unexpectedNull

def text : Reading String where
  accepts := ColumnType.isText
  absent := none
  read
    | .text s => .ok s
    | _ => .error .unexpectedNull

def time : Reading Instant where
  accepts := ColumnType.isTime
  absent := none
  read
    | .time r => r.instant
    | _ => .error .unexpectedNull

/-- The same values, and nothing for a null. -/
def optional {α : Type} (r : Reading α) : Reading (Option α) where
  accepts := r.accepts
  absent := some none
  read c := (r.read c).map some

/-- The value of a cell in a column. -/
def ofCell {α : Type} (r : Reading α) (type : ColumnType) : Cell → Except CellFlaw α
  | .null =>
    match r.absent with
    | some a => .ok a
    | none => .error .unexpectedNull
  | c => if r.accepts type then r.read c else .error .mismatched

end Reading

namespace Row

/-- The column of a name and its cell, the last one of several. -/
def find? (row : Row) (name : String) : Option (Column × Cell) :=
  (row.columns.zip row.cells).reverse.find? fun (c, _) => c.name == name

/-- The value under a column name. -/
def get {α : Type} (row : Row) (name : String) (r : Reading α) : Except Fault α :=
  match row.find? name with
  | none => .error (.noColumn name)
  | some (column, cell) =>
    (r.ofCell column.type cell).mapError fun flaw => .cell ("\"" ++ name ++ "\"") flaw

/-- The value of the first column. -/
def first {α : Type} (row : Row) (r : Reading α) : Except Fault α :=
  match row.columns, row.cells with
  | column :: _, cell :: _ => (r.ofCell column.type cell).mapError fun flaw => .cell "0" flaw
  | _, _ => .error (.outside 0 0)

end Row

namespace Talk

/-- Sends a query, and answers all rows. -/
def fetchAll (s : Statement) : Talk Fault (List Row) := do
  match ← send s with
  | .done _ _ => pure []
  | .rows columns rows => pure (rows.map (Row.mk columns))

/-- Sends a query, and answers its first row, if there is one. -/
def fetchOptional (s : Statement) : Talk Fault (Option Row) := do
  pure (← fetchAll s).head?

/-- Sends a query that has to have a row. -/
def fetchOne (s : Statement) : Talk Fault Row := do
  match ← fetchOptional s with
  | some row => pure row
  | none => throw .noRow

end Talk

end ParcelDesk.Database

import ParcelDesk.Decimal.Notation
import ParcelDesk.Task
import ParcelDesk.Time.Instant

/-!
Talking with a database server: statements with bound values, the server's replies, and what can go
wrong on the way.
-/

namespace ParcelDesk.Database

/-- A value bound to a place of a statement. -/
inductive Param where
  | null
  | int (n : Int)
  | text (s : String)
  | real (x : Float)
  | time (a : Instant)

namespace Param

def ofText? : Option String → Param
  | none => null
  | some s => text s

/-- Truth values are stored as one and zero. -/
def bool (b : Bool) : Param := int (if b then 1 else 0)

end Param

structure Statement where
  sql : String
  params : List Param := []

inductive ColumnType where
  | tinyint
  | smallint
  | int
  | bigint
  | bigintUnsigned
  | double
  | timestamp
  | datetime
  | text
  | varchar
  | blob
deriving DecidableEq, Repr

/-- A date and a time of day as the server writes them; neither has to exist. -/
structure ClockReading where
  year : Nat
  month : Nat
  day : Nat
  hour : Nat := 0
  minute : Nat := 0
  second : Nat := 0
  micros : Nat := 0
deriving DecidableEq, Repr

/-- A value of a row. The server has a time without a date, which is no time at all. -/
inductive Cell where
  | null
  | int (n : Int)
  | real (x : Float)
  | text (s : String)
  | noTime
  | time (reading : ClockReading)

structure Column where
  name : String
  type : ColumnType
deriving DecidableEq, Repr

structure ServerError where
  code : Nat
  state : Option String
  text : String
deriving DecidableEq, Repr

namespace ServerError

def message (e : ServerError) : String :=
  let state := (e.state.map fun s => " (" ++ s ++ ")").getD ""
  "error returned from database: " ++ String.ofList (Decimal.naturalDigits e.code) ++ state ++ ": " ++
    e.text

/-- A row would have repeated a value that stands once in its column. -/
def isUniqueViolation (e : ServerError) : Bool := [1022, 1062, 1169, 1586, 1859].contains e.code

end ServerError

/-- Rows that were asked for, or the count of rows that a command changed. -/
inductive Reply where
  | done (affected lastId : Nat)
  | rows (columns : List Column) (rows : List (List Cell))

/-- Why a cell is not the value that is wanted. -/
inductive CellFlaw where
  | mismatched
  | unexpectedNull
  | tooLarge
  | tooSmall
  | invalidDate (r : ClockReading)
  | invalidTime (r : ClockReading)
deriving DecidableEq, Repr

def CellFlaw.message : CellFlaw → String
  | mismatched => "mismatched types"
  | unexpectedNull => "unexpected null; try decoding as an `Option`"
  | tooLarge => "number too large to fit in target type"
  | tooSmall => "number too small to fit in target type"
  | invalidDate r => s!"server returned invalid date: {r.year}/{r.month}/{r.day}"
  | invalidTime r =>
    "server returned invalid time: " ++
      String.ofList (Instant.two r.hour ++ ':' :: Instant.two r.minute ++ ':' :: Instant.two r.second) ++
      s!"; micros: {r.micros}"

/-- What can go wrong with a statement. A column is told by its quoted name or by its number. -/
inductive Fault where
  | closed
  | refused (e : ServerError)
  | noRow
  | noColumn (name : String)
  | outside (index count : Nat)
  | cell (column : String) (flaw : CellFlaw)
deriving DecidableEq, Repr

def Fault.message : Fault → String
  | closed => "attempted to acquire a connection on a closed pool"
  | refused e => e.message
  | noRow => "no rows returned by a query that expected to return at least one row"
  | noColumn name => "no column found for name: " ++ name
  | outside index count =>
    s!"column index out of bounds: the len is {count}, but the index is {index}"
  | cell column flaw => "error occurred while decoding column " ++ column ++ ": " ++ flaw.message

/-- What a program can ask of a database: a connection, a statement, or to undo what a transaction
has done. -/
inductive Call : Type → Type where
  | acquire : Call (Except Fault Unit)
  | send (s : Statement) : Call (Except Fault Reply)
  | rollback : Call Unit

/-- A conversation with a database. -/
abbrev Talk (ε α : Type) := Attempt Call ε α

namespace Talk

def send (s : Statement) : Talk Fault Reply := Attempt.of (.send s)

/-- Sends a command, and answers how many rows it changed and the id of the row it added. -/
def execute (s : Statement) : Talk Fault (Nat × Nat) := do
  match ← send s with
  | .done affected lastId => pure (affected, lastId)
  | .rows _ _ => pure (0, 0)

/-- Runs a body between the start and the end of a transaction, which is undone if the body or its
end fails. -/
def transaction {ε α : Type} (start finish : Fault → ε) (body : Talk ε α) : Talk ε α := do
  let _ ← Attempt.mapError start (send ⟨"BEGIN", []⟩)
  let work : Talk ε α := do
    let a ← body
    let _ ← Attempt.mapError finish (send ⟨"COMMIT", []⟩)
    pure a
  ExceptT.mk do
    match ← ExceptT.run work with
    | .ok a => pure (.ok a)
    | .error e =>
      Task.of .rollback
      pure (.error e)

end Talk

end ParcelDesk.Database

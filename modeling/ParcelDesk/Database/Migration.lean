import ParcelDesk.Database.Schema

/-!
Migrations bring a database to the tables of the service, each within a transaction of its own. The
server remembers which versions it has; a version that was left half applied, that is unknown, or
whose text has changed since stops the run.
-/

namespace ParcelDesk.Database

structure Migration where
  version : Nat
  sql : String

/-- A version that the server has: it was finished, and its text is still the same. -/
structure Applied where
  version : Nat
  finished : Bool := true
  unchanged : Bool := true
deriving DecidableEq, Repr

inductive MigrationFlaw where
  | execute (fault : Fault)
  | unfinished (version : Nat)
  | unknown (version : Nat)
  | changed (version : Nat)
deriving DecidableEq, Repr

def MigrationFlaw.message : MigrationFlaw → String
  | execute fault => "while executing migrations: " ++ fault.message
  | unfinished v =>
    s!"migration {v} is partially applied; fix and remove row from `_sqlx_migrations` table"
  | unknown v => s!"migration {v} was previously applied but is missing in the resolved migrations"
  | changed v => s!"migration {v} was previously applied but has been modified"

namespace Migration

def all : List Migration :=
  [⟨20240101000001, Table.users.sql⟩, ⟨20240101000002, Table.orders.sql⟩,
    ⟨20240101000003, Table.accessTokens.sql ++ " " ++ Table.refreshTokens.sql⟩]

def least? (vs : List Nat) : Option Nat := vs.min?

/-- What is wrong with the versions that the server has, before any migration runs. -/
def standingFlaw? (applied : List Applied) : Option MigrationFlaw :=
  let unfinished := (applied.filter fun a => !a.finished).map Applied.version
  let unknown := (applied.map Applied.version).filter fun v => all.all fun m => m.version != v
  ((least? unfinished).map .unfinished).or ((least? unknown).map .unknown)

/-- Runs one migration. -/
def apply (m : Migration) : Talk MigrationFlaw Unit :=
  Talk.transaction .execute .execute do
    let _ ← Attempt.mapError .execute (Talk.send ⟨m.sql, []⟩)
    pure ()

/-- Runs the migrations that the server lacks, in their order, and answers what it has then. -/
def applyAll : List Migration → List Applied →
    Task Call (Except MigrationFlaw Unit × List Applied)
  | [], applied => pure (.ok (), applied)
  | m :: more, applied =>
    match applied.find? fun a => a.version == m.version with
    | some a =>
      if a.unchanged then applyAll more applied else pure (.error (.changed m.version), applied)
    | none => do
      match ← ExceptT.run m.apply with
      | .ok () => applyAll more (applied ++ [⟨m.version, true, true⟩])
      | .error flaw => pure (.error flaw, applied)

/-- Brings the server up to date, given what it has. -/
def run (applied : List Applied) : Task Call (Except MigrationFlaw Unit × List Applied) := do
  match ← Task.of .acquire with
  | .error fault => pure (.error (.execute fault), applied)
  | .ok () =>
    match standingFlaw? applied with
    | some flaw => pure (.error flaw, applied)
    | none => applyAll all applied

end Migration

end ParcelDesk.Database

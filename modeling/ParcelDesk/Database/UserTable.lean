import ParcelDesk.Account.Basic
import ParcelDesk.Database.OrderTable

/-!
Accounts in the database. Nothing equals a null, so an absent name or email finds nobody.
-/

namespace ParcelDesk.Database.UserTable

def insertColumns : List String := ["user_name", "email", "password", "created_at", "updated_at"]

def insertParams (u : User) : List Param :=
  [.text u.name, .text u.email, .text u.passwordHash, .time u.createdAt, .time u.updatedAt]

def columns : List String := "id" :: insertColumns ++ ["deleted_at"]

def ofRow (row : Row) : Except Failure User := do
  let id ← row.field "id" Reading.int64
  let name ← row.field "user_name" Reading.text
  let email ← row.field "email" Reading.text
  let passwordHash ← row.field "password" Reading.text
  let createdAt ← row.field "created_at" Reading.time
  let updatedAt ← row.field "updated_at" Reading.time
  let deletedAt ← row.field "deleted_at" Reading.time.optional
  pure ⟨id, name, email, passwordHash, createdAt, updatedAt, deletedAt⟩

/-- The live account of a name or an email. -/
def findByLogin (name email : Option String) : Talk Failure (Option User) := do
  let row ← Attempt.mapError (persistence "Failed to find user") <| Talk.fetchOptional
    ⟨"SELECT " ++ Table.listed columns ++ " FROM users WHERE (user_name = ? OR email = ?) AND " ++
        "deleted_at IS NULL LIMIT 1", [.ofText? name, .ofText? email]⟩
  Attempt.ofExcept (row.mapM ofRow)

/-- Adds an account. Names and emails stand once. -/
def create (u : User) : Talk Failure User := do
  let fail (fault : Fault) : Failure :=
    match fault with
    | .refused e =>
      if e.isUniqueViolation then .invalid (.single "user_name" "User already registered")
      else persistence "Failed to create user" fault
    | _ => persistence "Failed to create user" fault
  let (_, lastId) ← Attempt.mapError fail
    (Talk.execute (insertion "users" "" insertColumns (insertParams u)))
  pure { u with id := signedId lastId }

end ParcelDesk.Database.UserTable

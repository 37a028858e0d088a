import ParcelDesk.Account.Basic
import ParcelDesk.Failure

/-!
The store of accounts in memory. A name and an email belong to one account only, also when that
account has been deleted.
-/

namespace ParcelDesk

structure UserStore where
  rows : List User := []

namespace UserStore

/-- Some account has the name, or the email in any case. -/
def isTaken (s : UserStore) (name email : String) : Bool :=
  s.rows.any fun u => u.name == name || Text.sameIgnoringAsciiCase u.email email

/-- One more than the greatest id, as a signed word. -/
def nextId (s : UserStore) : Int :=
  match (s.rows.map User.id).max? with
  | none => 1
  | some m => (Int64.ofInt (m + 1)).toInt

/-- Adds an account. One without an id gets the next one, and any other id is taken over. -/
def insert (s : UserStore) (u : User) : Except Failure User × UserStore :=
  if s.isTaken u.name u.email then
    (.error (.invalid (FieldErrors.single "user_name" "User already registered")), s)
  else
    let row := { u with id := if u.id = 0 then s.nextId else u.id }
    (.ok row, ⟨s.rows.filter (fun v => v.id ≠ row.id) ++ [row]⟩)

/-- An active account that is meant by the name or the email. -/
def find (s : UserStore) (name email : Option String) : Option User :=
  s.rows.find? fun u => u.isActive && u.answersTo name email

end UserStore

end ParcelDesk

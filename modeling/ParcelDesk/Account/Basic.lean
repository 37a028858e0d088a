import ParcelDesk.FieldErrors
import ParcelDesk.Json.Decode
import ParcelDesk.Text.Basic
import ParcelDesk.Text.Email
import ParcelDesk.Time.Instant

/-!
Accounts that can log in and own orders, and the form of a login: a name, an email or both, and a
password. Blank identifiers count as absent.
-/

namespace ParcelDesk

structure User where
  id : Int
  name : String
  email : String
  passwordHash : String
  createdAt : Instant
  updatedAt : Instant
  deletedAt : Option Instant
deriving DecidableEq, Repr

namespace User

def isActive (u : User) : Bool := u.deletedAt.isNone

/-- The account is meant by the name, or by the email in any case. -/
def answersTo (u : User) (name email : Option String) : Bool :=
  name.any (· == u.name) || email.any (Text.sameIgnoringAsciiCase · u.email)

def members (u : User) : List (String × Json) :=
  [("id", .int u.id), ("user_name", .str u.name), ("email", .str u.email),
    ("created_at", u.createdAt.toJson), ("updated_at", u.updatedAt.toJson),
    ("deleted_at", .opt Instant.toJson u.deletedAt)]

/-- An account as it may be shown: the password hash stays inside. -/
def toJson (u : User) : Json := .obj u.members

def decode : Json.Decoder User :=
  Json.Record.decode "User" <|
    mk <$> .required "id" Json.int64 <*> .required "user_name" Json.string
      <*> .required "email" Json.string <*> .required "password_hash" Json.string
      <*> .required "created_at" Instant.decode <*> .required "updated_at" Instant.decode
      <*> .nullable "deleted_at" Instant.decode

end User

structure LoginForm where
  name : Option String
  email : Option String
  password : String
deriving DecidableEq, Repr

namespace LoginForm

def identifier : Json.Decoder (Option String) := fun n =>
  (Json.option Json.string n).map (Option.filter Text.notBlank)

def decode : Json.Decoder LoginForm :=
  Json.Record.decode "LoginRequest" <|
    mk <$> .defaulted "username" none identifier <*> .defaulted "email" none identifier
      <*> .defaulted "password" "" Json.string

def toJson (f : LoginForm) : Json :=
  .obj [("username", .opt .str f.name), ("email", .opt .str f.email), ("password", .str f.password)]

/-- The complaints about the form itself. -/
def complaints (f : LoginForm) : Complaints :=
  (if f.name.any fun s => 255 < s.length then
    [("username", "The username may not be greater than 255 characters.")] else []) ++
  (if f.email.any fun s => !Text.Email.isAddress s then
    [("email", "The email must be a valid email address.")] else []) ++
  (if f.password.isEmpty then [("password", "The password field is required.")] else [])

end LoginForm

end ParcelDesk

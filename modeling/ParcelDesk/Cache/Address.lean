import ParcelDesk.Cache.Remote
import ParcelDesk.Web.Query
import ParcelDesk.Web.Url

/-!
Addresses of cache servers: a host with the number of a database as the path, or the path of a
socket with everything else in the query.
-/

namespace ParcelDesk.Cache

inductive AddressFlaw where
  | unreadable
  | noHost
  | noPath
  | insecure
  | invalidDatabase
deriving DecidableEq, Repr

def AddressFlaw.message (f : AddressFlaw) : String :=
  let text := match f with
    | unreadable => "Redis URL did not parse"
    | noHost => "Missing hostname"
    | noPath => "Missing path"
    | insecure => "can\x27t connect with TLS, the feature is not enabled"
    | invalidDatabase => "Invalid database number"
  described text "InvalidClientConfig" none

inductive Place where
  | host (name : String) (port : Nat)
  | socket (path : String)
deriving DecidableEq, Repr

structure Address where
  place : Place
  signIn : SignIn
deriving DecidableEq, Repr

namespace Address

def readDatabase (cs : List Char) : Except AddressFlaw Int :=
  (Decimal.readInt64 cs).mapError fun _ => .invalidDatabase

def ofHost (u : Web.Url) : Except AddressFlaw Address := do
  match u.host with
  | none => throw .noHost
  | some host =>
    if u.scheme = "rediss" then throw .insecure
    let path := ((u.path.toList.dropWhile (· = '/')).reverse.dropWhile (· = '/')).reverse
    let database ← if path.isEmpty then pure 0 else readDatabase path
    pure {
      place := .host host (u.port.getD 6379)
      signIn :=
        { user := if u.user.isEmpty then none else some (SignIn.unescape u.user.toList)
          password := u.password.map fun p => SignIn.unescape p.toList
          database } }

def ofSocket (u : Web.Url) : Except AddressFlaw Address := do
  if u.host.any (· ≠ "localhost") || u.path.toList.head? ≠ some '/' then throw .noPath
  let given := Web.Query.pairs (u.query.getD "")
  let last (name : String) := given.reverse.lookup name
  let database ← match last "db" with
    | none => pure 0
    | some text => readDatabase text.toList
  pure ⟨.socket u.path, { user := last "user", password := last "pass", database }⟩

def ofText (s : String) : Except AddressFlaw Address := do
  match Web.Url.ofText s with
  | .error _ => throw .unreadable
  | .ok u =>
    if u.scheme = "redis" || u.scheme = "rediss" then ofHost u
    else if u.scheme = "redis+unix" || u.scheme = "unix" then ofSocket u
    else throw .unreadable

end Address

end ParcelDesk.Cache

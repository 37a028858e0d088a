import ParcelDesk.Text.Quoted
import ParcelDesk.Web.Query
import ParcelDesk.Web.Url

/-!
What the address of a database says of the connection: host, credentials, the database's name, and
from the query how it is secured and how many prepared statements are kept.
-/

namespace ParcelDesk.Database

inductive SslMode where
  | disabled
  | preferred
  | required
  | verifyCa
  | verifyIdentity
deriving DecidableEq, Repr

/-- The names of the modes, in any case. -/
def SslMode.ofName? (s : String) : Option SslMode :=
  match String.ofList (s.toList.map Char.toLower) with
  | "disabled" => some disabled
  | "preferred" => some preferred
  | "required" => some required
  | "verify_ca" => some verifyCa
  | "verify_identity" => some verifyIdentity
  | _ => none

inductive EndpointFlaw where
  | url (flaw : Web.UrlFlaw)
  | sslMode (name : String)
  | cacheCapacity (flaw : Decimal.IntegerFlaw)
deriving DecidableEq, Repr

/-- The lead of what is wrong with a configuration. -/
def flawedConfiguration (text : String) : String := "error with configuration: " ++ text

def EndpointFlaw.message : EndpointFlaw → String
  | url flaw => flawedConfiguration flaw.message
  | sslMode name =>
    flawedConfiguration
      (flawedConfiguration ("unknown value " ++ Text.quoted name ++ " for `ssl_mode`"))
  | cacheCapacity flaw => flawedConfiguration flaw.message

structure Endpoint where
  host : String := "localhost"
  port : Nat := 3306
  user : String := "root"
  password : Option String := none
  database : Option String := none
  sslMode : SslMode := .preferred
  cacheCapacity : Nat := 100
deriving DecidableEq, Repr

namespace Endpoint

def put (e : Endpoint) : String × String → Except EndpointFlaw Endpoint
  | ("sslmode", v) | ("ssl-mode", v) =>
    match SslMode.ofName? v with
    | some mode => .ok { e with sslMode := mode }
    | none => .error (.sslMode v)
  | ("statement-cache-capacity", v) =>
    match Decimal.readNatural 0xFFFFFFFFFFFFFFFF v.toList with
    | .ok n => .ok { e with cacheCapacity := n }
    | .error flaw => .error (.cacheCapacity flaw)
  | _ => .ok e

def ofUrl (u : Web.Url) : Endpoint :=
  let plain (s : String) := String.ofList (Text.Percent.decodeText s.toList)
  let path := u.path.toList.dropWhile (· = '/')
  let base : Endpoint := {}
  { base with
    host := (u.host.map plain).getD base.host
    port := u.port.getD base.port
    user := if u.user.isEmpty then base.user else plain u.user
    password := u.password.map plain
    database := if path.isEmpty then none else some (plain (String.ofList path)) }

/-- Later settings of the query win over earlier ones. -/
def ofText (s : String) : Except EndpointFlaw Endpoint := do
  let u ← (Web.Url.ofText s).mapError .url
  (Web.Query.pairs (u.query.getD "")).foldlM put (ofUrl u)

end Endpoint

end ParcelDesk.Database

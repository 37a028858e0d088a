import ParcelDesk.Decimal.Reading
import ParcelDesk.Settings.Json
import ParcelDesk.Settings.Tree
import ParcelDesk.Text.Basic

/-!
Taking settings out of a tree. Conversions are lenient: texts are made of numbers and truth values,
numbers of texts and truth values, and whole numbers are cut to the width of their field.
-/

namespace ParcelDesk.Settings

/-- Why no settings come out of the sources. They are refused, but for a key that goes before the
first item of a list: this one is a crash. -/
inductive LoadFlaw where
  | wrongType (found expected key : String) (origin : Option String)
  | wrongShape (found expected : String)
  | missing (field : String)
  | tooShort (length : Nat) (expected : String)
  | noVariant (title name : String)
  | notVariant (title : String)
  | unreadable (file : String)
  | beforeFirst (key : String)
  | refused (flaw : SettingsFlaw)
deriving DecidableEq, Repr

namespace LoadFlaw

def message : LoadFlaw → String
  | wrongType found expected key origin =>
    "invalid type: " ++ found ++ ", expected " ++ expected ++
      (if key.isEmpty then "" else " for key `" ++ key ++ "`") ++
      ((origin.map (" in " ++ ·)).getD "")
  | wrongShape found expected => "invalid type: " ++ found ++ ", expected " ++ expected
  | missing field => "missing field `" ++ field ++ "`"
  | tooShort length expected => s!"invalid length {length}, expected {expected}"
  | noVariant title name => "enum " ++ title ++ " does not have variant constructor " ++ name
  | notVariant title =>
    "value of enum " ++ title ++
      " should be represented by either string or table with exactly one key"
  | unreadable file => file
  | beforeFirst _ => "attempt to subtract with overflow"
  | refused flaw => flaw.message

/-- The same flaw, seen from one step further out. -/
def below (step : String) : LoadFlaw → LoadFlaw
  | wrongType found expected key origin =>
    let dot := if key.isEmpty || key.startsWith "[" then "" else "."
    wrongType found expected (step ++ dot ++ key) origin
  | other => other

def belowItem (n : Nat) : LoadFlaw → LoadFlaw
  | wrongType found expected key origin => wrongType found expected (s!"[{n}]" ++ key) origin
  | other => other

end LoadFlaw

abbrev Typed (α : Type) := Tree → Except LoadFlaw α

namespace Tree

def origin : Tree → Option String
  | scalar o _ => o
  | list o _ => o
  | table o _ => o

/-- The value in a message about a conversion that failed. -/
def describe : Tree → String
  | scalar _ .nothing => "unit value"
  | scalar _ (.bool b) => s!"boolean `{b}`"
  | scalar _ (.int n) => s!"integer 64 bit `{n}`"
  | scalar _ (.real x) => "floating point `" ++ Decimal.plain x ++ "`"
  | scalar _ (.text s) => "string " ++ Text.quoted s
  | list _ _ => "sequence"
  | table _ _ => "map"

/-- A number with a point in it, if it is finite. -/
def pointed (x : Float) : String :=
  let s := Decimal.plain x
  if s.toList.contains '.' || !x.isFinite then s else s ++ ".0"

/-- The value in a message about a shape that does not fit. -/
def describeShape : Tree → String
  | scalar _ (.int n) => s!"integer `{n}`"
  | scalar _ (.real x) => "floating point `" ++ pointed x ++ "`"
  | t => t.describe

def mismatch {α : Type} (t : Tree) (expected : String) : Except LoadFlaw α :=
  .error (.wrongType t.describe expected "" t.origin)

end Tree

namespace Typed

def trueWords : List String := ["true", "on", "yes"]

def falseWords : List String := ["false", "off", "no"]

/-- Words for truth values, in any case. -/
def ofWord? (s : String) : Option Bool :=
  let w := Text.fold s
  if trueWords.contains w then some true else if falseWords.contains w then some false else none

def lower (s : String) : String := String.ofList (s.toList.map Char.toLower)

/-- Truth values. A text that is none stands in lower case in the message. -/
def boolean : Typed Bool
  | .scalar _ (.bool b) => .ok b
  | .scalar _ (.int n) => .ok (n ≠ 0)
  | .scalar _ (.real x) => .ok (x != 0)
  | .scalar o (.text s) =>
    match ofWord? s, s with
    | some b, _ => .ok b
    | none, "1" => .ok true
    | none, "0" => .ok false
    | none, _ => Tree.mismatch (.scalar o (.text (lower s))) "a boolean"
  | t => t.mismatch "a boolean"

/-- The whole number nearest to a double, a half going away from zero, within the bounds. -/
def rounded (low high : Int) (x : Float) : Int :=
  if x.isNaN then 0
  else
    let n : Int := if x < 0 then -((-x).round.toUInt64.toNat : Int) else x.round.toUInt64.toNat
    max low (min high n)

def int64 : Typed Int
  | .scalar _ (.int n) => .ok n
  | .scalar _ (.bool b) => .ok (if b then 1 else 0)
  | .scalar _ (.real x) => .ok (rounded (-0x8000000000000000) 0x7FFFFFFFFFFFFFFF x)
  | t@(.scalar _ (.text s)) =>
    match ofWord? s with
    | some b => .ok (if b then 1 else 0)
    | none =>
      match Decimal.readInt64 s.toList with
      | .ok n => .ok n
      | .error _ => t.mismatch "an integer"
  | t => t.mismatch "an integer"

/-- Natural numbers, cut to so many values. -/
def natural (bound : Nat) : Typed Nat
  | t@(.scalar _ (.int n)) =>
    if 0 ≤ n then .ok (n.toNat % bound) else t.mismatch "an unsigned 64 bit or less integer"
  | .scalar _ (.bool b) => .ok (if b then 1 else 0)
  | .scalar _ (.real x) => .ok ((rounded 0 0xFFFFFFFFFFFFFFFF x).toNat % bound)
  | t@(.scalar _ (.text s)) =>
    match ofWord? s with
    | some b => .ok (if b then 1 else 0)
    | none =>
      match Decimal.readNatural 0xFFFFFFFFFFFFFFFF s.toList with
      | .ok n => .ok (n % bound)
      | .error _ => t.mismatch "an integer"
  | t => t.mismatch "an integer"

def text : Typed String
  | .scalar _ (.text s) => .ok s
  | .scalar _ (.bool b) => .ok (if b then "true" else "false")
  | .scalar _ (.int n) => .ok (String.ofList (Decimal.integerDigits n))
  | .scalar _ (.real x) => .ok (Decimal.plain x)
  | t => t.mismatch "a string"

def items {α : Type} (typed : Typed α) : Nat → List Tree → Except LoadFlaw (List α)
  | _, [] => .ok []
  | n, t :: ts => do
    let a ← (typed t).mapError (.belowItem n)
    pure (a :: (← items typed (n + 1) ts))

def list {α : Type} (typed : Typed α) : Typed (List α)
  | .list _ ts => items typed 0 ts
  | t => .error (.wrongShape t.describeShape "a sequence")

/-- One of several named values. -/
def oneNamed {α : Type} (title : String) (variants : List (String × α)) : Typed α
  | .scalar _ (.text s) => named s
  | .table _ [(k, _)] => named k
  | _ => .error (.notVariant title)
where
  named (s : String) : Except LoadFlaw α :=
    match variants.lookup s with
    | some a => .ok a
    | none => .error (.noVariant title s)

/-- The fields of a record, from a table by name or from a list by position. -/
structure Fields where
  title : String
  count : Nat
  table : List (String × Tree)
  list : Option (List Tree)

def fields (title : String) (count : Nat) : Typed Fields
  | .table _ ms => .ok ⟨title, count, ms, none⟩
  | .list _ ts => .ok ⟨title, count, [], some ts⟩
  | t => .error (.wrongShape t.describeShape ("struct " ++ title))

namespace Fields

/-- A field, under its name and position. -/
def get {α : Type} (f : Fields) (position : Nat) (name : String) (default : Option α)
    (typed : Typed α) : Except LoadFlaw α :=
  match f.list with
  | none =>
    match f.table.lookup name, default with
    | some t, _ => (typed t).mapError (.below name)
    | none, some a => .ok a
    | none, none => .error (.missing name)
  | some ts =>
    match ts[position]?, default with
    | some t, _ => (typed t).mapError (.belowItem position)
    | none, some a => .ok a
    | none, none => .error (.tooShort position s!"struct {f.title} with {f.count} elements")

end Fields

end Typed

open Typed (natural int64 text boolean)

def word16 : Typed Nat := natural 0x10000

def word32 : Typed Nat := natural 0x100000000

def word64 : Typed Nat := natural 0x10000000000000000

def serverOf : Typed ServerSettings := fun t => do
  let f ← Typed.fields "ServerConfig" 6 t
  pure ⟨← f.get 0 "host" none text, ← f.get 1 "port" none word16, ← f.get 2 "workers" (some 0) word64,
    ← f.get 3 "shutdown_timeout" (some 10) word64, ← f.get 4 "keep_alive" (some 75) word64,
    ← f.get 5 "allowed_origins" (some []) (Typed.list text)⟩

def databaseOf : Typed DatabaseSettings := fun t => do
  let f ← Typed.fields "DatabaseConfig" 7 t
  pure ⟨← f.get 0 "url" none text, ← f.get 1 "max_connections" none word32,
    ← f.get 2 "connect_timeout" none word64, ← f.get 3 "idle_timeout" none word64,
    ← f.get 4 "max_lifetime" none word64, ← f.get 5 "run_migrations" (some true) boolean,
    ← f.get 6 "slow_query_threshold" (some 1000) word64⟩

def cacheOf : Typed CacheSettings := fun t => do
  let f ← Typed.fields "CacheConfig" 4 t
  pure ⟨← f.get 0 "url" none text, ← f.get 1 "connection_timeout" none word64,
    ← f.get 2 "max_retries" (some 3) word32, ← f.get 3 "retry_delay_ms" (some 100) word64⟩

def tokenOf : Typed TokenSettings := fun t => do
  let f ← Typed.fields "JwtConfig" 3 t
  pure ⟨← f.get 0 "secret" none text, ← f.get 1 "access_token_expiry" none int64,
    ← f.get 2 "refresh_token_expiry" none int64⟩

def authOf : Typed AuthSettings := fun t => do
  let f ← Typed.fields "AuthConfig" 3 t
  pure ⟨← f.get 0 "jwt" (some {}) tokenOf, ← f.get 1 "token_cache_ttl" (some 600) word64,
    ← f.get 2 "bcrypt_cost" (some 12) word32⟩

def ordersOf : Typed OrderSettings := fun t => do
  let f ← Typed.fields "OrderConfig" 4 t
  pure ⟨← f.get 0 "consignment_prefix" none text, ← f.get 1 "home_city" none int64,
    ← f.get 2 "default_page_size" none word32, ← f.get 3 "max_page_size" none word32⟩

def loggingOf : Typed LogSettings := fun t => do
  let f ← Typed.fields "LoggingConfig" 2 t
  pure ⟨← f.get 0 "level" none text,
    ← f.get 1 "format" (some .pretty) (Typed.oneNamed "LogFormat" LogFormat.all)⟩

/-- The settings of a whole tree. -/
def ofTree : Typed Settings := fun t => do
  let f ← Typed.fields "AppConfig" 7 t
  pure {
    environment := ← f.get 0 "environment" none (Typed.oneNamed "Environment" Environment.all)
    server := ← f.get 1 "server" none serverOf
    database := ← f.get 2 "database" none databaseOf
    cache := ← f.get 3 "cache" none cacheOf
    auth := ← f.get 4 "auth" none authOf
    orders := ← f.get 5 "orders" (some {}) ordersOf
    logging := ← f.get 6 "logging" (some {}) loggingOf }

end ParcelDesk.Settings

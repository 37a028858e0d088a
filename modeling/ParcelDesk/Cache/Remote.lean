import ParcelDesk.Cache.Memory
import ParcelDesk.Cache.Server
import ParcelDesk.Text.Bytes

/-!
The cache on a server: each operation as the commands that it sends, every command being sent again
after a rest as long as the server asks for it and the budget of attempts lasts. An operation of
two commands stops at its first failure.
-/

namespace ParcelDesk.Cache

/-- The longest rest that follows another rest, in milliseconds. -/
def longestRest : UInt64 := 5000

/-- How often a command is tried, and the first rest between two tries in milliseconds. -/
structure Patience where
  tries : Nat := 3
  rest : UInt64 := 0
deriving DecidableEq, Repr

/-- Tries again up to `n` times while `again` says so, with a rest that doubles. -/
def persist {α : Type} (again : Fault → Bool) : Nat → UInt64 → Talk α → Talk α
  | 0, _, talk => talk
  | n + 1, rest, talk => ExceptT.mk do
    match ← ExceptT.run talk with
    | .ok a => pure (.ok a)
    | .error e =>
      if again e then do
        Task.of (.rest rest)
        ExceptT.run (persist again n (min (rest * 2) longestRest) talk)
      else pure (.error e)

namespace Patience

/-- At least one try is made. -/
def retries (p : Patience) : Nat := max p.tries 1 - 1

/-- Asks as long as the failure is a passing one. -/
def ask {α : Type} (p : Patience) (command : List String) (read : Reply → Except Fault α) :
    Talk α :=
  persist Fault.isTransient p.retries p.rest (Talk.ask command read)

end Patience

/-- Who signs in, and to which of the numbered databases. -/
structure SignIn where
  user : Option String := none
  password : Option String := none
  database : Int := 0
deriving DecidableEq, Repr

namespace SignIn

def unescape (cs : List Char) : String := String.ofList (Text.Percent.decodeText cs)

/-- A name, a colon and a password with percent escapes; the name may be empty. -/
def ofText (info : String) (database : Int) : SignIn :=
  match info.toList.span (· ≠ ':') with
  | (user, password) =>
    { user := if user.isEmpty then none else some (unescape user)
      password := some (unescape (password.drop 1))
      database }

def command? (s : SignIn) : Option (List String) :=
  s.password.map fun password => "AUTH" :: (s.user.toList ++ [password])

/-- The password comes first, then the choice of a database other than the first. -/
def signIn (s : SignIn) : Talk Unit := do
  match s.command? with
  | some command => Attempt.mapError (fun _ => .loginRefused) (Talk.ask command Reply.asNothing)
  | none => pure ()
  if s.database ≠ 0 then
    Attempt.mapError (fun _ => .databaseRefused)
      (Talk.ask ["SELECT", String.ofList (Decimal.integerDigits s.database)] Reply.asNothing)

/-- Signs in anew after any failure. -/
def connect (s : SignIn) (p : Patience) : Talk Unit :=
  persist (fun _ => true) p.retries p.rest s.signIn

end SignIn

namespace Remote

variable (p : Patience)

def setWithExpiry (key value : String) (seconds : Nat) : Talk Unit :=
  p.ask ["SETEX", key, String.ofList (Decimal.naturalDigits seconds), value] Reply.asNothing

def get (key : String) : Talk (Option String) := p.ask ["GET", key] Reply.asText?

/-- Answers whether there was anything under the key. -/
def delete (key : String) : Talk Bool := do
  let count ← p.ask ["DEL", key] Reply.asCount
  pure (count > 0)

def isHealthy : Talk Bool := do
  let answer ← p.ask ["PING"] Reply.asText
  pure (answer = "PONG")

def addRanked (key member : String) (score : Int) : Talk Unit :=
  p.ask ["ZADD", key, String.ofList (Decimal.integerDigits score), member] Reply.asNothing

def removeRanked (key member : String) : Talk Unit :=
  p.ask ["ZREM", key, member] Reply.asNothing

def setFields (key : String) (fields : List (String × String)) : Talk Unit :=
  p.ask ("HMSET" :: key :: fields.flatMap fun (name, value) => [name, value]) Reply.asNothing

def storeOrder (o : Order) : Talk Unit := do
  setFields p (orderKey o.consignmentId) (orderFields o)
  addRanked p orderIndex o.consignmentId o.createdAt.seconds

def evictOrder (consignmentId : String) : Talk Unit := do
  let _ ← delete p (orderKey consignmentId)
  removeRanked p orderIndex consignmentId

end Remote

end ParcelDesk.Cache

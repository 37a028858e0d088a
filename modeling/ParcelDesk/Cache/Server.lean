import ParcelDesk.Decimal.Reading
import ParcelDesk.Task
import ParcelDesk.Text.Basic
import ParcelDesk.Text.Quoted

/-!
Talking with a cache server: commands as lists of words, the server's replies, how they are read,
and what can go wrong on the way.
-/

namespace ParcelDesk.Cache

inductive Reply where
  | none
  | okay
  | int (n : Int)
  | status (s : String)
  | text (s : String)
  | list (items : List Reply)

mutual

/-- A reply as messages show it. -/
def Reply.shown : Reply → String
  | none => "nil"
  | okay => "ok"
  | int n => "int(" ++ String.ofList (Decimal.integerDigits n) ++ ")"
  | status s => "status(" ++ Text.quoted s ++ ")"
  | text s => "string-data(\x27" ++ Text.quoted s ++ "\x27)"
  | list items => "bulk(" ++ ", ".intercalate (Reply.shownAll items) ++ ")"

def Reply.shownAll : List Reply → List String
  | [] => []
  | r :: rs => r.shown :: shownAll rs

end

/-- An error line of the server: a code, and after the first blank a detail. -/
structure Refusal where
  code : String
  detail : Option String := Option.none
deriving DecidableEq, Repr

/-- A description with its kind, and with a detail if there is one. -/
def described (description kind : String) : Option String → String
  | none => description ++ "- " ++ kind
  | some detail => description ++ " - " ++ kind ++ ": " ++ detail

namespace Refusal

def ofLine (line : String) : Refusal :=
  match line.toList.span (· ≠ ' ') with
  | (code, []) => ⟨String.ofList code, none⟩
  | (code, _ :: detail) => ⟨String.ofList code, some (String.ofList detail)⟩

/-- The codes that are known, with the kinds that they stand for. -/
def kinds : List (String × String) :=
  [("ERR", "ResponseError"), ("EXECABORT", "ExecAbortError"), ("LOADING", "BusyLoadingError"),
    ("NOSCRIPT", "NoScriptError"), ("MOVED", "Moved"), ("ASK", "Ask"), ("TRYAGAIN", "TryAgain"),
    ("CLUSTERDOWN", "ClusterDown"), ("CROSSSLOT", "CrossSlot"), ("MASTERDOWN", "MasterDown"),
    ("READONLY", "ReadOnly"), ("NOTBUSY", "NotBusy")]

def message (r : Refusal) : String :=
  match kinds.lookup r.code with
  | some kind => described "An error was signalled by the server" kind r.detail
  | none => r.code ++ ": " ++ r.detail.getD "Unknown extension error encountered"

/-- The server asks for the command to be sent again. -/
def isTransient (r : Refusal) : Bool := r.code = "LOADING" || r.code = "TRYAGAIN"

end Refusal

/-- What a reply was to be read as. -/
inductive Misfit where
  | notText
  | notNumeric
  | notNumber
deriving DecidableEq, Repr

def Misfit.message : Misfit → String
  | notText => "Response type not string compatible."
  | notNumeric => "Response type not convertible to numeric."
  | notNumber => "Could not convert from string."

inductive Fault where
  | refused (r : Refusal)
  | misfit (m : Misfit) (reply : Reply)
  | loginRefused
  | databaseRefused
  | disconnected (detail : String)
  | unsendable (description : String) (detail : Option String)

namespace Fault

def message : Fault → String
  | refused r => r.message
  | misfit m reply =>
    described "Response was of incompatible type" "TypeError"
      (some (Text.quoted m.message ++ " (response was " ++ reply.shown ++ ")"))
  | loginRefused => described "Password authentication failed" "AuthenticationFailed" none
  | databaseRefused => described "Redis server refused to switch database" "ResponseError" none
  | disconnected detail => detail
  | unsendable description detail => described description "ClientError" detail

/-- It may be over when the command is sent again. -/
def isTransient : Fault → Bool
  | refused r => r.isTransient
  | disconnected _ | unsendable _ _ => true
  | misfit _ _ | loginRefused | databaseRefused => false

end Fault

namespace Reply

/-- The short confirmation is a reply of its own. -/
def ofStatus (s : String) : Reply := if s = "OK" then okay else status s

def asText : Reply → Except Fault String
  | okay => .ok "OK"
  | status s => .ok s
  | text s => .ok s
  | r => .error (.misfit .notText r)

/-- A text that may be missing. -/
def asText? : Reply → Except Fault (Option String)
  | none => .ok Option.none
  | r => r.asText.map some

/-- A count in 32 bits. An integer keeps its low bits, and a text has to be such a number. -/
def asCount (r : Reply) : Except Fault UInt32 :=
  match r with
  | int n => .ok (UInt32.ofNat (n % 0x100000000).toNat)
  | status s | text s =>
    match Decimal.readNatural 0xFFFFFFFF s.toList with
    | .ok n => .ok (UInt32.ofNat n)
    | .error _ => .error (.misfit .notNumber r)
  | r => .error (.misfit .notNumeric r)

/-- Any reply will do. -/
def asNothing (_ : Reply) : Except Fault Unit := .ok ()

end Reply

/-- What a client can ask for: a reply to a command, or some milliseconds of rest. -/
inductive Call : Type → Type where
  | send (command : List String) : Call (Except Fault Reply)
  | rest (ms : UInt64) : Call Unit

/-- A conversation with a cache server. -/
abbrev Talk (α : Type) := Attempt Call Fault α

/-- Sends a command once and reads the reply. -/
def Talk.ask {α : Type} (command : List String) (read : Reply → Except Fault α) : Talk α := do
  let reply ← Attempt.of (.send command)
  Attempt.ofExcept (read reply)

/-- A server that follows a script. It turns down a number of commands while a client signs in. -/
structure Server where
  refusals : Nat := 0
  script : List (Except Refusal Reply) := []
  sent : List (List String) := []

namespace Server

/-- Serves one call: the next reply of the script, or a confirmation when there is none left. -/
def serve : {β : Type} → Call β → Server → β × Server
  | _, .send command, s =>
    let s := { s with sent := s.sent ++ [command] }
    match s.script with
    | [] => (.ok .okay, s)
    | r :: rest => (r.mapError .refused, { s with script := rest })
  | _, .rest _, s => ((), s)

/-- Serves one call of a client that signs in. -/
def serveSignIn : {β : Type} → Call β → Server → β × Server
  | _, .send command, s =>
    let s := { s with sent := s.sent ++ [command] }
    if s.refusals = 0 then (.ok .okay, s)
    else (.error (.refused ⟨"ERR", some "refused"⟩), { s with refusals := s.refusals - 1 })
  | _, .rest _, s => ((), s)

end Server

end ParcelDesk.Cache

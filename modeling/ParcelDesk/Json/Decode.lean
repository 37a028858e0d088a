import ParcelDesk.Json.Reader
import ParcelDesk.Json.Value
import ParcelDesk.Text.Quoted

/-!
Taking typed values out of JSON. Decoders go through the nodes in the order of the text, so the
first problem met there is the one reported, be it one of syntax or of type. A record lists its
fields once; it is taken from an object by name or from a list by position.
-/

namespace ParcelDesk.Json

/-- Why a document does not hold a value of the wanted type. -/
inductive Error where
  | misread (m : Misread)
  | wrongType (found : Found) (expected : String)
  | outOfRange (n : Int) (expected : String)
  | unknownVariant (name : String) (variants : List String)
  | missingField (name : String)
  | duplicateField (name : String)
  | wrongLength (length : Nat) (expected : String)
  | refused (reason : String)

def Found.describe : Found → String
  | null => "null"
  | bool b => s!"boolean `{b}`"
  | int n => s!"integer `{n}`"
  | real x => "floating point `" ++ (Decimal.jsonNumber? x).getD (Decimal.plain x) ++ "`"
  | text s => "string " ++ Text.quoted s
  | list => "sequence"
  | map => "map"

def tick (s : String) : String := "`" ++ s ++ "`"

/-- The allowed names in a message: one, two joined by "or", or a list. -/
def oneOf : List String → String
  | [] => "there are no variants"
  | [a] => "expected " ++ tick a
  | [a, b] => "expected " ++ tick a ++ " or " ++ tick b
  | names => "expected one of " ++ ", ".intercalate (names.map tick)

def Error.message : Error → String
  | misread m => m.message
  | wrongType found expected => "invalid type: " ++ found.describe ++ ", expected " ++ expected
  | outOfRange n expected => s!"invalid value: integer `{n}`, expected {expected}"
  | unknownVariant name variants => "unknown variant " ++ tick name ++ ", " ++ oneOf variants
  | missingField name => "missing field " ++ tick name
  | duplicateField name => "duplicate field " ++ tick name
  | wrongLength length expected => s!"invalid length {length}, expected {expected}"
  | refused reason => reason

abbrev Decoder (α : Type) := Node → Except Error α

def lift {α : Type} (r : Except Misread α) : Except Error α := r.mapError .misread

def flawless (flaw : Option Misread) : Except Error Unit :=
  match flaw with
  | none => .ok ()
  | some m => .error (.misread m)

/-- The error about a node of the wrong kind. A broken node reports its own flaw. -/
def mismatch {α : Type} (node : Node) (expected : String) : Except Error α := do
  throw (.wrongType (← lift node.found) expected)

def nothing : Decoder Unit
  | .null => .ok ()
  | n => mismatch n "unit"

def boolean : Decoder Bool
  | .bool b => .ok b
  | n => mismatch n "a boolean"

def string : Decoder String
  | .text l => lift l.text
  | n => mismatch n "a string"

/-- Integers between two bounds. -/
def integer (low high : Int) (name : String) : Decoder Int
  | .number n => do
    match ← lift n.number with
    | .int i => if low ≤ i && i ≤ high then pure i else throw (.outOfRange i name)
    | .real x => throw (.wrongType (.real x) name)
  | n => mismatch n name

def int64 : Decoder Int := integer (-0x8000000000000000) 0x7FFFFFFFFFFFFFFF "i64"

def int32 : Decoder Int := integer (-0x80000000) 0x7FFFFFFF "i32"

def natural (bound : Nat) (name : String) : Decoder Nat := fun n =>
  (integer 0 (bound - 1) name n).map Int.toNat

def nat16 : Decoder Nat := natural 0x10000 "u16"

def nat32 : Decoder Nat := natural 0x100000000 "u32"

def nat64 : Decoder Nat := natural 0x10000000000000000 "u64"

def size : Decoder Nat := natural 0x10000000000000000 "usize"

def real : Decoder Float
  | .number n => do
    match ← lift n.number with
    | .int i => pure (Decimal.nearest (i < 0) i.natAbs 0)
    | .real x => pure x
  | n => mismatch n "f64"

def option {α : Type} (decode : Decoder α) : Decoder (Option α)
  | .null => .ok none
  | n => (decode n).map some

def items {α : Type} (decode : Decoder α) : List Node → Except Error (List α)
  | [] => .ok []
  | n :: ns => do
    let a ← decode n
    pure (a :: (← items decode ns))

def list {α : Type} (decode : Decoder α) : Decoder (List α)
  | .list ns ending => do
    let as ← items decode ns
    flawless ending.listFlaw?
    pure as
  | n => mismatch n "a sequence"

def entries {α : Type} (decode : Decoder α) :
    List (Literal × Node) → Except Error (List (String × α))
  | [] => .ok []
  | (k, n) :: ms => do
    let key ← lift k.text
    let a ← decode n
    pure ((key, a) :: (← entries decode ms))

/-- An object with free keys, in the order of the text. -/
def mapOf {α : Type} (decode : Decoder α) : Decoder (List (String × α))
  | .map ms ending => do
    let as ← entries decode ms
    flawless ending.mapFlaw?
    pure as
  | n => mismatch n "a map"

def variant {α : Type} (variants : List (String × α)) (name : String) : Except Error α :=
  match variants.lookup name with
  | some a => .ok a
  | none => .error (.unknownVariant name (variants.map Prod.fst))

/-- One of several named values, as its name or as an object that maps its name to null. -/
def oneNamed {α : Type} (variants : List (String × α)) : Decoder α
  | .text l => do variant variants (← lift l.text)
  | .map ((k, n) :: more) ending => do
    let a ← variant variants (← lift k.text)
    nothing n
    match more, ending with
    | [], .closed => pure a
    | [], .eof => throw (.misread .eofInObject)
    | _, _ => throw (.misread .expectedValue)
  | .map [] .eof => .error (.misread .eofInValue)
  | .map [] (.notKey seen) => do throw (.wrongType (← lift seen) "variant identifier")
  | .broken read _ => .error (.misread read)
  | _ => .error (.misread .expectedValue)

mutual
/-- Any value. -/
def value : Node → Except Error Json
  | .null => .ok .null
  | .bool b => .ok (.bool b)
  | .number n => do
    match ← lift n.number with
    | .int i => pure (.int i)
    | .real x => pure (.float x)
  | .text l => (lift l.text).map .str
  | .list ns ending => do
    let vs ← values ns
    flawless ending.listFlaw?
    pure (.arr vs)
  | .map ms ending => do
    let vs ← memberValues ms
    flawless ending.mapFlaw?
    pure (.obj vs)
  | .broken read _ => .error (.misread read)
def values : List Node → Except Error (List Json)
  | [] => .ok []
  | n :: ns => do
    let v ← value n
    pure (v :: (← values ns))
def memberValues : List (Literal × Node) → Except Error (List (String × Json))
  | [] => .ok []
  | (k, n) :: ms => do
    let key ← lift k.text
    let v ← value n
    pure ((key, v) :: (← memberValues ms))
end

/-- What a record does without one of its fields. -/
inductive Absence where
  | required
  | nullable
  | defaulted
deriving DecidableEq

structure Field where
  name : String
  absence : Absence
  check : Node → Except Error Unit

/-- Fields in order, and how a value is built from the nodes of those that were given. -/
structure Record (α : Type) where
  fields : List Field
  build : (String → Option Node) → Except Error α

namespace Record

def required {α : Type} (name : String) (decode : Decoder α) : Record α where
  fields := [⟨name, .required, fun n => (decode n).map fun _ => ()⟩]
  build given :=
    match given name with
    | some n => decode n
    | none => .error (.missingField name)

def nullable {α : Type} (name : String) (decode : Decoder α) : Record (Option α) where
  fields := [⟨name, .nullable, fun n => (option decode n).map fun _ => ()⟩]
  build given :=
    match given name with
    | some n => option decode n
    | none => .ok none

def defaulted {α : Type} (name : String) (value : α) (decode : Decoder α) : Record α where
  fields := [⟨name, .defaulted, fun n => (decode n).map fun _ => ()⟩]
  build given :=
    match given name with
    | some n => decode n
    | none => .ok value

def map {α β : Type} (f : α → β) (r : Record α) : Record β := ⟨r.fields, fun g => (r.build g).map f⟩

/-- Two groups of fields, one after the other. -/
def seq {α β : Type} (f : Record (α → β)) (x : Record α) : Record β where
  fields := f.fields ++ x.fields
  build given := do
    let g ← f.build given
    pure (g (← x.build given))

instance : Applicative Record where
  pure a := ⟨[], fun _ => .ok a⟩
  seq f x := seq f (x ())

/-- Goes through the members of an object. A known name may stand once, and its value has to fit;
the values of other names are passed over. -/
def collect (fields : List Field) (given : List (String × Node)) :
    List (Literal × Node) → Except Error (List (String × Node))
  | [] => .ok given
  | (k, n) :: ms => do
    let name ← lift k.text
    match fields.find? fun f => f.name == name with
    | some f =>
      if (given.lookup name).isSome then throw (.duplicateField name)
      f.check n
      collect fields ((name, n) :: given) ms
    | none =>
      flawless n.passedFlaw?
      collect fields given ms

/-- Matches items with fields by position. An item that is missing is a fault unless its field has
a default. -/
def align (whole : String) (count : Nat) (ending : Ending) :
    Nat → List Field → List Node → Except Error (List (String × Node))
  | _, [], [] => do
    flawless ending.listSurplus?
    pure []
  | _, [], _ :: _ => .error (.misread .trailingCharacters)
  | i, f :: fs, [] => do
    flawless ending.listFlaw?
    if f.absence = .defaulted then align whole count ending (i + 1) fs []
    else
      let unit := if count = 1 then "element" else "elements"
      throw (.wrongLength i s!"{whole} with {count} {unit}")
  | i, f :: fs, n :: ns => do
    f.check n
    pure ((f.name, n) :: (← align whole count ending (i + 1) fs ns))

/-- A record from an object or from a list. The title stands in messages. -/
def decode {α : Type} (title : String) (r : Record α) : Decoder α
  | .map members ending => do
    let given ← collect r.fields [] members
    flawless ending.mapFlaw?
    r.build fun name => given.lookup name
  | .list ns ending => do
    let given ← align ("struct " ++ title) r.fields.length ending 0 r.fields ns
    r.build fun name => given.lookup name
  | n => mismatch n ("struct " ++ title)

end Record

/-- Takes a value from a whole document, after which only blanks may follow. -/
def Document.decode {α : Type} (d : Document) (decoder : Decoder α) : Except Error α := do
  let a ← decoder d.root
  if d.surplus then throw (.misread .trailingCharacters)
  pure a

def parse {α : Type} (decoder : Decoder α) (s : String) : Except Error α := (read s).decode decoder

def parseBytes {α : Type} (decoder : Decoder α) (bs : List UInt8) : Except Error α :=
  (readBytes bs).decode decoder

end ParcelDesk.Json

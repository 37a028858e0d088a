import ParcelDesk.Decimal.Reading
import ParcelDesk.Order.Json
import ParcelDesk.Text.Basic
import ParcelDesk.Text.Bytes

/-!
Query strings: pairs of names and values as forms send them, and the listing request that they make
up. A name may be given once; unknown names are passed over.
-/

namespace ParcelDesk.Web

namespace Query

/-- A name or value: plus signs are blanks, and escapes are bytes of a text. -/
def unescape (cs : List Char) : String :=
  let bytes := (Text.Utf8.encode cs).map fun b => if b == 0x2B then 0x20 else b
  String.ofList (Text.Utf8.decodeLossy (Text.Percent.decode bytes))

def pair (cs : List Char) : String × String :=
  (unescape (cs.takeWhile (· ≠ '=')), unescape ((cs.dropWhile (· ≠ '=')).drop 1))

/-- The pairs of a query string in their order. Empty parts are none. -/
def pairs (s : String) : List (String × String) :=
  ((Text.splitOn '&' s.toList).filter fun part => !part.isEmpty).map pair

inductive Flaw where
  | duplicate (name : String)
  | number (flaw : Decimal.IntegerFlaw)
deriving DecidableEq, Repr

def Flaw.message : Flaw → String
  | duplicate name => "Query deserialize error: duplicate field `" ++ name ++ "`"
  | number flaw => "Query deserialize error: " ++ flaw.message

def word (s : String) : Except Flaw UInt32 :=
  match Decimal.readNatural 0xFFFFFFFF s.toList with
  | .ok n => .ok (UInt32.ofNat n)
  | .error flaw => .error (.number flaw)

def int (s : String) : Except Flaw Int := (Decimal.readInt64 s.toList).mapError .number

/-- Sets a value that must not have been set before. -/
def once {α : Type} (name : String) (old : Option α) (new : Except Flaw α) :
    Except Flaw (Option α) :=
  match old with
  | some _ => .error (.duplicate name)
  | none => new.map some

def put (r : ListingRequest) : String × String → Except Flaw ListingRequest
  | ("transfer_status", v) => do
    pure { r with status := ← once "transfer_status" r.status (.ok v) }
  | ("archive", v) => do pure { r with archive := ← once "archive" r.archive (int v) }
  | ("page", v) => do pure { r with page := ← once "page" r.page (word v) }
  | ("limit", v) => do pure { r with limit := ← once "limit" r.limit (word v) }
  | _ => .ok r

/-- The listing request of a query string. -/
def listing (s : String) : Except Flaw ListingRequest :=
  (pairs s).foldlM put ⟨none, none, none, none⟩

end Query

end ParcelDesk.Web

namespace ParcelDesk

/-- A blank status asks for nothing. -/
def ListingRequest.withoutBlank (r : ListingRequest) : ListingRequest :=
  { r with status := r.status.filter Text.notBlank }

end ParcelDesk

import ParcelDesk.Json.Decode
import ParcelDesk.Text.Basic
import ParcelDesk.Text.Bytes
import ParcelDesk.Web.MediaType

/-!
Requests: a method, a target, headers and a body, which may hold JSON. Names of headers are the same
in any case, and of several headers with one name the first one counts.
-/

namespace ParcelDesk.Web

structure Request where
  method : String
  path : String
  query : String := ""
  headers : List (String × String) := []
  body : List UInt8 := []

namespace Request

/-- The path and the query of a target. A fragment is no part of it. -/
def ofTarget (method target : String) (headers : List (String × String)) (body : List UInt8) :
    Request :=
  let (path, query) := (target.toList.takeWhile (· ≠ '#')).span (· ≠ '?')
  { method, path := String.ofList path, query := String.ofList (query.drop 1), headers, body }

/-- The value of a header, whose name is given in small letters. -/
def header? (q : Request) (name : String) : Option String :=
  (q.headers.find? fun h => String.ofList (h.1.toList.map Char.toLower) = name).map Prod.snd

/-- The value holds nothing but what ASCII can show, and tabs. -/
def isPlain (value : String) : Bool :=
  value.toList.all fun c => (' ' ≤ c && c ≤ '~') || c = '\t'

/-- The value of a header if it is a plain one. -/
def plainHeader? (q : Request) (name : String) : Option String := (q.header? name).filter isPlain

/-- The token of a bearer. The scheme has this case, and blanks around the token do not count. -/
def bearer? (q : Request) : Option String := do
  let value ← q.plainHeader? "authorization"
  let token := (value.toList.drop 7)
  if value.toList.take 7 ≠ "Bearer ".toList then none
  Text.named (some (String.ofList token))

/-- Escapes stand for their bytes, but for those of a percent sign, a slash and a plus sign, which
keep their places in a path. -/
def openEscapes : List UInt8 → List UInt8
  | [] => []
  | 0x25 :: h :: l :: rest =>
    match Text.Percent.hexValue? h, Text.Percent.hexValue? l with
    | some a, some b =>
      let byte := a * 16 + b
      if byte = 0x25 || byte = 0x2F || byte = 0x2B then 0x25 :: h :: l :: openEscapes rest
      else byte :: openEscapes rest
    | _, _ => 0x25 :: openEscapes (h :: l :: rest)
  | b :: rest => b :: openEscapes rest

/-- The parts of the path between its slashes. -/
def segments (q : Request) : List String :=
  (Text.splitOn '/' (Text.Utf8.decodeLossy (openEscapes (Text.Utf8.bytes q.path)))).map
    String.ofList

end Request

/-- The most bytes that a body may have. -/
def bodyLimit : Nat := 65536

inductive BodyFlaw where
  | mediaType
  | tooLong (bytes : Nat)
  | unreadable (e : Json.Error)

def BodyFlaw.message : BodyFlaw → String
  | mediaType => "Content type error"
  | tooLong bytes =>
    s!"JSON payload ({bytes} bytes) is larger than allowed (limit: {bodyLimit} bytes)."
  | unreadable e => "Json deserialize error: " ++ e.message

/-- Takes a value from the body, which has to be declared as JSON. -/
def Request.read {α : Type} (q : Request) (decode : Json.Decoder α) : Except BodyFlaw α :=
  if !((q.plainHeader? "content-type").any MediaType.isJson) then .error .mediaType
  else if bodyLimit < q.body.length then .error (.tooLong q.body.length)
  else (Json.parseBytes decode q.body).mapError .unreadable

end ParcelDesk.Web

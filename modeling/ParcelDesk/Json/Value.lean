import ParcelDesk.Decimal.Notation

/-!
JSON values as the service writes them, and their compact text. Members keep the order in which
they were given; numbers without a finite value are written as null.
-/

namespace ParcelDesk

inductive Json where
  | null
  | bool (value : Bool)
  | int (value : Int)
  | float (value : Float)
  | str (value : String)
  | arr (items : List Json)
  | obj (members : List (String × Json))
deriving Inhabited

namespace Json

/-- An absent value is null. -/
def opt {α : Type} (write : α → Json) : Option α → Json
  | none => null
  | some a => write a

def ofList {α : Type} (write : α → Json) (xs : List α) : Json := arr (xs.map write)

/-- The value of a member of an object. -/
def get? : Json → String → Option Json
  | obj members, name => members.lookup name
  | _, _ => none

/-- The object with one more member at its end. -/
def adding (name : String) (value : Json) : Json → Json
  | obj members => obj (members ++ [(name, value)])
  | other => other

/-- One character inside a string literal. -/
def escapeChar (c : Char) : List Char :=
  if c = '"' then ['\\', '"']
  else if c = '\\' then ['\\', '\\']
  else if c = '\n' then ['\\', 'n']
  else if c = '\r' then ['\\', 'r']
  else if c = '\t' then ['\\', 't']
  else if c = '\x08' then ['\\', 'b']
  else if c = '\x0c' then ['\\', 'f']
  else if c.toNat < 0x20 then '\\' :: 'u' :: Decimal.hexDigits 4 c.toNat
  else [c]

def quote (s : String) : List Char := '"' :: (s.toList.flatMap escapeChar ++ ['"'])

def floatText (x : Float) : List Char := (Decimal.jsonNumber? x).elim "null".toList String.toList

mutual
/-- The compact text of a value. -/
def chars : Json → List Char
  | null => ['n', 'u', 'l', 'l']
  | bool true => ['t', 'r', 'u', 'e']
  | bool false => ['f', 'a', 'l', 's', 'e']
  | int n => Decimal.integerDigits n
  | float x => floatText x
  | str s => quote s
  | arr [] => ['[', ']']
  | arr (v :: vs) => '[' :: (chars v ++ itemChars vs)
  | obj [] => ['\x7b', '\x7d']
  | obj ((k, v) :: ms) => '\x7b' :: (quote k ++ ':' :: (chars v ++ memberChars ms))
/-- The items after the first, and the closing bracket. -/
def itemChars : List Json → List Char
  | [] => [']']
  | v :: vs => ',' :: (chars v ++ itemChars vs)
/-- The members after the first, and the closing brace. -/
def memberChars : List (String × Json) → List Char
  | [] => ['\x7d']
  | (k, v) :: ms => ',' :: (quote k ++ ':' :: (chars v ++ memberChars ms))
end

def render (v : Json) : String := String.ofList v.chars

end Json

end ParcelDesk

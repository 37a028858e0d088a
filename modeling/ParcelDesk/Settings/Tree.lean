import ParcelDesk.Decimal.Reading
import ParcelDesk.Json.Value
import ParcelDesk.Settings.Basic
import ParcelDesk.Text.Quoted

/-!
Settings as a tree, before their types are known. Several sources are laid over one another, a
later one winning key by key; every value remembers which source it comes from, for messages.
-/

namespace ParcelDesk.Settings

inductive Scalar where
  | nothing
  | bool (b : Bool)
  | int (n : Int)
  | real (x : Float)
  | text (s : String)

/-- A tree with the origins of its values. Values that are built in have none. -/
inductive Tree where
  | scalar (origin : Option String) (value : Scalar)
  | list (origin : Option String) (items : List Tree)
  | table (origin : Option String) (members : List (String × Tree))

/-- A step into a tree. The items of a list are numbered from zero on, or backwards from its end with
negative numbers. -/
inductive Step where
  | key (name : String)
  | index (n : Int)
deriving DecidableEq, Repr

abbrev Path := List Step

namespace Tree

def empty : Tree := table none []

def members : Tree → List (String × Tree)
  | table _ ms => ms
  | _ => []

def items : Tree → List Tree
  | list _ ts => ts
  | _ => []

/-- A member replaced or added. -/
def putMember (name : String) (t : Tree) : List (String × Tree) → List (String × Tree)
  | [] => [(name, t)]
  | (k, old) :: ms => if k = name then (k, t) :: ms else (k, old) :: putMember name t ms

/-- Where the item of a number is in a list of some length. -/
def place (n : Int) (length : Nat) : Nat := if n < 0 then length - n.natAbs else n.toNat

/-- An item replaced; missing ones before it hold nothing. -/
def putItem (n : Nat) (t : Tree) (ts : List Tree) : List Tree :=
  (ts ++ List.replicate (n + 1 - ts.length) (scalar none .nothing)).set n t

mutual
/-- A value laid over what stood in its place. Tables are laid over member by member, so that an
empty one changes nothing; anything else replaces the old value. -/
def cover (old : Option Tree) : Tree → Tree
  | table _ [] => old.getD empty
  | table _ ms => table none (coverMembers ms ((old.map members).getD []))
  | t => t
def coverMembers : List (String × Tree) → List (String × Tree) → List (String × Tree)
  | [], below => below
  | (k, t) :: ms, below => coverMembers ms (putMember k (cover (below.lookup k) t) below)
end

/-- Lays a value over the place at a path, with new tables and lists on the way. -/
def putAt (t : Tree) : Path → Tree → Tree
  | [], base => cover (some base) t
  | [.key name], base => table none (putMember name (cover (base.members.lookup name) t) base.members)
  | [.index n], base => list none (putItem (place n base.items.length) t base.items)
  | .key name :: path, base =>
    table none (putMember name (putAt t path ((base.members.lookup name).getD empty)) base.members)
  | .index n :: path, base =>
    let i := place n base.items.length
    list none (putItem i (putAt t path (base.items.getD i empty)) base.items)

mutual
/-- The tree of a document from a file. -/
def ofJson (origin : Option String) : Json → Tree
  | .null => scalar origin .nothing
  | .bool b => scalar origin (.bool b)
  | .int n =>
    scalar origin (if -0x8000000000000000 ≤ n && n < 0x8000000000000000 then .int n
      else .real (Decimal.nearest (n < 0) n.natAbs 0))
  | .float x => scalar origin (.real x)
  | .str s => scalar origin (.text s)
  | .arr items => list origin (ofJsons origin items)
  | .obj members => table origin (ofJsonMembers origin members)
def ofJsons (origin : Option String) : List Json → List Tree
  | [] => []
  | v :: vs => ofJson origin v :: ofJsons origin vs
def ofJsonMembers (origin : Option String) : List (String × Json) → List (String × Tree)
  | [] => []
  | (k, v) :: ms => (k, ofJson origin v) :: ofJsonMembers origin ms
end

end Tree

namespace Path

def isNameChar (c : Char) : Bool := c.isAlphanum || c == '_' || c == '-' || c == ' '

def isGap (c : Char) : Bool := c == ' ' || c == '\t'

/-- A number of 64 bits that may have gaps around it, and the rest. -/
def readNumber? (cs : List Char) : Option (Int × List Char) :=
  let cs := cs.dropWhile isGap
  let sign := if cs.head? = some '-' then ['-'] else []
  let digits := (cs.drop sign.length).takeWhile Char.isDigit
  if digits.isEmpty then none
  else
    (Decimal.readInt64 (sign ++ digits)).toOption.map fun n =>
      (n, (cs.drop (sign ++ digits).length).dropWhile isGap)

/-- The steps after the first name. -/
def readSteps? : Nat → List Char → Option Path
  | _, [] => some []
  | 0, _ => none
  | fuel + 1, '.' :: cs =>
    let name := cs.takeWhile isNameChar
    if name.isEmpty then none
    else (readSteps? fuel (cs.drop name.length)).map (.key (String.ofList name) :: ·)
  | fuel + 1, '[' :: cs =>
    match readNumber? cs with
    | some (n, ']' :: rest) => (readSteps? fuel rest).map (.index n :: ·)
    | _ => none
  | _, _ => none

/-- The path that a key writes with points and brackets. A key that is no path is one name. -/
def ofKey (key : String) : Path :=
  let cs := key.toList
  let name := cs.takeWhile isNameChar
  match readSteps? cs.length (cs.drop name.length) with
  | some steps => if name.isEmpty then [.key key] else .key (String.ofList name) :: steps
  | none => [.key key]

/-- No step of the path goes before the first item of a list. -/
def fits : Path → Tree → Bool
  | [], _ => true
  | .key name :: path, base => fits path ((base.members.lookup name).getD .empty)
  | .index n :: path, base =>
    -(base.items.length : Int) ≤ n &&
      fits path (base.items.getD (Tree.place n base.items.length) .empty)

end Path

/-- Lays the top members of a document over a tree, wherever their paths lead. -/
def Tree.lay (base : Tree) (members : List (String × Tree)) : Tree :=
  members.foldl (fun t (k, v) => Tree.putAt v (Path.ofKey k) t) base

end ParcelDesk.Settings

import ParcelDesk.Decimal.Reading
import ParcelDesk.Json.Reader
import ParcelDesk.Json.Value

/-!
TOML documents as the JSON values that they stand for. A document is read line by line into a tree
in which every table remembers how it was opened, because only some tables may be opened again.
-/

namespace ParcelDesk.Settings.Toml

/-- How a table came to be: as a step of a longer header, by a header of its own, or by a key with
points. -/
inductive Opening where
  | implied
  | headed
  | dotted
deriving DecidableEq, Repr

/-- A part of a document under construction. Values are closed; the last one of several tables of
one name is open. -/
inductive Branch where
  | closed (value : Json)
  | table (opening : Opening) (members : List (String × Branch))
  | tables (items : List (List (String × Branch)))

abbrev Branches := List (String × Branch)

namespace Branches

def put (name : String) (b : Branch) : Branches → Branches
  | [] => [(name, b)]
  | (k, old) :: ms => if k = name then (k, b) :: ms else (k, old) :: put name b ms

/-- Changes the table under a name, if there is one that may be entered. -/
def within (opening : Opening) (enter : Opening → Bool) (name : String)
    (change : Branches → Option Branches) (ms : Branches) : Option Branches :=
  match ms.lookup name with
  | none => (change []).map fun inner => put name (.table opening inner) ms
  | some (.table o inner) =>
    if enter o then (change inner).map fun inner => put name (.table o inner) ms else none
  | some (.tables items) =>
    match items.getLast? with
    | none => none
    | some last =>
      if opening = .implied then
        (change last).map fun inner => put name (.tables (items.dropLast ++ [inner])) ms
      else none
  | some (.closed _) => none

/-- Opens the table of a header. -/
def openTable : List String → Branches → Option Branches
  | [], _ => none
  | [name], ms =>
    match ms.lookup name with
    | none => some (put name (.table .headed []) ms)
    | some (.table .implied inner) => some (put name (.table .headed inner) ms)
    | _ => none
  | name :: names, ms => within .implied (fun _ => true) name (openTable names) ms

/-- Opens one more of several tables. -/
def openItem : List String → Branches → Option Branches
  | [], _ => none
  | [name], ms =>
    match ms.lookup name with
    | none => some (put name (.tables [[]]) ms)
    | some (.tables items) => some (put name (.tables (items ++ [[]])) ms)
    | _ => none
  | name :: names, ms => within .implied (fun _ => true) name (openItem names) ms

/-- Sets the value of a key. -/
def setKey (value : Json) : List String → Branches → Option Branches
  | [], _ => none
  | [name], ms => if (ms.lookup name).isSome then none else some (put name (.closed value) ms)
  | name :: names, ms => within .dotted (· = .dotted) name (setKey value names) ms

/-- Sets the value of a key within the table that a header opened. -/
def setBelow (value : Json) (key : List String) : List String → Branches → Option Branches
  | [], ms => setKey value key ms
  | name :: names, ms => within .implied (fun _ => true) name (setBelow value key names) ms

mutual
def toJson : Branch → Json
  | .closed v => v
  | .table _ ms => .obj (membersJson ms)
  | .tables items => .arr (itemsJson items)
def membersJson : List (String × Branch) → List (String × Json)
  | [] => []
  | (k, b) :: ms => (k, toJson b) :: membersJson ms
def itemsJson : List (List (String × Branch)) → List Json
  | [] => []
  | ms :: rest => .obj (membersJson ms) :: itemsJson rest
end

end Branches

def isSpace (c : Char) : Bool := c == ' ' || c == '\t'

def skipSpace (cs : List Char) : List Char := cs.dropWhile isSpace

/-- The rest after a line break, if one stands here. -/
def newline? : List Char → Option (List Char)
  | '\n' :: cs => some cs
  | '\r' :: '\n' :: cs => some cs
  | _ => none

def isCommentChar (c : Char) : Bool := c == '\t' || 0x20 ≤ c.toNat

def skipComment : List Char → List Char
  | '#' :: cs => cs.dropWhile isCommentChar
  | cs => cs

/-- Nothing but blanks and a comment may follow on the line. -/
def endLine (cs : List Char) : Option (List Char) :=
  match skipComment (skipSpace cs) with
  | [] => some []
  | cs => newline? cs

/-- Blanks, comments and line breaks, as they may stand within a list. -/
def skipGap : Nat → List Char → List Char
  | 0, cs => cs
  | fuel + 1, cs =>
    match skipComment (skipSpace cs) with
    | cs => match newline? cs with
      | some rest => skipGap fuel rest
      | none => cs

def escape? : Char → Option Char
  | '"' => some '"'
  | '\\' => some '\\'
  | 'b' => some '\x08'
  | 'f' => some '\x0c'
  | 'n' => some '\n'
  | 'r' => some '\r'
  | 't' => some '\t'
  | _ => none

/-- The character of a hex escape with so many digits. -/
def scalar? (width : Nat) (cs : List Char) : Option (Char × List Char) := do
  let digits ← (cs.take width).mapM Json.hexValue?
  let n := digits.foldl (fun n d => n * 16 + d) 0
  if digits.length = width && (Char.ofNat n).toNat = n then some (Char.ofNat n, cs.drop width)
  else none

def isPlain (c : Char) : Bool := c == '\t' || (0x20 ≤ c.toNat && c.toNat ≠ 0x7F)

/-- The blanks and line breaks that a backslash at the end of a line hides. -/
def skipHidden : List Char → List Char
  | '\n' :: cs => skipHidden cs
  | '\r' :: '\n' :: cs => skipHidden cs
  | ' ' :: cs => skipHidden cs
  | '\t' :: cs => skipHidden cs
  | cs => cs

/-- The rest of a text in quotes, on one line or on several. -/
def quotedRest (multi literal : Bool) (quote : Char) : Nat → List Char → Option (List Char × List Char)
  | 0, _ => none
  | fuel + 1, cs =>
    let more (c : Char) (rest : List Char) :=
      (quotedRest multi literal quote fuel rest).map fun (text, rest) => (c :: text, rest)
    match cs with
    | [] => none
    | '\\' :: rest =>
      if literal then more '\\' rest
      else
        match rest with
        | 'u' :: rest => (scalar? 4 rest).bind fun (c, rest) => more c rest
        | 'U' :: rest => (scalar? 8 rest).bind fun (c, rest) => more c rest
        | e :: tail =>
          match escape? e with
          | some c => more c tail
          | none =>
            if multi && (newline? (skipSpace rest)).isSome then
              quotedRest multi literal quote fuel (skipHidden rest)
            else none
        | [] => none
    | c :: rest =>
      if c = quote then
        if !multi then some ([], rest)
        else if [quote, quote].isPrefixOf rest then some ([], rest.drop 2)
        else more c rest
      else
        match newline? cs with
        | some rest => if multi then more '\n' rest else none
        | none => if isPlain c then more c rest else none

/-- A text that starts at its quote. -/
def text? : List Char → Option (String × List Char)
  | q :: cs =>
    if q ≠ '"' && q ≠ '\'' then none
    else
      let literal := q == '\''
      let done := fun (r : List Char × List Char) => (String.ofList r.1, r.2)
      if [q, q].isPrefixOf cs then
        let cs := cs.drop 2
        (quotedRest true literal q (cs.length + 1) ((newline? cs).getD cs)).map done
      else (quotedRest false literal q (cs.length + 1) cs).map done
  | [] => none

def isBare (c : Char) : Bool := c.isAlphanum || c == '_' || c == '-'

/-- One name of a key. Names in quotes stand on one line. -/
def name? : List Char → Option (String × List Char)
  | cs@(q :: rest) =>
    if q = '"' || q = '\'' then
      if [q, q].isPrefixOf rest then some ("", rest.drop 1) else text? cs
    else
      let bare := cs.takeWhile isBare
      if bare.isEmpty then none else some (String.ofList bare, cs.drop bare.length)
  | [] => none

/-- Names with points between them. -/
def key? : Nat → List Char → Option (List String × List Char)
  | 0, _ => none
  | fuel + 1, cs => do
    let (name, rest) ← name? (skipSpace cs)
    match skipSpace rest with
    | '.' :: rest => (key? fuel rest).map fun (names, rest) => (name :: names, rest)
    | rest => some ([name], rest)

/-- Digits of a base with single underscores between them. -/
def spaced? (isDigit : Char → Bool) (cs : List Char) : Option (List Char) :=
  let ok := fun (c : Char) => isDigit c || c == '_'
  let pairs := cs.zip (cs.drop 1)
  if cs.isEmpty || !cs.all ok || cs.head? = some '_' || cs.getLast? = some '_'
      || pairs.any (fun (a, b) => a == '_' && b == '_') then none
  else some (cs.filter (· ≠ '_'))

def inRange (n : Int) : Option Json :=
  if -0x8000000000000000 ≤ n && n < 0x8000000000000000 then some (.int n) else none

/-- Whole digits without a superfluous zero in front. -/
def wholeDigits? (cs : List Char) : Option (List Char) :=
  (spaced? Char.isDigit cs).bind fun ds =>
    if 1 < ds.length && ds.head? = some '0' then none else some ds

def based? (base : Nat) (cs : List Char) : Option Json :=
  let isDigit := fun (c : Char) => (Json.hexValue? c).any (· < base)
  (spaced? isDigit cs).bind fun ds =>
    inRange (ds.foldl (fun n c => n * base + (Json.hexValue? c).getD 0) 0 : Nat)

def integer? (cs : List Char) : Option Json :=
  match cs with
  | '0' :: 'x' :: ds => based? 16 ds
  | '0' :: 'o' :: ds => based? 8 ds
  | '0' :: 'b' :: ds => based? 2 ds
  | _ =>
    let (negative, ds) := Decimal.splitSign cs
    (wholeDigits? ds).bind fun ds =>
      inRange (if negative then -(Decimal.digitsValue ds : Int) else Decimal.digitsValue ds)

/-- A number with a point, an exponent or both, or one that is not finite. -/
def real? (cs : List Char) : Option Json :=
  let (negative, body) := Decimal.splitSign cs
  match String.ofList body with
  | "inf" => some (.float (if negative then -1.0 / 0.0 else 1.0 / 0.0))
  | "nan" => some (.float (0.0 / 0.0))
  | _ => do
    let isMark := fun (c : Char) => c == 'e' || c == 'E'
    let head := body.takeWhile fun c => !isMark c
    let power := body.drop head.length
    let whole := head.takeWhile (· ≠ '.')
    let part := head.drop whole.length
    let wholeDigits ← wholeDigits? whole
    let partDigits ← match part with
      | [] => some []
      | _ :: ds => spaced? Char.isDigit ds
    let powerDigits ← match power with
      | [] => some []
      | _ :: ds =>
        let (negative, ds) := Decimal.splitSign ds
        (spaced? Char.isDigit ds).map fun ds => 'e' :: (if negative then '-' :: ds else ds)
    if part.isEmpty && power.isEmpty then none
    let point := if partDigits.isEmpty then [] else '.' :: partDigits
    (Decimal.readFinite? negative (wholeDigits ++ point ++ powerDigits)).map .float

/-- The shape of a text, digits being alike. -/
def shape (cs : List Char) : List Char := cs.map fun c => if c.isDigit then '0' else c

/-- A time of day, with a fraction perhaps. -/
def isClock (cs : List Char) : Bool :=
  shape (cs.take 8) == "00:00:00".toList &&
    match cs.drop 8 with
    | [] => true
    | '.' :: ds => !ds.isEmpty && ds.all Char.isDigit
    | _ => false

/-- A time of day with an offset perhaps. -/
def isZonedClock (cs : List Char) : Bool :=
  isClock cs ||
    (match cs.getLast? with
      | some 'Z' => isClock cs.dropLast
      | some 'z' => isClock cs.dropLast
      | _ => false) ||
    (6 < cs.length &&
      (let zone := shape (cs.drop (cs.length - 6))
       (zone == "+00:00".toList || zone == "-00:00".toList) && isClock (cs.take (cs.length - 6))))

/-- A date, a time or both are kept as they are written. -/
def time? (cs : List Char) : Option Json :=
  let isDate := fun (cs : List Char) => shape cs == "0000-00-00".toList
  let isWhole := isDate (cs.take 10) &&
    match cs.drop 10 with
    | [] => true
    | t :: clock => (t == 'T' || t == 't' || t == ' ') && isZonedClock clock
  if isWhole || isClock cs then some (.str (String.ofList cs)) else none

/-- The word of a value, and the rest. A date may have a blank before its time. -/
def word (cs : List Char) : List Char × List Char :=
  let isWordChar := fun (c : Char) => isBare c || c == '+' || c == '.' || c == ':'
  let w := cs.takeWhile isWordChar
  match cs.drop w.length with
  | ' ' :: d :: rest =>
    if shape w == "0000-00-00".toList && d.isDigit then
      let clock := (d :: rest).takeWhile isWordChar
      (w ++ ' ' :: clock, (d :: rest).drop clock.length)
    else (w, ' ' :: d :: rest)
  | rest => (w, rest)

def plain? (cs : List Char) : Option Json :=
  match String.ofList cs with
  | "true" => some (.bool true)
  | "false" => some (.bool false)
  | _ => (integer? cs).or ((real? cs).or (time? cs))

mutual
def value? : Nat → List Char → Option (Json × List Char)
  | 0, _ => none
  | fuel + 1, cs =>
    match cs with
    | '[' :: rest => (items? fuel (skipGap rest.length rest)).map fun (vs, rest) => (.arr vs, rest)
    | '\x7b' :: rest =>
      (inline? fuel true (skipSpace rest) []).map fun (ms, rest) => (.obj (Branches.membersJson ms), rest)
    | '"' :: _ => (text? cs).map fun (s, rest) => (.str s, rest)
    | '\'' :: _ => (text? cs).map fun (s, rest) => (.str s, rest)
    | _ =>
      let (w, rest) := word cs
      (plain? w).map fun v => (v, rest)
/-- The items of a list; a comma may follow the last one. -/
def items? : Nat → List Char → Option (List Json × List Char)
  | 0, _ => none
  | _ + 1, ']' :: rest => some ([], rest)
  | fuel + 1, cs => do
    let (v, rest) ← value? fuel cs
    match skipGap rest.length rest with
    | ',' :: rest => (items? fuel (skipGap rest.length rest)).map fun (vs, rest) => (v :: vs, rest)
    | ']' :: rest => some ([v], rest)
    | _ => none
/-- The members of a table on one line; no comma follows the last one. -/
def inline? : Nat → Bool → List Char → Branches → Option (Branches × List Char)
  | 0, _, _, _ => none
  | _ + 1, true, '\x7d' :: rest, ms => some (ms, rest)
  | fuel + 1, _, cs, ms => do
    let (key, rest) ← key? cs.length cs
    match rest with
    | '=' :: rest => do
      let (v, rest) ← value? fuel (skipSpace rest)
      let ms ← Branches.setKey v key ms
      match skipSpace rest with
      | ',' :: rest => inline? fuel false (skipSpace rest) ms
      | '\x7d' :: rest => some (ms, rest)
      | _ => none
    | _ => none
end

/-- The lines of a document below the header that was met last. -/
def lines? : Nat → List String → Branches → List Char → Option Branches
  | 0, _, _, _ => none
  | fuel + 1, header, root, cs =>
    match skipGap cs.length cs with
    | [] => some root
    | '[' :: '[' :: rest => do
      let (names, rest) ← key? rest.length rest
      match rest with
      | ']' :: ']' :: rest => lines? fuel names (← root.openItem names) (← endLine rest)
      | _ => none
    | '[' :: rest => do
      let (names, rest) ← key? rest.length rest
      match rest with
      | ']' :: rest => lines? fuel names (← root.openTable names) (← endLine rest)
      | _ => none
    | cs => do
      let (key, rest) ← key? cs.length cs
      match rest with
      | '=' :: rest => do
        let (v, rest) ← value? cs.length (skipSpace rest)
        lines? fuel header (← root.setBelow v key header) (← endLine rest)
      | _ => none

/-- The members of a document. A mark of the byte order may stand in front. -/
def read? (s : String) : Option (List (String × Json)) :=
  let cs := match s.toList with
    | '\uFEFF' :: cs => cs
    | cs => cs
  (lines? (cs.length + 1) [] [] cs).map Branches.membersJson

end ParcelDesk.Settings.Toml

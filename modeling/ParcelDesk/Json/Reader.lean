import ParcelDesk.Json.Node

/-!
Reading JSON text into nodes. The text comes as symbols, a symbol being a character or a part that
is no UTF-8, so that texts and raw bytes are read alike.
-/

namespace ParcelDesk.Json

abbrev Symbols := List (Option Char)

def isSpace (s : Option Char) : Bool :=
  s == some ' ' || s == some '\n' || s == some '\t' || s == some '\r'

def skipSpace (s : Symbols) : Symbols := s.dropWhile isSpace

def digitValue (c : Char) : Nat := c.toNat - '0'.toNat

def isDigitSymbol : Option Char → Bool
  | some c => c.isDigit
  | none => false

/-- The digits in front, and the rest. -/
def spanDigits : Symbols → List Char × Symbols
  | some c :: rest =>
    if c.isDigit then (c :: (spanDigits rest).1, (spanDigits rest).2) else ([], some c :: rest)
  | s => ([], s)

def digitsValue (ds : List Char) : Nat := ds.foldl (fun n c => n * 10 + digitValue c) 0

def hexValue? (c : Char) : Option Nat :=
  if c.isDigit then some (c.toNat - '0'.toNat)
  else if 'a' ≤ c && c ≤ 'f' then some (c.toNat - 'a'.toNat + 10)
  else if 'A' ≤ c && c ≤ 'F' then some (c.toNat - 'A'.toNat + 10)
  else none

/-- The bytes that symbols take up, a broken part counting as one. -/
def width (s : Symbols) : Nat := s.foldl (fun n c => n + (c.map Char.utf8Size).getD 1) 0

/-- The characters that a backslash stands before, except for hex escapes. -/
def escaped? (c : Char) : Option Char :=
  match c with
  | '"' => some '"'
  | '\\' => some '\\'
  | '/' => some '/'
  | 'b' => some '\x08'
  | 'f' => some '\x0c'
  | 'n' => some '\n'
  | 'r' => some '\r'
  | 't' => some '\t'
  | _ => none

/-- A broken literal is read no further. -/
def brokenLiteral (ending : LiteralEnd) : Literal × Symbols := (⟨[], ending⟩, [])

/-- Puts a piece before a literal that has been read. -/
def withPiece (p : Piece) (r : Literal × Symbols) : Literal × Symbols :=
  (⟨p :: r.1.pieces, r.1.ending⟩, r.2)

/-- The rest of a string literal after its opening quote. -/
def readLiteral : Symbols → Literal × Symbols
  | [] => brokenLiteral .eof
  | none :: rest => withPiece .stray (readLiteral rest)
  | some '"' :: rest => (⟨[], .closed⟩, rest)
  | some '\\' :: some 'u' :: some a :: some b :: some c :: some d :: rest =>
    match hexValue? a, hexValue? b, hexValue? c, hexValue? d with
    | some a, some b, some c, some d =>
      withPiece (.unit (a * 4096 + b * 256 + c * 16 + d)) (readLiteral rest)
    | _, _, _, _ => brokenLiteral .badHex
  | some '\\' :: some 'u' :: rest => brokenLiteral (if 4 ≤ width (rest.take 4) then .badHex else .eof)
  | some '\\' :: some c :: rest =>
    match escaped? c with
    | some e => withPiece (.char e) (readLiteral rest)
    | none => brokenLiteral .badEscape
  | some '\\' :: none :: _ => brokenLiteral .badEscape
  | some '\\' :: [] => brokenLiteral .eof
  | some c :: rest =>
    if c.toNat < 0x20 then brokenLiteral .control else withPiece (.char c) (readLiteral rest)

/-- What reading gives: a node, and the rest of the text unless the node is broken. -/
abbrev Reading := Node × Option Symbols

def broken (read passed : Misread) : Reading := (.broken read passed, none)

/-- A number breaks off at the end of the text or at a wrong symbol. -/
def brokenNumber (rest : Symbols) : Reading :=
  broken (if rest.isEmpty then .eofInValue else .invalidNumber) .invalidNumber

/-- The exponent, if one follows. -/
def readExponent (negative : Bool) (mantissa : Nat) (scale : Int) (plain : Bool) (s : Symbols) :
    Reading :=
  let finish (exponent : Int) (plain : Bool) (rest : Symbols) : Reading :=
    (.number ⟨negative, mantissa, scale + exponent, plain⟩, some rest)
  match s with
  | some c :: rest =>
    if c == 'e' || c == 'E' then
      let (down, rest) :=
        match rest with
        | some '+' :: rest => (false, rest)
        | some '-' :: rest => (true, rest)
        | rest => (false, rest)
      match spanDigits rest with
      | ([], rest) => brokenNumber rest
      | (ds, rest) => finish (if down then -(digitsValue ds : Int) else digitsValue ds) false rest
    else finish 0 plain s
  | s => finish 0 plain s

/-- A number after its sign. -/
def readNumber (negative : Bool) (s : Symbols) : Reading :=
  match spanDigits s with
  | ([], rest) => brokenNumber rest
  | ('0' :: _ :: _, _) => broken .invalidNumber .invalidNumber
  | (whole, some '.' :: rest) =>
    match spanDigits rest with
    | ([], rest) => brokenNumber rest
    | (part, rest) =>
      readExponent negative (digitsValue (whole ++ part)) (-(part.length : Int)) false rest
  | (whole, rest) => readExponent negative (digitsValue whole) 0 true rest

/-- The rest of one of the words null, true and false. -/
def readWord (node : Node) : List Char → Symbols → Reading
  | [], s => (node, some s)
  | _ :: _, [] => broken .eofInValue .eofInValue
  | c :: cs, d :: rest =>
    if d == some c then readWord node cs rest else broken .expectedWord .expectedWord

def readText (s : Symbols) : Reading :=
  let (l, rest) := readLiteral s
  (.text l, if l.ending = .closed then some rest else none)

mutual
/-- One value, blanks before it included. The first argument bounds the depth of the reading. -/
def readValue (fuel : Nat) (s : Symbols) : Reading :=
  match fuel with
  | 0 => broken .eofInValue .eofInValue
  | fuel + 1 =>
    match skipSpace s with
    | [] => broken .eofInValue .eofInValue
    | some 'n' :: rest => readWord .null ['u', 'l', 'l'] rest
    | some 't' :: rest => readWord (.bool true) ['r', 'u', 'e'] rest
    | some 'f' :: rest => readWord (.bool false) ['a', 'l', 's', 'e'] rest
    | some '"' :: rest => readText rest
    | some '-' :: rest => readNumber true rest
    | some '[' :: rest =>
      let (items, ending, rest) := readItems fuel true rest
      (.list items ending, rest)
    | some '\x7b' :: rest =>
      let (members, ending, rest) := readMembers fuel true rest
      (.map members ending, rest)
    | c :: rest =>
      if isDigitSymbol c then readNumber false (c :: rest) else broken .expectedValue .expectedValue
/-- The items of a list from one separator on. -/
def readItems (fuel : Nat) (first : Bool) (s : Symbols) : List Node × Ending × Option Symbols :=
  match fuel with
  | 0 => ([], .eof, none)
  | fuel + 1 =>
    let item (s : Symbols) : List Node × Ending × Option Symbols :=
      match readValue fuel s with
      | (n, none) => ([n], .closed, none)
      | (n, some rest) =>
        let (ns, ending, rest) := readItems fuel false rest
        (n :: ns, ending, rest)
    match skipSpace s with
    | [] => ([], .eof, none)
    | some ']' :: rest => ([], .closed, some rest)
    | c :: rest =>
      if first then item (c :: rest)
      else if c == some ',' then
        match skipSpace rest with
        | some ']' :: _ => ([], .commaThenEnd, none)
        | rest => item rest
      else ([], .junk, none)
/-- The members of an object from one separator on. -/
def readMembers (fuel : Nat) (first : Bool) (s : Symbols) :
    List (Literal × Node) × Ending × Option Symbols :=
  match fuel with
  | 0 => ([], .eof, none)
  | fuel + 1 =>
    let member (s : Symbols) : List (Literal × Node) × Ending × Option Symbols :=
      let (key, rest) := readLiteral s
      if key.ending ≠ .closed then ([(key, .null)], .closed, none)
      else
        match skipSpace rest with
        | [] => ([(key, .broken .eofInObject .eofInObject)], .closed, none)
        | some ':' :: rest =>
          match readValue fuel rest with
          | (n, none) => ([(key, n)], .closed, none)
          | (n, some rest) =>
            let (ms, ending, rest) := readMembers fuel false rest
            ((key, n) :: ms, ending, rest)
        | _ => ([(key, .broken .expectedColon .expectedColon)], .closed, none)
    let key (s : Symbols) : List (Literal × Node) × Ending × Option Symbols :=
      match s with
      | some '"' :: rest => member rest
      | s => ([], .notKey (readValue fuel s).1.found, none)
    match skipSpace s with
    | [] => ([], .eof, none)
    | some '\x7d' :: rest => ([], .closed, some rest)
    | c :: rest =>
      if first then key (c :: rest)
      else if c == some ',' then
        match skipSpace rest with
        | [] => ([], .commaThenEof, none)
        | some '\x7d' :: _ => ([], .commaThenEnd, none)
        | rest => key rest
      else ([], .junk, none)
end

/-- Reads a document. Every step takes a symbol, so twice the length bounds the depth. -/
def readSymbols (s : Symbols) : Document :=
  let (root, rest) := readValue (2 * s.length + 2) s
  ⟨root, (rest.map fun r => !(skipSpace r).isEmpty).getD false⟩

def read (s : String) : Document := readSymbols (s.toList.map some)

def readBytes (bs : List UInt8) : Document := readSymbols (Text.Utf8.symbols bs)

end ParcelDesk.Json

import ParcelDesk.Decimal.Notation
import ParcelDesk.Text.Bytes

/-!
What a reader has seen of a JSON document. A node tree keeps everything up to the first place where
the text stops being JSON, so that a wrong type in front of that place is noticed first, as it is
when values are taken while the text is read.
-/

namespace ParcelDesk.Json

/-- What is wrong with a text that should be JSON. -/
inductive Misread where
  | eofInValue
  | eofInObject
  | eofInList
  | eofInString
  | expectedValue
  | expectedWord
  | expectedColon
  | expectedCommaOrBracket
  | expectedCommaOrBrace
  | trailingComma
  | trailingCharacters
  | keyNotString
  | invalidNumber
  | numberOutOfRange
  | invalidEscape
  | cutSurrogatePair
  | loneSurrogate
  | controlCharacter
  | invalidCodePoint
deriving DecidableEq, Repr

def Misread.message : Misread → String
  | eofInValue => "EOF while parsing a value"
  | eofInObject => "EOF while parsing an object"
  | eofInList => "EOF while parsing a list"
  | eofInString => "EOF while parsing a string"
  | expectedValue => "expected value"
  | expectedWord => "expected ident"
  | expectedColon => "expected `:`"
  | expectedCommaOrBracket => "expected `,` or `]`"
  | expectedCommaOrBrace => "expected `,` or `\x7d`"
  | trailingComma => "trailing comma"
  | trailingCharacters => "trailing characters"
  | keyNotString => "key must be a string"
  | invalidNumber => "invalid number"
  | numberOutOfRange => "number out of range"
  | invalidEscape => "invalid escape"
  | cutSurrogatePair => "unexpected end of hex escape"
  | loneSurrogate => "lone leading surrogate in hex escape"
  | controlCharacter => "control character (\\u0000-\\u001F) found while parsing a string"
  | invalidCodePoint => "invalid unicode code point"

/-- A number as written: `± mantissa * 10 ^ exponent`, plain without a point and an exponent. -/
structure Numeral where
  negative : Bool
  mantissa : Nat
  exponent : Int
  plain : Bool
deriving DecidableEq, Repr

inductive Number where
  | int (n : Int)
  | real (x : Float)

/-- Plain numbers of 64 bits are integers. All others, and minus zero, are floating point. -/
def Numeral.number (n : Numeral) : Except Misread Number :=
  if n.plain && !n.negative && n.mantissa < 0x10000000000000000 then .ok (.int n.mantissa)
  else if n.plain && n.negative && 0 < n.mantissa && n.mantissa ≤ 0x8000000000000000 then
    .ok (.int (-(n.mantissa : Int)))
  else
    let x := Decimal.nearest n.negative n.mantissa n.exponent
    if x.isInf then .error .numberOutOfRange else .ok (.real x)

/-- A part of a string literal. A stray part is no UTF-8, and a unit is given by a hex escape. -/
inductive Piece where
  | char (c : Char)
  | stray
  | unit (u : Nat)
deriving DecidableEq, Repr

inductive LiteralEnd where
  | closed
  | eof
  | control
  | badEscape
  | badHex
deriving DecidableEq, Repr

/-- A string literal from its opening quote to its closing quote, or to its first flaw. -/
structure Literal where
  pieces : List Piece
  ending : LiteralEnd
deriving DecidableEq, Repr

/-- Where the literal ends wrongly when its text does not matter. -/
def LiteralEnd.flaw? : LiteralEnd → Option Misread
  | closed => none
  | eof => some .eofInString
  | control => some .controlCharacter
  | badEscape => some .invalidEscape
  | badHex => some .invalidEscape

/-- The flaw behind a leading surrogate that nothing completes. -/
def LiteralEnd.afterLeading : LiteralEnd → Misread
  | eof => .eofInString
  | badHex => .invalidEscape
  | _ => .cutSurrogatePair

def isLeading (u : Nat) : Bool := 0xD800 ≤ u && u < 0xDC00

def isTrailing (u : Nat) : Bool := 0xDC00 ≤ u && u < 0xE000

/-- The characters of a literal, two paired surrogates being one of them. -/
def piecesText (ending : LiteralEnd) : List Piece → Except Misread (List (Option Char))
  | [] =>
    match ending.flaw? with
    | some m => .error m
    | none => .ok []
  | .char c :: rest => (piecesText ending rest).map (some c :: ·)
  | .stray :: rest => (piecesText ending rest).map (none :: ·)
  | .unit u :: rest =>
    if isTrailing u then .error .loneSurrogate
    else if isLeading u then
      match rest with
      | .unit v :: rest =>
        if isTrailing v then
          (piecesText ending rest).map
            (some (Char.ofNat (0x10000 + (u - 0xD800) * 1024 + (v - 0xDC00))) :: ·)
        else .error .loneSurrogate
      | _ :: _ => .error .cutSurrogatePair
      | [] => .error ending.afterLeading
    else (piecesText ending rest).map (some (Char.ofNat u) :: ·)

/-- The text of a literal. Stray bytes are found only once the literal has ended well. -/
def Literal.text (l : Literal) : Except Misread String := do
  let symbols ← piecesText l.ending l.pieces
  match symbols.mapM id with
  | some cs => .ok (String.ofList cs)
  | none => .error .invalidCodePoint

/-- A value whose kind is not the one that was asked for. -/
inductive Found where
  | null
  | bool (b : Bool)
  | int (n : Int)
  | real (x : Float)
  | text (s : String)
  | list
  | map

/-- How a list or an object ends. -/
inductive Ending where
  | closed
  | eof
  | commaThenEnd
  | commaThenEof
  | junk
  | notKey (seen : Except Misread Found)

/-- A document up to its first flaw. A broken node knows what a reader of its value reports, and
what a reader reports that only passes over it. Nodes after a broken one are missing. -/
inductive Node where
  | null
  | bool (b : Bool)
  | number (n : Numeral)
  | text (l : Literal)
  | list (items : List Node) (ending : Ending)
  | map (members : List (Literal × Node)) (ending : Ending)
  | broken (read passed : Misread)

namespace Node

/-- The kind and value of a node, for a message about it. -/
def found : Node → Except Misread Found
  | null => .ok .null
  | bool b => .ok (.bool b)
  | number n => n.number.map fun
    | .int i => .int i
    | .real x => .real x
  | text l => l.text.map .text
  | list _ _ => .ok .list
  | map _ _ => .ok .map
  | broken read _ => .error read

end Node

/-- What a reader of the items finds at the end of a list. -/
def Ending.listFlaw? : Ending → Option Misread
  | closed => none
  | eof => some .eofInList
  | commaThenEnd => some .trailingComma
  | _ => some .expectedCommaOrBracket

def Ending.mapFlaw? : Ending → Option Misread
  | closed => none
  | eof => some .eofInObject
  | commaThenEnd => some .trailingComma
  | commaThenEof => some .eofInValue
  | junk => some .expectedCommaOrBrace
  | notKey _ => some .keyNotString

/-- What a reader finds at the end of a list that it only passes over. -/
def Ending.passedListFlaw? : Ending → Option Misread
  | commaThenEnd => some .expectedValue
  | e => e.listFlaw?

def Ending.passedMapFlaw? : Ending → Option Misread
  | commaThenEnd => some .keyNotString
  | commaThenEof => some .eofInObject
  | e => e.mapFlaw?

/-- What a reader finds after the last item that it wants. -/
def Ending.listSurplus? : Ending → Option Misread
  | closed => none
  | eof => some .eofInList
  | commaThenEnd => some .trailingComma
  | _ => some .trailingCharacters

namespace Node

mutual
/-- The first flaw in a node that is passed over: only its syntax counts, and numbers of any size
and any surrogates will do. -/
def passedFlaw? : Node → Option Misread
  | text l => l.ending.flaw?
  | list items ending => (itemsFlaw? items).or ending.passedListFlaw?
  | map members ending => (membersFlaw? members).or ending.passedMapFlaw?
  | broken _ passed => some passed
  | _ => none
def itemsFlaw? : List Node → Option Misread
  | [] => none
  | n :: ns => n.passedFlaw?.or (itemsFlaw? ns)
def membersFlaw? : List (Literal × Node) → Option Misread
  | [] => none
  | (k, n) :: ms => (k.ending.flaw?.or n.passedFlaw?).or (membersFlaw? ms)
end

end Node

/-- A whole document: its value, and whether anything but blanks follows. -/
structure Document where
  root : Node
  surplus : Bool

end ParcelDesk.Json

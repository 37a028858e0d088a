import ParcelDesk.Decimal.Notation

/-!
Reading numbers. Digits of an integer are taken from left to right, and the first one that is wrong
or leads out of the bounds decides the flaw. A floating-point number has digits with an optional
point, sign and exponent, or a name if it is not finite.
-/

namespace ParcelDesk.Decimal

inductive IntegerFlaw where
  | empty
  | invalidDigit
  | tooLarge
  | tooSmall
deriving DecidableEq, Repr

def IntegerFlaw.message : IntegerFlaw → String
  | empty => "cannot parse integer from empty string"
  | invalidDigit => "invalid digit found in string"
  | tooLarge => "number too large to fit in target type"
  | tooSmall => "number too small to fit in target type"

def digitsFrom (bound : Nat) (overflow : IntegerFlaw) (n : Nat) :
    List Char → Except IntegerFlaw Nat
  | [] => .ok n
  | c :: cs =>
    if !c.isDigit then .error .invalidDigit
    else
      let m := n * 10 + (c.toNat - '0'.toNat)
      if m ≤ bound then digitsFrom bound overflow m cs else .error overflow

def natural (bound : Nat) (cs : List Char) : Except IntegerFlaw Nat :=
  if cs.isEmpty then .error .invalidDigit else digitsFrom bound .tooLarge 0 cs

/-- An unsigned number with an optional plus sign. -/
def readNatural (bound : Nat) : List Char → Except IntegerFlaw Nat
  | [] => .error .empty
  | '+' :: cs => natural bound cs
  | cs => natural bound cs

/-- A number of 64 bits with an optional sign. -/
def readInt64 : List Char → Except IntegerFlaw Int
  | [] => .error .empty
  | '-' :: cs =>
    if cs.isEmpty then .error .invalidDigit
    else (digitsFrom 0x8000000000000000 .tooSmall 0 cs).map fun n => -(n : Int)
  | cs => (readNatural 0x7FFFFFFFFFFFFFFF cs).map Int.ofNat

/-- The value of a digit sequence. -/
def digitsValue (ds : List Char) : Nat := ds.foldl (fun n c => n * 10 + (c.toNat - '0'.toNat)) 0

/-- A sign, if there is one, and the rest. -/
def splitSign : List Char → Bool × List Char
  | '-' :: cs => (true, cs)
  | '+' :: cs => (false, cs)
  | cs => (false, cs)

/-- A whole exponent behind its letter, or none. -/
def readExponent? : List Char → Option Int
  | [] => some 0
  | e :: cs =>
    if e ≠ 'e' && e ≠ 'E' then none
    else
      let (negative, ds) := splitSign cs
      if ds.isEmpty || !ds.all Char.isDigit then none
      else some (if negative then -(digitsValue ds : Int) else digitsValue ds)

/-- Digits before and after a point; one of the two may be missing. -/
def readFinite? (negative : Bool) (cs : List Char) : Option Float :=
  let whole := cs.takeWhile Char.isDigit
  let rest := cs.dropWhile Char.isDigit
  let (part, rest) :=
    match rest with
    | '.' :: more => (more.takeWhile Char.isDigit, more.dropWhile Char.isDigit)
    | _ => ([], rest)
  if whole.isEmpty && part.isEmpty then none
  else
    (readExponent? rest).map fun e =>
      nearest negative (digitsValue (whole ++ part)) (e - part.length)

/-- The double that a text names. -/
def readReal? (cs : List Char) : Option Float :=
  let (negative, cs) := splitSign cs
  match String.ofList (cs.map Char.toLower) with
  | "inf" | "infinity" => some (if negative then -1.0 / 0.0 else 1.0 / 0.0)
  | "nan" => some (0.0 / 0.0)
  | _ => readFinite? negative cs

end ParcelDesk.Decimal

import ParcelDesk.Decimal.Shortest

/-!
Written forms of numbers: plain text without an exponent, numbers of JSON documents, and sixteen
hexadecimal digits of the bits. Reading goes from a decimal mantissa and exponent to the nearest
double.
-/

namespace ParcelDesk.Decimal

def digit (n : Nat) : Char := Nat.digitChar n

/-- The decimal digits of a natural number. -/
def naturalDigits (n : Nat) : List Char := Nat.toDigits 10 n

/-- The decimal text of an integer. -/
def integerDigits (n : Int) : List Char :=
  if n < 0 then '-' :: naturalDigits n.natAbs else naturalDigits n.natAbs

/-- The last `width` decimal digits, with leading zeros. -/
def fixedDigits : Nat → Nat → List Char
  | 0, _ => []
  | width + 1, n => fixedDigits width (n / 10) ++ [digit (n % 10)]

/-- At least `width` decimal digits, with leading zeros. -/
def paddedDigits (width n : Nat) : List Char :=
  let ds := naturalDigits n
  List.replicate (width - ds.length) '0' ++ ds

def negativeSign (x : Float) : Bool := x.toBits ≥ 0x8000000000000000

/-- Digits of a decimal with the point written out. -/
def positional (d : Scientific) : List Char :=
  let ds := naturalDigits d.coefficient
  if 0 ≤ d.exponent then ds ++ List.replicate d.exponent.toNat '0'
  else
    let places := (-d.exponent).toNat
    if places < ds.length then
      ds.take (ds.length - places) ++ '.' :: ds.drop (ds.length - places)
    else '0' :: '.' :: (List.replicate (places - ds.length) '0' ++ ds)

def signed (x : Float) (magnitude : List Char) : List Char :=
  if negativeSign x then '-' :: magnitude else magnitude

def positiveBits (x : Float) : Nat := x.toBits.toNat % 0x8000000000000000

/-- Plain text: the shortest digits, never an exponent, a tie going up. -/
def plain (x : Float) : String :=
  String.ofList <|
    if x.isNaN then "NaN".toList
    else if x.isInf then signed x "inf".toList
    else if x == 0 then signed x ['0']
    else signed x (positional (shortest .up (positiveBits x)))

/-- A power of ten: its sign and at least two digits. -/
def powerText (n : Int) : List Char :=
  'e' :: (if n < 0 then '-' else '+') :: paddedDigits 2 n.natAbs

/-- Digits with a point or an exponent, as JSON documents write a floating-point number. -/
def pointed (d : Scientific) : List Char :=
  let ds := naturalDigits d.coefficient
  let point := ds.length + d.exponent
  if 0 ≤ d.exponent && point ≤ 16 then positional d ++ ['.', '0']
  else if -5 < point && point ≤ 16 then positional d
  else
    let power := powerText (point - 1)
    match ds with
    | [] => []
    | [c] => c :: power
    | c :: more => c :: '.' :: (more ++ power)

/-- The number of a JSON document: the shortest digits, always with a point or an exponent, which
is used from `1e+16` up and below `1e-05`. What is not finite has no number. -/
def jsonNumber? (x : Float) : Option String :=
  if x.isNaN || x.isInf then none
  else if x == 0 then some (String.ofList (signed x "0.0".toList))
  else some (String.ofList (signed x (pointed (shortest .even (positiveBits x)))))

def hexDigits : Nat → Nat → List Char
  | 0, _ => []
  | width + 1, n => hexDigits width (n / 16) ++ [digit (n % 16)]

/-- Sixteen hexadecimal digits of the bits; every NaN is alike. -/
def bitText (x : Float) : String :=
  if x.isNaN then "nan" else String.ofList (hexDigits 16 x.toBits.toNat)

/-- The double nearest to `± mantissa * 10 ^ exponent`. Powers far out of range are cut short. -/
def nearest (negative : Bool) (mantissa : Nat) (exponent : Int) : Float :=
  let top : Int := (naturalDigits mantissa).length + exponent
  let x :=
    if mantissa = 0 || top < -400 then 0.0
    else if 400 < top then 1.0 / 0.0
    else if exponent < 0 then Float.ofScientific mantissa true exponent.natAbs
    else Float.ofScientific (mantissa * Nat.pow 10 exponent.toNat) false 0
  if negative then -x else x

end ParcelDesk.Decimal

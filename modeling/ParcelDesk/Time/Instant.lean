import ParcelDesk.Decimal.Notation
import ParcelDesk.Json.Decode
import ParcelDesk.Json.Value
import ParcelDesk.Text.Basic
import ParcelDesk.Time.Civil

/-!
Points in time, in seconds from 1970 and nanoseconds. Within a leap second the nanoseconds go past
one billion, and it is written as second 60. Texts follow RFC 3339, also in JSON; reading is a
little wider.
-/

namespace ParcelDesk

structure Instant where
  seconds : Int
  nanos : Nat
deriving DecidableEq, Repr, Inhabited

namespace Instant

def le (a b : Instant) : Bool := a.seconds < b.seconds || (a.seconds = b.seconds && a.nanos ≤ b.nanos)

def lt (a b : Instant) : Bool := a.seconds < b.seconds || (a.seconds = b.seconds && a.nanos < b.nanos)

/-- The seconds for which a calendar date can be told: years -262143 to 262142. -/
def earliest : Int := -8334601228800

def latest : Int := 8210266876799

/-- The instant of a count of seconds, if the calendar reaches it. -/
def ofSeconds? (n : Int) : Option Instant :=
  if earliest ≤ n && n ≤ latest then some ⟨n, 0⟩ else none

def addSeconds (a : Instant) (n : Int) : Instant := ⟨a.seconds + n, a.nanos⟩

def date (a : Instant) : Time.Date := Time.Date.ofDays (a.seconds / 86400)

def secondOfDay (a : Instant) : Nat := (a.seconds % 86400).toNat

def hour (a : Instant) : Nat := a.secondOfDay / 3600

def minute (a : Instant) : Nat := a.secondOfDay / 60 % 60

/-- The written second, which is 60 within a leap second. -/
def second (a : Instant) : Nat := a.secondOfDay % 60 + (if a.nanos < 1000000000 then 0 else 1)

def two (n : Nat) : List Char := Decimal.paddedDigits 2 n

/-- Four digits for the years 0 to 9999, and a sign before all others. -/
def yearText (y : Int) : List Char :=
  if 0 ≤ y && y ≤ 9999 then Decimal.paddedDigits 4 y.toNat
  else (if y < 0 then '-' else '+') :: Decimal.paddedDigits 4 y.natAbs

def dateText (d : Time.Date) : List Char :=
  yearText d.year ++ '-' :: two d.month ++ '-' :: two d.day

def clockText (a : Instant) : List Char :=
  two a.hour ++ ':' :: two a.minute ++ ':' :: two a.second

/-- Three, six or nine digits of the fraction, as many as it needs. -/
def fractionText (nanos : Nat) : List Char :=
  let n := nanos % 1000000000
  if n = 0 then []
  else if n % 1000000 = 0 then '.' :: Decimal.paddedDigits 3 (n / 1000000)
  else if n % 1000 = 0 then '.' :: Decimal.paddedDigits 6 (n / 1000)
  else '.' :: Decimal.paddedDigits 9 n

def localText (a : Instant) : List Char :=
  dateText a.date ++ 'T' :: (clockText a ++ fractionText a.nanos)

/-- RFC 3339 with the letter Z for the zone. -/
def zuluText (a : Instant) : String := String.ofList (a.localText ++ ['Z'])

/-- RFC 3339 with a numeric offset of zero. -/
def offsetText (a : Instant) : String := String.ofList (a.localText ++ "+00:00".toList)

/-- Why a text is no time. -/
inductive Flaw where
  | outOfRange
  | invalid
  | tooShort
  | tooLong
deriving DecidableEq, Repr

def Flaw.message : Flaw → String
  | outOfRange => "input is out of range"
  | invalid => "input contains invalid characters"
  | tooShort => "premature end of input"
  | tooLong => "trailing input"

/-- At least one digit, and at most so many. -/
def scanDigits (most : Nat) (cs : List Char) : Except Flaw (List Char × List Char) :=
  match cs with
  | [] => .error .tooShort
  | _ =>
    let ds := (cs.take most).takeWhile Char.isDigit
    if ds.isEmpty then .error .invalid else .ok (ds, cs.drop ds.length)

def digitsNat (ds : List Char) : Nat := ds.foldl (fun n c => n * 10 + (c.toNat - '0'.toNat)) 0

def scanWithin (low high : Nat) (cs : List Char) : Except Flaw (Nat × List Char) := do
  let (ds, rest) ← scanDigits 2 (Text.trimStart cs)
  let n := digitsNat ds
  if low ≤ n && n ≤ high then pure (n, rest) else throw .outOfRange

/-- Four digits at most, or any number of them behind a sign. -/
def scanYear (cs : List Char) : Except Flaw (Int × List Char) := do
  let fit (n : Int) : Except Flaw Int :=
    if -2147483648 ≤ n && n < 2147483648 then .ok n else .error .outOfRange
  match Text.trimStart cs with
  | '-' :: cs =>
    let (ds, rest) ← scanDigits cs.length cs
    pure (← fit (-(digitsNat ds : Int)), rest)
  | '+' :: cs =>
    let (ds, rest) ← scanDigits cs.length cs
    pure (← fit (digitsNat ds), rest)
  | cs =>
    let (ds, rest) ← scanDigits 4 cs
    pure (digitsNat ds, rest)

def expectChar (c : Char) (cs : List Char) : Except Flaw (List Char) :=
  match Text.trimStart cs with
  | [] => .error .tooShort
  | d :: rest => if c = d then .ok rest else .error .invalid

def expectSeparator : List Char → Except Flaw (List Char)
  | [] => .error .tooShort
  | c :: rest => if c = 'T' || c = 't' || c = ' ' then .ok rest else .error .invalid

/-- Digits past the ninth are dropped. -/
def scanFraction : List Char → Except Flaw (Nat × List Char)
  | '.' :: cs => do
    let (ds, rest) ← scanDigits 9 cs
    pure (digitsNat ds * Nat.pow 10 (9 - ds.length), rest.dropWhile Char.isDigit)
  | cs => .ok (0, cs)

def scanOffset (cs : List Char) : Except Flaw (Int × List Char) :=
  let signed (negative : Bool) (cs : List Char) : Except Flaw (Int × List Char) :=
    match cs with
    | a :: b :: rest =>
      if !(a.isDigit && b.isDigit) then .error .invalid
      else
        match rest.dropWhile fun c => c = ':' || Text.isBlank c with
        | c :: d :: rest =>
          if !(c.isDigit && d.isDigit) then .error .invalid
          else if '5' < c then .error .outOfRange
          else
            let n : Int := digitsNat [a, b] * 3600 + digitsNat [c, d] * 60
            .ok (if negative then -n else n, rest)
        | _ => .error .tooShort
    | _ => .error .tooShort
  match cs with
  | [] => .error .tooShort
  | 'Z' :: rest => .ok (0, rest)
  | 'z' :: rest => .ok (0, rest)
  | '+' :: rest => signed false rest
  | '-' :: rest => signed true rest
  | '\u2212' :: rest => signed true rest
  | a :: b :: c :: rest =>
    if [a, b, c].map Char.toLower = ['u', 't', 'c'] then .ok (0, rest) else .error .invalid
  | _ => .error .invalid

/-- The instant of a date and a wall-clock time in seconds that is ahead of UTC by an offset. -/
def ofCivil? (d : Time.Date) (clock : Int) (offset : Int) (nanos : Nat) : Option Instant :=
  if d.valid && -86400 < offset && offset < 86400 then
    let n := d.toDays * 86400 + clock - offset
    if earliest ≤ n && n ≤ latest then some ⟨n, nanos⟩ else none
  else none

/-- Reads a date, a time and an offset. Second 60 is a leap second. -/
def read (s : String) : Except Flaw Instant := do
  let (year, cs) ← scanYear s.toList
  let cs ← expectChar '-' cs
  let (month, cs) ← scanWithin 1 12 cs
  let cs ← expectChar '-' cs
  let (day, cs) ← scanWithin 1 31 cs
  let cs ← expectSeparator cs
  let (hour, cs) ← scanWithin 0 23 cs
  let cs ← expectChar ':' cs
  let (minute, cs) ← scanWithin 0 59 cs
  let cs ← expectChar ':' cs
  let (second, cs) ← scanWithin 0 60 cs
  let (nanos, cs) ← scanFraction cs
  let (offset, cs) ← scanOffset (Text.trimStart cs)
  if !(Text.trimStart cs).isEmpty then throw .tooLong
  let whole : Int := hour * 3600 + minute * 60 + min second 59
  let nanos := if second = 60 then nanos + 1000000000 else nanos
  match ofCivil? ⟨year, month, day⟩ whole offset nanos with
  | some a => pure a
  | none => throw .outOfRange

def toJson (a : Instant) : Json := .str a.zuluText

def decode : Json.Decoder Instant
  | .text l => do
    match read (← Json.lift l.text) with
    | .ok a => pure a
    | .error flaw => throw (.refused flaw.message)
  | n => Json.mismatch n "an RFC 3339 formatted date and time string"

end Instant

end ParcelDesk

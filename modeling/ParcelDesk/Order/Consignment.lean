import ParcelDesk.Time.Instant

/-!
Consignment ids: a configured lead, the UTC day in six digits, and six symbols drawn at random.
A random word of 64 bits picks a symbol by its high part; words whose low part would make some
symbols likelier than others are thrown away.
-/

namespace ParcelDesk.Consignment

def alphabet : List Char := "ABCDEFGHIJKLMNOPQRSTUVWXYZ0123456789".toList

def suffixLength : Nat := 6

/-- The symbol that a word picks, unless the word is thrown away. -/
def symbol? (word : UInt64) : Option Char :=
  let product := 36 * word.toNat
  if product % 0x10000000000000000 < 36 * 0x400000000000000 then
    alphabet[product / 0x10000000000000000]?
  else none

/-- Draws so many symbols; the words that were not needed are left. -/
def draw : Nat → List UInt64 → Option (List Char × List UInt64)
  | 0, words => some ([], words)
  | _ + 1, [] => none
  | n + 1, w :: words =>
    match symbol? w with
    | none => draw (n + 1) words
    | some c => (draw n words).map fun (cs, rest) => (c :: cs, rest)

/-- Year, month and day in two digits each. -/
def dayText (now : Instant) : List Char :=
  let d := now.date
  Instant.two (d.year % 100).toNat ++ Instant.two d.month ++ Instant.two d.day

/-- The id for a day and drawn symbols. -/
def idOf (lead : String) (now : Instant) (suffix : List Char) : String :=
  lead ++ String.ofList (dayText now ++ suffix)

/-- The id is one of the day: its lead, the day, and six symbols of the alphabet. -/
def isIdOf (lead : String) (now : Instant) (id : String) : Bool :=
  let stem := lead.toList ++ dayText now
  let suffix := id.toList.drop stem.length
  id.toList.take stem.length = stem && suffix.length = suffixLength && suffix.all alphabet.contains

/-- An id from random words, if they suffice, and the words that are left. -/
def generate (lead : String) (now : Instant) (words : List UInt64) :
    Option (String × List UInt64) :=
  (draw suffixLength words).map fun (suffix, rest) => (idOf lead now suffix, rest)

end ParcelDesk.Consignment

/-!
Texts as bytes. UTF-8 is read per symbol: a character, or a byte that is part of no character.
Strict readers refuse such bytes, and lenient ones show the replacement character once per maximal
broken part. In a percent escape, a percent sign and two hexadecimal digits stand for a byte; a
percent sign without them stands for itself.
-/

namespace ParcelDesk.Text.Utf8

/-- The bytes of one code point. -/
def encodeChar (c : Char) : List UInt8 :=
  let n := c.toNat
  if n < 0x80 then [n.toUInt8]
  else if n < 0x800 then [(0xC0 + n / 64).toUInt8, (0x80 + n % 64).toUInt8]
  else if n < 0x10000 then
    [(0xE0 + n / 4096).toUInt8, (0x80 + n / 64 % 64).toUInt8, (0x80 + n % 64).toUInt8]
  else
    [(0xF0 + n / 262144).toUInt8, (0x80 + n / 4096 % 64).toUInt8, (0x80 + n / 64 % 64).toUInt8,
      (0x80 + n % 64).toUInt8]

def encode (cs : List Char) : List UInt8 := cs.flatMap encodeChar

def bytes (s : String) : List UInt8 := encode s.toList

/-- Bytes that continue a character. -/
def isTail (b : UInt8) : Bool := 0x80 ≤ b && b < 0xC0

def tailBits (b : UInt8) : Nat := b.toNat % 64

/-- The second byte that may follow a leading byte: overlong forms, surrogates and code points
past U+10FFFF are cut off here. -/
def secondFits (lead second : UInt8) : Bool :=
  isTail second &&
    (if lead == 0xE0 then 0xA0 ≤ second
    else if lead == 0xED then second < 0xA0
    else if lead == 0xF0 then 0x90 ≤ second
    else if lead == 0xF4 then second < 0x90
    else true)

/-- What the first bytes hold, and how many they are: a character or a maximal broken part. -/
def next (lead : UInt8) (rest : List UInt8) : Option Char × Nat :=
  if lead < 0x80 then (some (Char.ofNat lead.toNat), 1)
  else if lead < 0xC2 then (none, 1)
  else
    match rest with
    | [] => (none, 1)
    | b :: rest =>
      if lead < 0xE0 then
        if isTail b then (some (Char.ofNat (lead.toNat % 32 * 64 + tailBits b)), 2) else (none, 1)
      else if lead < 0xF5 then
        if !secondFits lead b then (none, 1)
        else
          match rest with
          | [] => (none, 2)
          | c :: rest =>
            if !isTail c then (none, 2)
            else if lead < 0xF0 then
              (some (Char.ofNat (lead.toNat % 16 * 4096 + tailBits b * 64 + tailBits c)), 3)
            else
              match rest with
              | [] => (none, 3)
              | d :: _ =>
                if isTail d then
                  (some (Char.ofNat
                    (lead.toNat % 8 * 262144 + tailBits b * 4096 + tailBits c * 64 + tailBits d)), 4)
                else (none, 3)
      else (none, 1)

/-- Characters, with one `none` for every maximal broken part. The count of bytes still covered by
the last symbol makes the recursion structural. -/
def symbolsFrom (covered : Nat) : List UInt8 → List (Option Char)
  | [] => []
  | b :: rest =>
    match covered with
    | k + 1 => symbolsFrom k rest
    | 0 => (next b rest).1 :: symbolsFrom ((next b rest).2 - 1) rest

def symbols (bs : List UInt8) : List (Option Char) := symbolsFrom 0 bs

/-- The text of the bytes with broken parts shown as U+FFFD. -/
def decodeLossy (bs : List UInt8) : List Char := (symbols bs).map fun s => s.getD '\uFFFD'

end ParcelDesk.Text.Utf8

namespace ParcelDesk.Text.Percent

def hexValue? (b : UInt8) : Option UInt8 :=
  if 0x30 ≤ b && b ≤ 0x39 then some (b - 0x30)
  else if 0x41 ≤ b && b ≤ 0x46 then some (b - 0x41 + 10)
  else if 0x61 ≤ b && b ≤ 0x66 then some (b - 0x61 + 10)
  else none

def decode : List UInt8 → List UInt8
  | [] => []
  | 0x25 :: h :: l :: rest =>
    match hexValue? h, hexValue? l with
    | some a, some b => (a * 16 + b) :: decode rest
    | _, _ => 0x25 :: decode (h :: l :: rest)
  | b :: rest => b :: decode rest

/-- The text of the decoded bytes, broken characters being replaced. -/
def decodeText (cs : List Char) : List Char := Utf8.decodeLossy (decode (Utf8.encode cs))

end ParcelDesk.Text.Percent

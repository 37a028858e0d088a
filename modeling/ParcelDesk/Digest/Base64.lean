/-!
Base 64 without padding: three bytes are four symbols, and bits that are left over at the end are
zero. An alphabet lists its sixty-four symbols in order.
-/

namespace ParcelDesk.Digest.Base64

abbrev Alphabet := List Char

/-- Letters, digits, hyphen and underscore, as in web addresses. -/
def url : Alphabet := "ABCDEFGHIJKLMNOPQRSTUVWXYZabcdefghijklmnopqrstuvwxyz0123456789-_".toList

/-- The alphabet of password hashes. -/
def crypt : Alphabet := "./ABCDEFGHIJKLMNOPQRSTUVWXYZabcdefghijklmnopqrstuvwxyz0123456789".toList

def symbol (a : Alphabet) (n : Nat) : Char := a.getD n '='

def value? (a : Alphabet) (c : Char) : Option Nat := a.findIdx? (· == c)

def encode (a : Alphabet) : List UInt8 → List Char
  | [] => []
  | [x] => [symbol a (x.toNat / 4), symbol a (x.toNat % 4 * 16)]
  | [x, y] =>
    let n := x.toNat * 256 + y.toNat
    [symbol a (n / 1024), symbol a (n / 16 % 64), symbol a (n % 16 * 4)]
  | x :: y :: z :: rest =>
    let n := (x.toNat * 256 + y.toNat) * 256 + z.toNat
    symbol a (n / 262144) :: symbol a (n / 4096 % 64) :: symbol a (n / 64 % 64) ::
      symbol a (n % 64) :: encode a rest

/-- Refuses other symbols, a lone last one, and bits left over that are not zero. -/
def decode (a : Alphabet) : List Char → Option (List UInt8)
  | [] => some []
  | [_] => none
  | [p, q] => do
    let i ← value? a p
    let j ← value? a q
    if j % 16 = 0 then some [UInt8.ofNat (i * 4 + j / 16)] else none
  | [p, q, r] => do
    let i ← value? a p
    let j ← value? a q
    let k ← value? a r
    if k % 4 = 0 then some [UInt8.ofNat (i * 4 + j / 16), UInt8.ofNat (j % 16 * 16 + k / 4)]
    else none
  | p :: q :: r :: s :: rest => do
    let i ← value? a p
    let j ← value? a q
    let k ← value? a r
    let l ← value? a s
    let more ← decode a rest
    some (UInt8.ofNat (i * 4 + j / 16) :: UInt8.ofNat (j % 16 * 16 + k / 4) ::
      UInt8.ofNat (k % 4 * 64 + l) :: more)

end ParcelDesk.Digest.Base64

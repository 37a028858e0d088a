import ParcelDesk.Decimal.Notation
import ParcelDesk.Decimal.Reading
import ParcelDesk.Digest.Base64
import ParcelDesk.Digest.Blowfish
import ParcelDesk.Failure
import ParcelDesk.Text.Basic
import ParcelDesk.Text.Bytes

/-!
Password hashes. A hash names its variant and its cost and holds a salt and a digest. Only the first
72 bytes of a password, its closing zero byte included, have a part in it.
-/

namespace ParcelDesk.Password

/-- The bytes of a password that are hashed. -/
def keyBytes (password : String) : List UInt8 := (Text.Utf8.bytes password ++ [0]).take 72

def allowedCost (cost : Nat) : Bool := 4 ≤ cost && cost ≤ 31

/-- The digest without its last byte. -/
def digest (password : String) (cost : Nat) (salt : List UInt8) : List UInt8 :=
  (Digest.Blowfish.digest cost (keyBytes password) salt).take 23

def encode (bytes : List UInt8) : List Char := Digest.Base64.encode Digest.Base64.crypt bytes

/-- The hash of a password under a fresh salt of sixteen bytes. -/
def hash (password : String) (cost : Nat) (salt : List UInt8) : Except Failure String :=
  if allowedCost cost then
    .ok (String.ofList ("$2b$".toList ++ Decimal.paddedDigits 2 cost ++ '$' ::
      (encode salt ++ encode (digest password cost salt))))
  else
    .error (.internal
      s!"Failed to hash password: Cost needs to be between 4 and 31, got {cost}")

structure Parts where
  cost : Nat
  salt : List UInt8
  digest : List UInt8
deriving DecidableEq, Repr

/-- The parts of a hash: three that are not empty between dollar signs, the last of 53 symbols. -/
def parts? (hash : String) : Option Parts :=
  match (Text.splitOn '$' hash.toList).filter fun part => !part.isEmpty with
  | [variant, cost, rest] => do
    if !(["2a", "2b", "2x", "2y"].contains (String.ofList variant)) then none
    let cost ← (Decimal.readNatural 0xFFFFFFFF cost).toOption
    if rest.length ≠ 53 || !allowedCost cost then none
    let salt ← Digest.Base64.decode Digest.Base64.crypt (rest.take 22)
    let digest ← Digest.Base64.decode Digest.Base64.crypt (rest.drop 22)
    some ⟨cost, salt, digest⟩
  | _ => none

/-- The password has this hash. What is no hash belongs to no password. -/
def verify (password hash : String) : Bool :=
  match parts? hash with
  | some p => digest password p.cost p.salt == p.digest
  | none => false

end ParcelDesk.Password

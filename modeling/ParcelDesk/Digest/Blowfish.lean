/-!
The Blowfish cipher with the expensive key schedule that passwords are hashed with. Its tables hold
the first hexadecimal digits of the fraction of pi, computed here by Machin's formula.
-/

namespace ParcelDesk.Digest.Blowfish

/-- The sum of `± one / (k * x ^ k)` over odd `k` from `k` on, where `power` is `one / x ^ k`. -/
def arctanFrom (square : Nat) (positive : Bool) (k power : Nat) : Nat → Int
  | 0 => 0
  | terms + 1 =>
    let term : Int := power / k
    (if positive then term else -term) + arctanFrom square (!positive) (k + 2) (power / square) terms

/-- The arc tangent of `1 / x` in units of `1 / one`. -/
def arctan (one x : Nat) : Int := arctanFrom (x * x) true 1 (one / x) (one.log2 / (2 * (x.log2)) + 1)

def tableWords : Nat := 18 + 1024

/-- The fraction of pi in words of 32 bits; 64 more bits take up what rounding leaves over. -/
def piFraction : Nat :=
  let one := Nat.pow 2 (32 * tableWords + 64)
  let pi := 16 * arctan one 5 - 4 * arctan one 239
  pi.toNat % one / 0x10000000000000000

/-- The lowest words of a number, the highest of them first. -/
def wordsOf : Nat → Nat → List UInt32 → List UInt32
  | 0, _, acc => acc
  | count + 1, n, acc => wordsOf count (n / 0x100000000) (UInt32.ofNat (n % 0x100000000) :: acc)

def piWords : Array UInt32 := (wordsOf tableWords piFraction []).toArray

/-- Eighteen round keys, and four tables of 256 words one after the other. -/
structure Cipher where
  keys : Array UInt32
  tables : Array UInt32

def initial : Cipher := ⟨piWords.extract 0 18, piWords.extract 18 tableWords⟩

def mix (tables : Array UInt32) (x : UInt32) : UInt32 :=
  let a := tables.getD (x >>> 24).toNat 0
  let b := tables.getD (256 + ((x >>> 16) &&& 255).toNat) 0
  let c := tables.getD (512 + ((x >>> 8) &&& 255).toNat) 0
  let d := tables.getD (768 + (x &&& 255).toNat) 0
  ((a + b) ^^^ c) + d

/-- Sixteen rounds from round `i` on, in pairs. -/
def rounds (c : Cipher) (i : Nat) (l r : UInt32) : Nat → UInt32 × UInt32
  | 0 => (r ^^^ c.keys.getD 17 0, l ^^^ c.keys.getD 16 0)
  | pairs + 1 =>
    let l := l ^^^ c.keys.getD i 0
    let r := r ^^^ mix c.tables l
    let r := r ^^^ c.keys.getD (i + 1) 0
    let l := l ^^^ mix c.tables r
    rounds c (i + 2) l r pairs

def encrypt (c : Cipher) (l r : UInt32) : UInt32 × UInt32 := rounds c 0 l r 8

/-- The word of four bytes of a cyclic text from a byte on. -/
def cyclicWord (text : Array UInt8) (i : Nat) : UInt32 :=
  let byte (k : Nat) : UInt32 := (text.getD ((i + k) % text.size) 0).toUInt32
  (byte 0 <<< 24) ||| (byte 1 <<< 16) ||| (byte 2 <<< 8) ||| byte 3

def mixKey (c : Cipher) (key : Array UInt8) : Cipher :=
  ⟨(Array.range 18).map fun i => c.keys.getD i 0 ^^^ cyclicWord key (4 * i), c.tables⟩

/-- Replaces the round keys two by two by encrypted text, with the salt mixed into the text. -/
def fillKeys (salt : Array UInt8) (i : Nat) (l r : UInt32) (c : Cipher) :
    Nat → Cipher × UInt32 × UInt32
  | 0 => (c, l, r)
  | steps + 1 =>
    let (l, r) := encrypt c (l ^^^ cyclicWord salt (4 * i)) (r ^^^ cyclicWord salt (4 * i + 4))
    fillKeys salt (i + 2) l r ⟨(c.keys.set! i l).set! (i + 1) r, c.tables⟩ steps

/-- Replaces the tables two words at a time; the salt goes on where the round keys left it. -/
def fillTables (salt : Array UInt8) (i : Nat) (l r : UInt32) (c : Cipher) : Nat → Cipher
  | 0 => c
  | steps + 1 =>
    let at' := 4 * (i + 18)
    let (l, r) := encrypt c (l ^^^ cyclicWord salt at') (r ^^^ cyclicWord salt (at' + 4))
    fillTables salt (i + 2) l r ⟨c.keys, (c.tables.set! i l).set! (i + 1) r⟩ steps

def expand (key salt : Array UInt8) (c : Cipher) : Cipher :=
  let (c, l, r) := fillKeys salt 0 0 0 (mixKey c key) 9
  fillTables salt 0 l r c 512

def noSalt : Array UInt8 := #[0]

/-- Mixes in key and salt by turns, so many times. -/
def stretch (key salt : Array UInt8) : Nat → Cipher → Cipher
  | 0, c => c
  | n + 1, c => stretch key salt n (expand salt noSalt (expand key noSalt c))

def encryptTimes (c : Cipher) : Nat → UInt32 × UInt32 → UInt32 × UInt32
  | 0, block => block
  | n + 1, block => encryptTimes c n (encrypt c block.1 block.2)

def wordBytes (w : UInt32) : List UInt8 :=
  [(w >>> 24).toUInt8, (w >>> 16).toUInt8, (w >>> 8).toUInt8, w.toUInt8]

def magicText : Array UInt8 := ("OrpheanBeholderScryDoubt".toList.map fun c => c.toNat.toUInt8).toArray

/-- Twenty-four bytes out of a key, a salt of sixteen bytes and a cost. -/
def digest (cost : Nat) (key salt : List UInt8) : List UInt8 :=
  let key := key.toArray
  let salt := salt.toArray
  let c := stretch key salt (Nat.pow 2 cost) (expand key salt initial)
  [0, 8, 16].flatMap fun i =>
    let (l, r) := encryptTimes c 64 (cyclicWord magicText i, cyclicWord magicText (i + 4))
    wordBytes l ++ wordBytes r

end ParcelDesk.Digest.Blowfish

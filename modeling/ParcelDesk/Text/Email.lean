import ParcelDesk.Text.Basic

/-!
Email addresses, and the IP addresses that may stand for their domains. A first look at an email
asks for little; the full rule checks the mailbox, which goes up to the last at sign, and the labels
of the domain or an IP address in brackets. IP addresses of version 4 have four decimal numbers
without leading zeros; those of version 6 have eight groups of up to four hexadecimal digits, a run
of which may be left out once, and may end in an address of version 4.
-/

namespace ParcelDesk.Text.IpAddress

def isOctet (cs : List Char) : Bool :=
  cs.all Char.isDigit && 1 ≤ cs.length && cs.length ≤ 3 && (cs.length = 1 || cs.head? ≠ some '0') &&
    cs.foldl (fun n c => n * 10 + (c.toNat - '0'.toNat)) 0 ≤ 255

def isV4 (cs : List Char) : Bool :=
  let parts := splitOn '.' cs
  parts.length = 4 && parts.all isOctet

def isHex (c : Char) : Bool := c.isDigit || ('a' ≤ c && c ≤ 'f') || ('A' ≤ c && c ≤ 'F')

def isGroup (cs : List Char) : Bool := 1 ≤ cs.length && cs.length ≤ 4 && cs.all isHex

/-- The number of groups, an address of version 4 at the end counting for two. -/
def groups? (v4 : Bool) : List (List Char) → Option Nat
  | [] => some 0
  | [last] => if isGroup last then some 1 else if v4 && isV4 last then some 2 else none
  | g :: gs => if isGroup g then (groups? v4 gs).map (· + 1) else none

def sideGroups? (v4 : Bool) (cs : List Char) : Option Nat :=
  if cs.isEmpty then some 0 else groups? v4 (splitOn ':' cs)

/-- The parts before and after the first pair of colons. -/
def splitPair : List Char → Option (List Char × List Char)
  | [] => none
  | ':' :: ':' :: rest => some ([], rest)
  | c :: cs => (splitPair cs).map fun (a, b) => (c :: a, b)

def isV6 (cs : List Char) : Bool :=
  match splitPair cs with
  | none => groups? true (splitOn ':' cs) = some 8
  | some (a, b) =>
    match sideGroups? false a, sideGroups? true b with
    | some m, some n => m + n ≤ 7
    | _, _ => false

def isAddress (cs : List Char) : Bool := isV4 cs || isV6 cs

end ParcelDesk.Text.IpAddress

namespace ParcelDesk.Text

/-- Something before the first at sign, and a dot behind it. -/
def looksLikeEmail (s : String) : Bool :=
  let cs := s.toList
  let name := cs.takeWhile (· ≠ '@')
  let domain := cs.drop (name.length + 1)
  cs.contains '@' && !name.isEmpty && domain.contains '.'

namespace Email

/-- Letters and digits. The long s and the Kelvin sign are letters too, being other cases of an
ASCII one. -/
def isAlphanum (c : Char) : Bool := c.isAlphanum || c = '\u017F' || c = '\u212A'

def isMailboxChar (c : Char) : Bool := isAlphanum c || ".!#$%&\x27*+/=?^_\x60\x7b|\x7d~-".toList.contains c

/-- One label of a domain: letters, digits and inner hyphens, at most 63 of them. -/
def isLabel (cs : List Char) : Bool :=
  1 ≤ cs.length && cs.length ≤ 63 && cs.all (fun c => isAlphanum c || c = '-') &&
    cs.head? ≠ some '-' && cs.getLast? ≠ some '-'

def isDomainName (cs : List Char) : Bool := (splitOn '.' cs).all isLabel

/-- Characters that may stand between the brackets before the address itself is looked at. -/
def isBracketChar (c : Char) : Bool :=
  isAlphanum c || c = ':' || c = '.' || (0x5B ≤ c.toNat && c.toNat ≤ 0x60)

/-- The first opening bracket with only such characters up to a closing bracket at the end. -/
def bracketed? : List Char → Option (List Char)
  | [] => none
  | c :: cs =>
    let inner := cs.dropLast
    if c = '[' && cs.getLast? = some ']' && !inner.isEmpty && inner.all isBracketChar then some inner
    else bracketed? cs

def isDomain (cs : List Char) : Bool := isDomainName cs || (bracketed? cs).any IpAddress.isAddress

def isAddress (s : String) : Bool :=
  let cs := s.toList
  let domain := (cs.reverse.takeWhile (· ≠ '@')).reverse
  let mailbox := cs.take (cs.length - domain.length - 1)
  cs.contains '@' && 1 ≤ mailbox.length && mailbox.length ≤ 64 && domain.length ≤ 255 &&
    mailbox.all isMailboxChar && isDomain domain

end Email

end ParcelDesk.Text

import ParcelDesk.Text.Basic
import ParcelDesk.Text.Bytes
import ParcelDesk.Text.Email

/-!
Absolute URLs, cut into their parts. The parts keep their escapes. A scheme of the web must have a
host that is a domain or an address; with any other scheme the host is free text or missing.
-/

namespace ParcelDesk.Web

inductive UrlFlaw where
  | relative
  | emptyHost
  | invalidPort
  | invalidV4
  | invalidV6
  | invalidHostChar
  | invalidDomain
deriving DecidableEq, Repr

def UrlFlaw.message : UrlFlaw → String
  | relative => "relative URL without a base"
  | emptyHost => "empty host"
  | invalidPort => "invalid port number"
  | invalidV4 => "invalid IPv4 address"
  | invalidV6 => "invalid IPv6 address"
  | invalidHostChar => "invalid domain character"
  | invalidDomain => "invalid international domain name"

structure Url where
  scheme : String
  user : String := ""
  password : Option String := none
  host : Option String := none
  port : Option Nat := none
  path : String := ""
  query : Option String := none
deriving DecidableEq, Repr

namespace Url

/-- Line ends and tabs are passed over, and so are blanks and controls at both ends. -/
def clean (s : String) : List Char :=
  let trimmed := (s.toList.dropWhile (· ≤ ' ')).reverse.dropWhile (· ≤ ' ')
  trimmed.reverse.filter fun c => c ≠ '\t' && c ≠ '\n' && c ≠ '\r'

def isSchemeChar (c : Char) : Bool := c.isAlphanum || c = '+' || c = '-' || c = '.'

/-- A scheme in small letters, and what follows its colon. -/
def scheme? (cs : List Char) : Option (String × List Char) :=
  match cs.span isSchemeChar with
  | (c :: scheme, ':' :: rest) =>
    if c.isAlpha then some (String.ofList ((c :: scheme).map Char.toLower), rest) else none
  | _ => none

def isOfWeb (scheme : String) : Bool := ["http", "https", "ws", "wss", "ftp"].contains scheme

/-- The first colon outside brackets ends a host. -/
def splitHost (inBrackets : Bool) : List Char → List Char × List Char
  | [] => ([], [])
  | c :: cs =>
    if c = ':' && !inBrackets then ([], c :: cs)
    else
      let inBrackets := if c = '[' then true else if c = ']' then false else inBrackets
      let (host, rest) := splitHost inBrackets cs
      (c :: host, rest)

def readPort (cs : List Char) : Except UrlFlaw (Option Nat) :=
  if !cs.all Char.isDigit then .error .invalidPort
  else
    let n := cs.foldl (fun n c => n * 10 + (c.toNat - '0'.toNat)) 0
    if n > 65535 then .error .invalidPort else .ok (if cs.isEmpty then none else some n)

/-- The number of a part of an address: decimal, octal after a zero, hexadecimal after `0x`. -/
def v4Part? (cs : List Char) : Option Nat :=
  let value (base : Nat) (digits : List Char) : Option Nat :=
    digits.foldlM (fun n c =>
      let d := if c.isDigit then c.toNat - '0'.toNat else c.toLower.toNat - 'a'.toNat + 10
      if Text.IpAddress.isHex c && d < base then some (n * base + d) else none) 0
  match cs with
  | '0' :: 'x' :: rest | '0' :: 'X' :: rest => value 16 rest
  | '0' :: rest => value 8 rest
  | [] => none
  | cs => value 10 cs

def v4Parts (host : List Char) : List (List Char) :=
  match (Text.splitOn '.' host).reverse with
  | [] :: part :: parts => (part :: parts).reverse
  | parts => parts.reverse

/-- The last part of the host is a number, so that the whole must be an address. -/
def endsInNumber (host : List Char) : Bool :=
  match (v4Parts host).getLast? with
  | none => false
  | some last => !last.isEmpty && (last.all Char.isDigit || (v4Part? last).isSome)

def isV4 (host : List Char) : Bool :=
  let parts := v4Parts host
  match parts.mapM v4Part? with
  | none => false
  | some ns =>
    ns.length ≤ 4 && ns.dropLast.all (· ≤ 255) && ns.getLastD 0 < Nat.pow 256 (5 - ns.length)

/-- A host must not hold any of these. -/
def isForbidden (c : Char) : Bool := "\x00\t\n\r #/:<>?@[\\]^|".toList.contains c

def readDomain (cs : List Char) : Except UrlFlaw String :=
  let host := Text.Percent.decodeText cs
  if host.isEmpty then .error .emptyHost
  else if host.any fun c => isForbidden c || c < ' ' || c = '%' || c = '\x7f' then
    .error .invalidDomain
  else if endsInNumber host && !isV4 host then .error .invalidV4
  else .ok (String.ofList (host.map Char.toLower))

def readHost (scheme : String) (cs : List Char) : Except UrlFlaw String :=
  if cs.head? = some '[' then
    let inner := (cs.drop 1).dropLast
    if cs.length > 1 && cs.getLast? = some ']' && Text.IpAddress.isV6 inner then
      .ok (String.ofList cs)
    else .error .invalidV6
  else if isOfWeb scheme then readDomain cs
  else if cs.any isForbidden then .error .invalidHostChar
  else .ok (String.ofList cs)

/-- The credentials before the last at sign, and the host and port after it. -/
def readAuthority (u : Url) (cs : List Char) (atEnd : Bool) : Except UrlFlaw Url := do
  let (info, place) := (Text.splitLast? '@' cs).getD ([], cs)
  let (user, password) := info.span (· ≠ ':')
  let password := password.drop 1
  if cs.contains '@' && info.isEmpty && place.isEmpty && !atEnd then throw .emptyHost
  let (host, rest) := splitHost false place
  let host ← readHost u.scheme host
  let named := !host.isEmpty
  if !named && (!rest.isEmpty || !user.isEmpty || !password.isEmpty) then throw .emptyHost
  let port ← readPort (rest.drop 1)
  pure { u with
    user := String.ofList user
    password := if password.isEmpty then none else some (String.ofList password)
    host := if named then some host else none
    port }

/-- The path up to the query, and the query up to the fragment. -/
def readTail (u : Url) (cs : List Char) : Url :=
  let cs := cs.takeWhile (· ≠ '#')
  let (path, query) := cs.span (· ≠ '?')
  { u with
    path := String.ofList path
    query := if query.isEmpty then none else some (String.ofList (query.drop 1)) }

def ofText (s : String) : Except UrlFlaw Url := do
  match scheme? (clean s) with
  | none => throw .relative
  | some (scheme, rest) =>
    let web := isOfWeb scheme
    let isSlash (c : Char) : Bool := c = '/' || (web && c = '\\')
    let u : Url := { scheme }
    let authority? : Option (List Char) :=
      if web then some (rest.dropWhile isSlash)
      else
        match rest with
        | '/' :: '/' :: rest => some rest
        | _ => none
    match authority? with
    | none => pure (u.readTail rest)
    | some cs =>
      let (authority, tail) := cs.span fun c => !isSlash c && c ≠ '?' && c ≠ '#'
      let u ← u.readAuthority authority tail.isEmpty
      pure (u.readTail tail)

end Url

end ParcelDesk.Web

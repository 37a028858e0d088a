/-!
Media types: a type and a subtype of token characters, and parameters after semicolons. Only what
follows the slash decides whether a body is JSON.
-/

namespace ParcelDesk.Web.MediaType

/-- The characters of which names of types are made. -/
def isToken (c : Char) : Bool := c.isAlphanum || "!#$%&\x27*+-.^_\x60|~".toList.contains c

def isQuotable (c : Char) : Bool := ' ' ≤ c && c ≠ '\x7f'

/-- Where a reader of parameters stands. The flags tell whether anything has been read there. -/
inductive Place where
  | name (begun : Bool)
  | value (begun : Bool)
  | inQuotes (begun : Bool)
  | afterQuotes
deriving DecidableEq, Repr

/-- Reads one more character, unless it must not stand there. -/
def Place.step : Place → Char → Option Place
  | name false, ' ' => some (name false)
  | name true, '=' => some (value false)
  | name _, c => if isToken c then some (name true) else none
  | value false, '"' => some (inQuotes false)
  | value true, ';' => some (name false)
  | value _, c => if isToken c then some (value true) else none
  | inQuotes true, '"' => some afterQuotes
  | inQuotes _, c => if isQuotable c then some (inQuotes true) else none
  | afterQuotes, ';' => some (name false)
  | afterQuotes, ' ' => some afterQuotes
  | afterQuotes, _ => none

/-- The parameters are complete when the text ends here. -/
def Place.mayEnd : Place → Bool
  | name begun => !begun
  | value _ => true
  | inQuotes _ => false
  | afterQuotes => true

def parametersFit (cs : List Char) : Bool :=
  (cs.foldlM Place.step (.name false)).any Place.mayEnd

/-- The subtype with its suffix, in small letters, if the whole is a media type. -/
def subtype? (s : String) : Option (List Char) :=
  match s.toList.span isToken with
  | (type, '/' :: rest) =>
    let (subtype, parameters) := rest.span isToken
    if type.isEmpty || subtype.isEmpty && !rest.isEmpty then none
    else
      match parameters with
      | [] => some (subtype.map Char.toLower)
      | c :: cs =>
        if (c = ';' || c = ' ') && parametersFit cs then some (subtype.map Char.toLower) else none
  | _ => none

/-- The subtype is JSON, or says by its suffix that it is a kind of it. -/
def isJson (s : String) : Bool :=
  match subtype? s with
  | none => false
  | some subtype =>
    let suffix := (subtype.reverse.takeWhile (· ≠ '+')).reverse
    let stem := subtype.take (subtype.length - suffix.length - 1)
    if suffix.length = subtype.length || stem.isEmpty then subtype = "json".toList
    else stem = "json".toList || suffix = "json".toList

end ParcelDesk.Web.MediaType

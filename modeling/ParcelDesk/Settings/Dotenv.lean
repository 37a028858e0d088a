import ParcelDesk.Settings.Variables
import ParcelDesk.Text.Basic

/-!
A file of variables. A line sets one, within double quotes with escapes and with the values of other
variables, within single quotes as it stands; quotes may reach over lines. Variables that exist keep
their values, and nothing after a bad line is read.
-/

namespace ParcelDesk.Settings.Dotenv

/-- What a reader is in the middle of, when it looks for the end of a line. -/
inductive Mode where
  | plain
  | blank
  | escape
  | strong
  | strongEscape
  | weak
  | weakEscape
deriving DecidableEq, Repr

/-- The mode outside quotes. -/
def Mode.outside (c : Char) (usual : Mode) : Mode :=
  if c = '\\' then escape else if c = '"' then weak else if c = '\'' then strong else usual

/-- The mode after a character, unless a comment starts with it. -/
def Mode.step? (c : Char) : Mode → Option Mode
  | blank => if c = '#' then none else some (outside c plain)
  | plain =>
    some (outside c (if Text.isBlank c && c ≠ '\n' && c ≠ '\r' then blank else plain))
  | escape => some plain
  | weak => some (if c = '\\' then weakEscape else if c = '"' then plain else weak)
  | weakEscape => some weak
  | strong => some (if c = '\\' then strongEscape else if c = '\'' then plain else strong)
  | strongEscape => some strong

def skipLine (cs : List Char) : List Char := (cs.dropWhile (· ≠ '\n')).drop 1

/-- The next line without its comment, and the rest. Quotes that stay open break it. -/
def line? : Mode → List Char → Option (List Char × List Char)
  | mode, [] => if mode = .plain then some ([], []) else none
  | mode, c :: cs =>
    match mode.step? c with
    | none => some ([], skipLine cs)
    | some mode =>
      if c = '\n' && mode = .plain then some ([], cs)
      else (line? mode cs).map fun (line, rest) => (c :: line, rest)

/-- All lines up to the first broken one. -/
def lines : Nat → List Char → List (List Char)
  | 0, _ => []
  | _, [] => []
  | fuel + 1, cs =>
    if (Text.trimStart (cs.takeWhile (· ≠ '\n'))).head? = some '#' then lines fuel (skipLine cs)
    else
      match line? .plain cs with
      | none => []
      | some (line, rest) => line :: lines fuel rest

/-- How the name of another variable is being read. -/
inductive Naming where
  | none
  | bare
  | braced
deriving DecidableEq, Repr

/-- A value that has been read in part. -/
structure Value where
  strong : Bool := false
  weak : Bool := false
  escaped : Bool := false
  ended : Bool := false
  comment : Bool := false
  naming : Naming := .none
  name : List Char := []
  text : List Char := []

namespace Value

def push (v : Value) (c : Char) : Value := { v with text := v.text ++ [c] }

/-- Puts in the value of the variable whose name has been read. -/
def expand (vs : Variables) (v : Value) : Value :=
  { v with
    text := v.text ++ ((vs.lookup (String.ofList v.name)).getD "").toList
    name := [], naming := .none }

/-- Outside ASCII, letters are taken to be those of names that no variable has. -/
def isNameChar (c : Char) : Bool := c.isAlphanum || 0x80 ≤ c.toNat

def named (vs : Variables) (v : Value) (c : Char) : Value :=
  if isNameChar c then { v with name := v.name ++ [c] }
  else if v.naming = .braced then
    if c = '\x7d' then v.expand vs else { v with name := v.name ++ [c] }
  else if c = '\x7b' && v.name.isEmpty then { v with naming := .braced }
  else if c = '$' then { v.expand vs with naming := .bare }
  else (v.expand vs).push c

def step? (vs : Variables) (v : Value) (c : Char) : Option Value :=
  if v.comment then some v
  else if v.ended then
    if c = ' ' || c = '\t' then some v
    else if c = '#' then some { v with comment := true }
    else none
  else if v.escaped then
    let v := { v with escaped := false }
    if c = 'n' then some (v.push '\n')
    else if c = '\\' || c = '\'' || c = '"' || c = '$' || c = ' ' then some (v.push c)
    else none
  else if v.strong then
    some (if c = '\'' then { v with strong := false } else v.push c)
  else if v.naming ≠ .none then some (named vs v c)
  else if c = '$' then some { v with naming := .bare }
  else if c = '\\' then some { v with escaped := true }
  else if c = '"' then some { v with weak := !v.weak }
  else if v.weak then some (v.push c)
  else if c = '\'' then some { v with strong := true }
  else if c = ' ' || c = '\t' then some { v with ended := true }
  else some (v.push c)

end Value

def value? (vs : Variables) (cs : List Char) : Option String := do
  let v ← cs.foldlM (Value.step? vs) {}
  if v.naming = .braced || v.strong || v.weak then none
  else some (String.ofList (v.expand vs).text)

def key? (cs : List Char) : Option (String × List Char) :=
  let isKeyChar := fun (c : Char) => c.isAlphanum || c == '_' || c == '.'
  match cs with
  | c :: _ =>
    if c.isAlpha || c = '_' then
      let key := cs.takeWhile isKeyChar
      some (String.ofList key, Text.trimStart (cs.drop key.length))
    else none
  | [] => none

def equal? : List Char → Option (List Char)
  | '=' :: cs => some (Text.trimStart cs)
  | _ => none

/-- The variable and its value on a line that has no comment before them. The word "export" may
stand first, and may be a variable itself. -/
def assignment? (vs : Variables) (cs : List Char) : Option (String × String) := do
  let (key, rest) ← key? cs
  let (key, rest) ←
    match key == "export", equal? rest with
    | _, some rest => some (key, rest)
    | true, none => do
      let (key, rest) ← key? rest
      some (key, ← equal? rest)
    | false, none => none
  match rest with
  | [] => some (key, "")
  | '#' :: _ => some (key, "")
  | _ => some (key, ← value? vs rest)

/-- Adds what the lines set, up to the first bad one. -/
def addLines : List (List Char) → Variables → Variables
  | [], vs => vs
  | line :: more, vs =>
    match Text.trimmed line with
    | [] => addLines more vs
    | '#' :: _ => addLines more vs
    | cs =>
      match assignment? vs cs with
      | none => vs
      | some (key, value) =>
        addLines more (if (vs.lookup key).isSome then vs else vs ++ [(key, value)])

/-- The variables with those of a file added. -/
def add (file : String) (vs : Variables) : Variables :=
  let cs := match file.toList with
    | '\uFEFF' :: cs => cs
    | cs => cs
  addLines (lines (cs.length + 1) cs) vs

end ParcelDesk.Settings.Dotenv

import ParcelDesk.Decimal.Reading
import ParcelDesk.Settings.Tree
import ParcelDesk.Text.Basic

/-!
Environment variables as settings. A variable counts if its name starts with the program's lead, in
any case; two underscores step into a table. Values are tried as a truth value, an integer and a
floating-point number before they are taken as text.
-/

namespace ParcelDesk.Settings

/-- Variables with their values; a name stands once. -/
abbrev Variables := List (String × String)

namespace Variables

def lead : List Char := "app_".toList

def origin : String := "the environment"

/-- The environment that the variables pick. A name that means none picks the usual one. -/
def environment (vs : Variables) : Environment :=
  (((vs.lookup "APP_ENV").or (vs.lookup "ENVIRONMENT")).bind Environment.ofName?).getD .development

def scalar (s : String) : Scalar :=
  match Text.fold s with
  | "true" => .bool true
  | "false" => .bool false
  | _ =>
    match Decimal.readInt64 s.toList with
    | .ok n => .int n
    | .error _ =>
      match Decimal.readReal? s.toList with
      | some x => .real x
      | none => .text s

/-- Points for pairs of underscores. -/
def pointed : List Char → List Char
  | '_' :: '_' :: cs => '.' :: pointed cs
  | c :: cs => c :: pointed cs
  | [] => []

/-- The key that a variable sets, if it is one of the program's. -/
def key? (name : String) : Option String :=
  let cs := (Text.fold name).toList
  if lead.isPrefixOf cs then some (String.ofList (pointed (cs.drop lead.length))) else none

/-- The members that the variables set. -/
def members (vs : Variables) : List (String × Tree) :=
  vs.filterMap fun (name, value) =>
    (key? name).map fun key => (key, .scalar (some origin) (scalar value))

end Variables

end ParcelDesk.Settings

import ParcelDesk.Json.Decode
import ParcelDesk.Settings.Dotenv
import ParcelDesk.Settings.Toml
import ParcelDesk.Settings.Typed

/-!
The settings of a running program: the defaults of its environment, the common file, the
environment's file and the environment variables, laid over one another in this order.
-/

namespace ParcelDesk.Settings

/-- The files of a directory with their texts, by path. -/
abbrev Files := List (String × String)

/-- How a settings file may be written, by its extension. -/
def formats : List (String × (String → Option (List (String × Json)))) :=
  [("toml", Toml.read?),
    ("json", fun s => match Json.parse Json.value s with
      | .ok (.obj ms) => some ms
      | _ => none)]

/-- The file of a base path and its members. A file without an extension hides all others. -/
def readFile (files : Files) (base : String) : Except LoadFlaw (List (String × Tree)) :=
  if (files.lookup base).isSome then .ok []
  else
    let found := formats.findSome? fun (extension, read?) =>
      let path := base ++ "." ++ extension
      (files.lookup path).map fun text => (path, read? text)
    match found with
    | none => .ok []
    | some (path, none) => .error (.unreadable path)
    | some (path, some members) => .ok (Tree.ofJsonMembers (some path) members)

/-- Lays the top members of a document over a tree, one after the other. -/
def layOver (base : Tree) (members : List (String × Tree)) : Except LoadFlaw Tree :=
  members.foldlM (fun t (k, v) =>
    if (Path.ofKey k).fits t then .ok (Tree.putAt v (Path.ofKey k) t) else .error (.beforeFirst k))
    base

/-- The tree of all sources, the last one on top. -/
def layers (environment : Environment) (files : Files) (vs : Variables) :
    Except LoadFlaw Tree := do
  let base := Tree.ofJson none (ofEnvironment environment).toJson
  let base ← layOver base (← readFile files "config/default")
  let base ← layOver base (← readFile files environment.file)
  layOver base vs.members

/-- The settings that variables and files give, unless some rule refuses them. -/
def load (vs : Variables) (files : Files) : Except LoadFlaw Settings := do
  let vs := match files.lookup ".env" with
    | some text => Dotenv.add text vs
    | none => vs
  let settings ← ofTree (← layers vs.environment files vs)
  match settings.flaw? with
  | some flaw => throw (.refused flaw)
  | none => pure settings

end ParcelDesk.Settings

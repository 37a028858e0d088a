import ParcelDesk.Json.Value

/-!
Messages about the fields of a form. They are collected one by one, and shown per field: fields in
the order of their first message, the messages of one field in the order of collection.
-/

namespace ParcelDesk

/-- Every field that has messages, with all of them. -/
abbrev FieldErrors := List (String × List String)

namespace FieldErrors

/-- One more message for a field. -/
def add (field message : String) : FieldErrors → FieldErrors
  | [] => [(field, [message])]
  | (f, ms) :: rest =>
    if f = field then (f, ms ++ [message]) :: rest else (f, ms) :: add field message rest

def single (field message : String) : FieldErrors := [(field, [message])]

/-- The names of the fields, sorted. -/
def summary (e : FieldErrors) : String :=
  ", ".intercalate ((e.map Prod.fst).mergeSort fun a b => a ≤ b)

def toJson (e : FieldErrors) : Json := .obj (e.map fun (f, ms) => (f, Json.ofList .str ms))

end FieldErrors

/-- Messages in the order in which they were collected, each with its field. -/
abbrev Complaints := List (String × String)

namespace Complaints

def add (c : Complaints) (field message : String) : Complaints := c ++ [(field, message)]

/-- Adds a message if a rule is broken. -/
def check (c : Complaints) (broken : Bool) (field message : String) : Complaints :=
  if broken then c.add field message else c

def fields (c : Complaints) : List String := (c.map Prod.fst).eraseDups

def messages (c : Complaints) (field : String) : List String :=
  (c.filter fun p => p.1 == field).map Prod.snd

/-- The messages per field. -/
def grouped (c : Complaints) : FieldErrors := c.fields.map fun f => (f, c.messages f)

/-- Nothing to complain about, or all the messages. -/
def verdict (c : Complaints) : Except FieldErrors Unit :=
  if c.isEmpty then .ok () else .error c.grouped

end Complaints

end ParcelDesk

import ParcelDesk.Failure
import ParcelDesk.Json.Decode

/-!
Envelopes: every answer of the service is a message, the status as text, and either data or, for an
error, the messages about single fields.
-/

namespace ParcelDesk

inductive EnvelopeKind where
  | success
  | error
deriving DecidableEq, Repr

namespace EnvelopeKind

def label : EnvelopeKind → String
  | success => "success"
  | error => "error"

def decode : Json.Decoder EnvelopeKind := Json.oneNamed [("success", success), ("error", error)]

end EnvelopeKind

/-- An answer that carries data. -/
def Envelope.success (status : Nat) (message : String) (data : Json) : Json :=
  .obj [("message", .str message), ("type", .str EnvelopeKind.success.label),
    ("code", .str (toString status)), ("data", data)]

/-- An answer about what went wrong. -/
structure ErrorEnvelope where
  message : String
  kind : EnvelopeKind
  code : String
  errors : Option FieldErrors
deriving DecidableEq, Repr

namespace ErrorEnvelope

def ofStatus (status : Nat) (message : String) : ErrorEnvelope :=
  ⟨message, .error, toString status, none⟩

def withErrors (e : ErrorEnvelope) (errors : FieldErrors) : ErrorEnvelope :=
  { e with errors := some errors }

def withFieldError (e : ErrorEnvelope) (field message : String) : ErrorEnvelope :=
  { e with errors := some ((e.errors.getD []).add field message) }

/-- The map of errors is left out if there is none. -/
def toJson (e : ErrorEnvelope) : Json :=
  .obj ([("message", .str e.message), ("type", .str e.kind.label), ("code", .str e.code)] ++
    (e.errors.map fun m => [("errors", FieldErrors.toJson m)]).getD [])

/-- The last of several values for one key counts. -/
def lastOfEach (m : FieldErrors) : FieldErrors :=
  m.foldl (fun acc (k, v) => acc.filter (·.1 ≠ k) ++ [(k, v)]) []

def decode : Json.Decoder ErrorEnvelope :=
  Json.Record.decode "ErrorResponse" <|
    mk <$> .required "message" Json.string <*> .required "type" EnvelopeKind.decode
      <*> .required "code" Json.string
      <*> (.nullable "errors" fun n => (Json.mapOf (Json.list Json.string) n).map lastOfEach)

end ErrorEnvelope

end ParcelDesk

import ParcelDesk.Envelope

/-!
Responses: a status, headers and a body. Failures are told in an envelope. Callers learn what they
can mend; faults of the service itself all look alike.
-/

namespace ParcelDesk.Web

def invalidRequestMessage : String := "Please provide a valid request body"

def notFoundMessage : String := "The requested resource was not found"

/-- A status and the envelope for it. -/
structure ErrorAnswer where
  status : Nat
  envelope : ErrorEnvelope
deriving DecidableEq, Repr

namespace ErrorAnswer

def ofStatus (status : Nat) (message : String) : ErrorAnswer := ⟨status, .ofStatus status message⟩

def unauthorized : ErrorAnswer := ofStatus 401 "Unauthorized"

def notFound (message : String) : ErrorAnswer := ofStatus 404 message

/-- A request that could not be read, or whose fields break a rule. -/
def badRequest (errors : FieldErrors) : ErrorAnswer :=
  ⟨400, (ErrorEnvelope.ofStatus 400 invalidRequestMessage).withErrors errors⟩

def serviceFault : ErrorAnswer := ofStatus 500 "Something went wrong, please try again later"

/-- The text with its first letter in upper case, if that is an ASCII letter. -/
def capitalized (s : String) : String :=
  match s.toList with
  | [] => ""
  | c :: rest => String.ofList (c.toUpper :: rest)

def ofLoginFlaw : LoginFlaw → ErrorAnswer
  | .missingCredentials =>
    ⟨400, (ErrorEnvelope.ofStatus 400 invalidRequestMessage).withFieldError "username"
      "The username or email field is required."⟩
  | _ => ofStatus 401 "The user credentials were incorrect."

/-- The answer for each failure. -/
def ofFailure : Failure → ErrorAnswer
  | .invalid errors => ⟨422, (ErrorEnvelope.ofStatus 422 "Please fix the given errors").withErrors errors⟩
  | .notFound resource => notFound (capitalized (resource ++ " not found"))
  | .unauthorized => unauthorized
  | .login flaw => ofLoginFlaw flaw
  | .token .unsigned => serviceFault
  | .token _ => unauthorized
  | .conflict _ => serviceFault
  | .persistence _ => serviceFault
  | .internal _ => serviceFault

end ErrorAnswer

inductive Body where
  | empty
  | text (s : String)
  | json (v : Json)

structure Response where
  status : Nat
  headers : List (String × String) := []
  body : Body := .empty

namespace Response

def ofJson (status : Nat) (v : Json) : Response :=
  ⟨status, [("content-type", "application/json")], .json v⟩

def ofError (a : ErrorAnswer) : Response := ofJson a.status a.envelope.toJson

def success (status : Nat) (message : String) (data : Json) : Response :=
  ofJson status (Envelope.success status message data)

/-- A refusal in plain words. -/
def refusal (words : String) : Response := ⟨400, [], .text words⟩

/-- The answer to a method that the place does not know, but others. -/
def wrongMethod (allowed : String) : Response := ⟨405, [("allow", allowed)], .empty⟩

def withHeaders (r : Response) (headers : List (String × String)) : Response :=
  { r with headers := r.headers ++ headers }

end Response

end ParcelDesk.Web

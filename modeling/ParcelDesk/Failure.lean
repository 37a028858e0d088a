import ParcelDesk.FieldErrors

/-!
Why an operation of the service fails, with the message of every cause.
-/

namespace ParcelDesk

/-- Why a token does not open a session. -/
inductive TokenFlaw where
  | expired
  | malformed
  | badSignature
  | wrongAlgorithm
  | missingClaim (claim : String)
  | revoked
  | unsigned
deriving DecidableEq, Repr

def TokenFlaw.message : TokenFlaw → String
  | expired => "Token expired"
  | malformed => "Invalid token format"
  | badSignature => "Invalid signature"
  | wrongAlgorithm => "Unexpected signing algorithm"
  | missingClaim claim => "Missing claim: " ++ claim
  | revoked => "Token revoked"
  | unsigned => "Token generation failed"

/-- Why a login is refused before anything is looked into. -/
inductive LoginFlaw where
  | userNotFound
  | invalidCredentials
  | missingCredentials
deriving DecidableEq, Repr

def LoginFlaw.message : LoginFlaw → String
  | userNotFound => "User not found"
  | invalidCredentials => "Invalid credentials"
  | missingCredentials => "Missing credentials"

inductive Failure where
  | invalid (errors : FieldErrors)
  | notFound (resource : String)
  | unauthorized
  | conflict (resource : String)
  | persistence (message : String)
  | internal (message : String)
  | login (flaw : LoginFlaw)
  | token (flaw : TokenFlaw)
deriving DecidableEq, Repr

namespace Failure

def message : Failure → String
  | invalid errors => "Validation error: " ++ errors.summary
  | notFound resource => "Resource not found: " ++ resource
  | unauthorized => "Unauthorized access"
  | conflict resource => "Conflict: " ++ resource ++ " already exists"
  | persistence message => "Persistence error: " ++ message
  | internal message => "Internal error: " ++ message
  | login flaw => flaw.message
  | token flaw => flaw.message

/-- The failure is about who the caller is. Tokens that could not be signed are the service's own
fault. -/
def isAuthentication : Failure → Bool
  | unauthorized => true
  | login _ => true
  | token flaw => flaw ≠ .unsigned
  | _ => false

end Failure

end ParcelDesk

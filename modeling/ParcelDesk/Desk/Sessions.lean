import ParcelDesk.Account.Basic
import ParcelDesk.Account.Jwt
import ParcelDesk.Account.Password
import ParcelDesk.Desk.World
import ParcelDesk.Settings.Basic

/-!
Sessions: logging in, logging out, and the gate that lets the bearer of a token pass. The token
store decides whether a token still counts; the cache only makes the decision faster.
-/

namespace ParcelDesk

/-- The name and the email without blanks around them; blank ones are absent. -/
def LoginForm.identifiers (f : LoginForm) : Option String × Option String :=
  (Text.named f.name, Text.named f.email)

namespace Desk

/-- How tokens are signed and remembered, and whether a login ends earlier sessions. -/
structure SessionRules where
  token : TokenSettings := {}
  cacheLifetime : Nat := 600
  single : Bool := true
deriving DecidableEq, Repr

/-- The secret for signing tokens where no settings were ever read. -/
def fallbackSecret : String := "development-secret-please-change-in-production"

def SessionRules.ofSettings (a : AuthSettings) : SessionRules := ⟨a.token, a.cacheLifetime, true⟩

/-- The text under which the cache keeps the owner of a token. -/
def ownerText (userId : Int) : String := String.ofList (Decimal.integerDigits userId)

def issue (secret : String) (userId lifetime : Int) : Work SignedToken := do
  let now ← ask .now
  let tokenId ← ask .tokenId
  pure (Jwt.issue secret userId lifetime now tokenId)

/-- Signs a pair of tokens without storing them. -/
def issuePair (t : TokenSettings) (userId : Int) : Work TokenPair := do
  let access ← issue t.secret userId t.accessLifetime
  let refresh ← issue t.secret userId t.refreshLifetime
  pure ⟨access, refresh⟩

/-- Stores a token and remembers its owner in the cache. -/
def keep (r : SessionRules) (kind : TokenKind) (t : SignedToken) (userId : Int) : Work Unit := do
  let now ← ask .now
  let _ ← Attempt.of (.saveToken ⟨0, kind, t.text, userId, t.claims.expiry now, now, none⟩)
  bestEffort (.cache (Cache.tokenKey kind t.text) (ownerText userId) r.cacheLifetime)

/-- Takes keys out of the cache, as far as it can be reached. -/
def forget : List String → Work Unit
  | [] => pure ()
  | key :: keys => do
    bestEffort (.uncache key)
    forget keys

/-- Revokes every token of the user. -/
def logout (userId : Int) : Work Unit := do
  let access ← Attempt.of (.revokeTokens .access userId)
  let refresh ← Attempt.of (.revokeTokens .refresh userId)
  forget (Cache.sessionKey userId ::
    (access ++ refresh).map fun t => Cache.tokenKey t.kind t.token)

/-- The account that a form is for, if the password is right. -/
def identify (f : LoginForm) : Work User := do
  let (name, email) := f.identifiers
  if (name.isNone && email.isNone) || f.password.isEmpty then throw (.login .missingCredentials)
  match ← Attempt.of (.findUser name email) with
  | none => throw (.login .userNotFound)
  | some u =>
    if Password.verify f.password u.passwordHash then pure u
    else throw (.login .invalidCredentials)

/-- Logs a user in with a fresh pair of tokens. -/
def login (r : SessionRules) (f : LoginForm) : Work LoginReceipt := do
  let u ← identify f
  if r.single then logout u.id
  let pair ← issuePair r.token u.id
  keep r .access pair.access u.id
  keep r .refresh pair.refresh u.id
  pure (.ofPair pair)

/-- The claims of an access token, if it is signed, has not expired and has not been revoked. -/
def authenticate (r : SessionRules) (token : String) : Work Claims := do
  let now ← ask .now
  let claims ← Attempt.ofExcept ((Jwt.verify r.token.secret now token).mapError .token)
  let key := Cache.tokenKey .access token
  let owner := ownerText claims.userId
  let cached ← ask (.cached key)
  if cached.toOption.join = some owner then pure claims
  else
    match ← Attempt.of (.findToken .access claims.userId token) with
    | none => throw (.token .revoked)
    | some _ =>
      bestEffort (.cache key owner r.cacheLifetime)
      pure claims

end Desk

end ParcelDesk

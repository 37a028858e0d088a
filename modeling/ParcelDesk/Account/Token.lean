import ParcelDesk.Time.Instant

/-!
Tokens: the claims that are signed, the rows that say whether a token still counts, and the pair
that a login hands out.
-/

namespace ParcelDesk

structure Claims where
  userId : Int
  issuedAt : Int
  expiresAt : Int
  tokenId : String
deriving DecidableEq, Repr

namespace Claims

/-- Claims that hold for so many seconds. -/
def fresh (userId lifetime : Int) (now : Instant) (tokenId : String) : Claims :=
  ⟨userId, now.seconds, now.seconds + lifetime, tokenId⟩

def isExpired (c : Claims) (now : Instant) : Bool := c.expiresAt ≤ now.seconds

/-- The instant of expiry, or the current one where the calendar does not reach so far. -/
def expiry (c : Claims) (now : Instant) : Instant := (Instant.ofSeconds? c.expiresAt).getD now

def toJson (c : Claims) : Json :=
  .obj [("user_id", .int c.userId), ("iat", .int c.issuedAt), ("exp", .int c.expiresAt),
    ("jti", .str c.tokenId)]

def decode : Json.Decoder Claims :=
  Json.Record.decode "Claims" <|
    mk <$> .required "user_id" Json.int64 <*> .required "iat" Json.int64
      <*> .required "exp" Json.int64 <*> .defaulted "jti" "" Json.string

end Claims

inductive TokenKind where
  | access
  | refresh
deriving DecidableEq, Repr

namespace TokenKind

def family : TokenKind → String
  | access => "access_token"
  | refresh => "refresh_token"

def label : TokenKind → String
  | access => "Access"
  | refresh => "Refresh"

def decode : Json.Decoder TokenKind := Json.oneNamed [("Access", access), ("Refresh", refresh)]

end TokenKind

/-- A row of the token store. -/
structure StoredToken where
  id : Int
  kind : TokenKind
  token : String
  userId : Int
  expiresAt : Instant
  createdAt : Instant
  deletedAt : Option Instant
deriving DecidableEq, Repr

namespace StoredToken

def isExpired (t : StoredToken) (now : Instant) : Bool := t.expiresAt.le now

def isRevoked (t : StoredToken) : Bool := t.deletedAt.isSome

def isActive (t : StoredToken) (now : Instant) : Bool := !t.isRevoked && !t.isExpired now

def toJson (t : StoredToken) : Json :=
  .obj [("id", .int t.id), ("kind", .str t.kind.label), ("token", .str t.token),
    ("user_id", .int t.userId), ("expires_at", t.expiresAt.toJson),
    ("created_at", t.createdAt.toJson), ("deleted_at", .opt Instant.toJson t.deletedAt)]

end StoredToken

structure SignedToken where
  text : String
  claims : Claims
deriving DecidableEq, Repr

structure TokenPair where
  access : SignedToken
  refresh : SignedToken
deriving DecidableEq, Repr

/-- What a caller gets for a login. The time of expiry is the access token's. -/
structure LoginReceipt where
  accessToken : String
  refreshToken : String
  tokenType : String
  expiresIn : Int
deriving DecidableEq, Repr

namespace LoginReceipt

def ofPair (p : TokenPair) : LoginReceipt :=
  ⟨p.access.text, p.refresh.text, "Bearer", p.access.claims.expiresAt⟩

def toJson (r : LoginReceipt) : Json :=
  .obj [("access_token", .str r.accessToken), ("refresh_token", .str r.refreshToken),
    ("token_type", .str r.tokenType), ("expires_in", .int r.expiresIn)]

def decode : Json.Decoder LoginReceipt :=
  Json.Record.decode "LoginResponse" <|
    mk <$> .required "access_token" Json.string <*> .required "refresh_token" Json.string
      <*> .required "token_type" Json.string <*> .required "expires_in" Json.int64

end LoginReceipt

end ParcelDesk

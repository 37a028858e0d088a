import ParcelDesk.Account.Token
import ParcelDesk.Digest.Base64
import ParcelDesk.Digest.Sha256
import ParcelDesk.Failure
import ParcelDesk.Text.Basic

/-!
Signed tokens: header, payload and signature between dots, each in base 64. The signature covers
header and payload under a shared secret, and no other algorithm is accepted.
-/

namespace ParcelDesk.Jwt

open Json (Decoder Node Record)

/-- The algorithms that a header may name. -/
def algorithms : List (String × String) :=
  ["HS256", "HS384", "HS512", "ES256", "ES384", "RS256", "RS384", "RS512", "PS256", "PS384",
    "PS512", "EdDSA"].map fun a => (a, a)

def ownAlgorithm : String := "HS256"

def encodePart (text : List Char) : List Char :=
  Digest.Base64.encode Digest.Base64.url (Text.Utf8.encode text)

def decodePart (part : List Char) : Option (List UInt8) :=
  Digest.Base64.decode Digest.Base64.url part

def header : List Char :=
  encodePart (Json.obj [("typ", .str "JWT"), ("alg", .str ownAlgorithm)]).chars

def signature (secret : String) (message : List Char) : List Char :=
  Digest.Base64.encode Digest.Base64.url
    (Digest.Sha256.hmac (Text.Utf8.bytes secret) (Text.Utf8.encode message))

def message (c : Claims) : List Char := header ++ '.' :: encodePart c.toJson.chars

/-- The token for claims. -/
def encode (secret : String) (c : Claims) : String :=
  String.ofList (message c ++ '.' :: signature secret (message c))

/-- The header, the payload and the signature of a token. Further dots belong to the header. -/
def parts? (token : List Char) : Option (List Char × List Char × List Char) := do
  let (message, signature) ← Text.splitLast? '.' token
  let (header, payload) ← Text.splitLast? '.' message
  some (header, payload, signature)

/-- Texts that are wanted of a key, under their names. -/
def needTexts (given : List (String × Json)) (names : List String) : Bool :=
  names.all fun name => match given.lookup name with
    | some (.str _) => true
    | _ => false

def optionalText (given : List (String × Json)) (name : String) : Bool :=
  match given.lookup name with
  | none | some .null | some (.str _) => true
  | _ => false

def optionalTexts (given : List (String × Json)) (name : String) : Bool :=
  match given.lookup name with
  | none | some .null => true
  | some (.arr items) => items.all fun | .str _ => true | _ => false
  | _ => false

def isText (given : List (String × Json)) (name : String) (allowed : List String) : Bool :=
  match given.lookup name with
  | some (.str s) => allowed.contains s
  | _ => false

def curves : List String := ["P-256", "P-384", "P-521", "Ed25519"]

/-- The object is a public or secret key of one of the known families. -/
def isKey (given : List (String × Json)) : Bool :=
  ["use", "kid", "x5u", "x5t", "x5t#S256"].all (optionalText given) &&
    ["key_ops", "x5c"].all (optionalTexts given) &&
    (optionalText given "alg" &&
      (match given.lookup "alg" with
        | some (.str s) =>
          (algorithms.lookup s).isSome || ["RSA1_5", "RSA-OAEP", "RSA-OAEP-256"].contains s
        | _ => true)) &&
    ((isText given "kty" ["EC"] && isText given "crv" curves && needTexts given ["x", "y"]) ||
      (isText given "kty" ["RSA"] && needTexts given ["n", "e"]) ||
      (isText given "kty" ["oct"] && needTexts given ["k"]) ||
      (isText given "kty" ["OKP"] && isText given "crv" curves && needTexts given ["x"]))

def keyDecoder : Decoder Unit := fun n => do
  match ← Json.value n with
  | .obj given => if isKey given then pure () else throw (.refused "not a key")
  | _ => throw (.refused "not a key")

/-- The algorithm of a header. Its other members only have to be of the right kind. -/
def headerDecoder : Decoder String :=
  Record.decode "Header" <|
    (fun _ algorithm _ _ _ _ _ _ _ _ => algorithm)
      <$> .nullable "typ" Json.string <*> .required "alg" (Json.oneNamed algorithms)
      <*> .nullable "cty" Json.string <*> .nullable "jku" Json.string
      <*> .nullable "jwk" keyDecoder <*> .nullable "kid" Json.string
      <*> .nullable "x5u" Json.string <*> .nullable "x5c" (Json.list Json.string)
      <*> .nullable "x5t" Json.string <*> .nullable "x5t#S256" Json.string

/-- The algorithm named by a header part. -/
def algorithm? (part : List Char) : Option String := do
  let bytes ← decodePart part
  (Json.parseBytes headerDecoder bytes).toOption

/-- A member that is a time: a number that is not negative. -/
def time? : Node → Except Json.Error (Option Nat)
  | .number n =>
    match n.number with
    | .ok (.int i) => .ok (if 0 ≤ i then some i.toNat else none)
    | .ok (.real x) => .ok (if 0 ≤ x && x < 18446744073709551615.0 then some x.round.toUInt64.toNat else none)
    | .error _ => .ok none
  | .list (_ :: _) _ => .error (.misread .expectedCommaOrBrace)
  | .map (_ :: _) _ => .error (.misread .expectedCommaOrBrace)
  | _ => .ok none

/-- A member that should be a text, but only must not be a list or an object. -/
def plainMember : Decoder Unit
  | .list _ _ => .error (.misread .expectedCommaOrBrace)
  | .map _ _ => .error (.misread .expectedCommaOrBrace)
  | _ => .ok ()

/-- The member names an audience: a text or a list of texts. -/
def namesAudience (n : Node) : Except Json.Error Bool := do
  match ← Json.value n with
  | .str _ => pure true
  | .arr items => pure (items.all fun | .str _ => true | _ => false)
  | _ => pure false

/-- The registered claims that decide whether a token is taken. -/
structure Registered where
  expiresAt : Option Nat
  audience : Bool
deriving DecidableEq, Repr

def registeredDecoder : Decoder Registered :=
  Record.decode "ClaimsForValidation" <|
    (fun expiresAt _ _ _ audience => ⟨expiresAt, audience.getD false⟩)
      <$> .defaulted "exp" none time? <*> .defaulted "nbf" none time?
      <*> .nullable "sub" plainMember <*> .nullable "iss" (fun n => (Json.value n).map fun _ => ())
      <*> .nullable "aud" namesAudience

/-- Claims that are well formed and name their registered members properly. -/
def readClaims (bytes : List UInt8) : Except Json.Error (Claims × Registered) := do
  let c ← Json.parseBytes Claims.decode bytes
  let r ← Json.parseBytes registeredDecoder bytes
  pure (c, r)

/-- The claims of a payload, unless they have expired or are meant for somebody else. -/
def acceptPayload (now : Instant) (payload : List Char) : Except TokenFlaw Claims :=
  match decodePart payload with
  | none => .error .malformed
  | some bytes =>
    match readClaims bytes with
    | .error _ => .error (.missingClaim "user_id")
    | .ok (c, r) =>
      match r.expiresAt with
      | none => .error (.missingClaim "exp")
      | some exp =>
        if (exp : Int) < now.seconds then .error .expired
        else if r.audience then .error .malformed
        else .ok c

/-- The claims of a token that was signed under the secret and has not expired. -/
def verify (secret : String) (now : Instant) (token : String) : Except TokenFlaw Claims :=
  match parts? token.toList with
  | none => .error .malformed
  | some (header, payload, given) =>
    match algorithm? header with
    | none => .error .malformed
    | some algorithm =>
      if algorithm ≠ ownAlgorithm then .error .wrongAlgorithm
      else if given ≠ signature secret (header ++ '.' :: payload) then .error .badSignature
      else acceptPayload now payload

/-- Signs claims that hold for so many seconds. -/
def issue (secret : String) (userId lifetime : Int) (now : Instant) (tokenId : String) : SignedToken :=
  let c := Claims.fresh userId lifetime now tokenId
  ⟨encode secret c, c⟩

end ParcelDesk.Jwt

import ParcelDesk.Settings.Basic
import ParcelDesk.Web.MediaType
import ParcelDesk.Web.Request
import ParcelDesk.Web.Response

/-!
Requests from pages of other origins. In production only listed origins are served. A preflight is
answered without asking anyone, and every other answer says what such pages may see of it.
-/

namespace ParcelDesk.Web.Cors

def methods : List String := ["GET", "OPTIONS", "POST", "PUT"]

def headers : List String := ["accept", "authorization", "content-type"]

def listed (xs : List String) : String := ", ".intercalate xs

/-- Caches must tell requests apart by these headers. -/
def vary : String × String :=
  ("vary", "Access-Control-Request-Headers, Access-Control-Request-Method, Origin")

def exposed : String × String := ("access-control-expose-headers", "x-request-id")

inductive Flaw where
  | noOrigin
  | origin
  | method
  | badHeaders
  | headers
deriving DecidableEq, Repr

def Flaw.message : Flaw → String
  | noOrigin => "Request header `Origin` is required but was not provided"
  | origin => "Origin is not allowed to make this request"
  | method => "Requested method is not allowed"
  | badHeaders => "Request header `Access-Control-Request-Headers` has an invalid value"
  | headers => "One or more request headers are not allowed"

/-- The origins that production serves. -/
def origins (s : ServerSettings) : List String :=
  (s.allowedOrigins.map Text.trim).filter fun o => o ≠ ""

/-- Outside production every origin is served, and one that is not told as well. -/
def checkOrigin (s : Settings) (origin : Option String) : Except Flaw Unit :=
  if s.environment ≠ .production then .ok ()
  else
    match origin with
    | none => .error .noOrigin
    | some o => if (origins s.server).contains o then .ok () else .error .origin

def isWord (s : String) : Bool := s ≠ "" && s.toList.all MediaType.isToken

/-- The method that a preflight asks about. -/
def askedMethod? (q : Request) : Option String :=
  if q.method = "OPTIONS" then
    (q.plainHeader? "access-control-request-method").filter isWord
  else none

/-- Every header that a preflight asks about is allowed. -/
def checkHeaders (q : Request) : Except Flaw Unit :=
  match q.header? "access-control-request-headers" with
  | none => .ok ()
  | some value =>
    let names := (Text.splitOn ',' value.toList).map fun cs =>
      String.ofList ((Text.trimmed cs).map Char.toLower)
    if !Request.isPlain value || !names.all isWord then .error .badHeaders
    else if names.all headers.contains then .ok ()
    else .error .headers

def checkPreflight (s : Settings) (q : Request) (method : String) : Except Flaw Unit := do
  checkOrigin s (q.header? "origin")
  if !methods.contains method then throw .method
  checkHeaders q

/-- The origin of the request, if it tells one, may see the answer. -/
def allowOrigin (q : Request) : List (String × String) :=
  (q.header? "origin").toList.map fun o => ("access-control-allow-origin", o)

/-- The answer to a preflight. -/
def preflight (s : Settings) (q : Request) (method : String) : Response :=
  match checkPreflight s q method with
  | .error flaw => .refusal flaw.message
  | .ok () =>
    { status := 200
      headers := allowOrigin q ++
        [("access-control-allow-methods", listed methods),
          ("access-control-allow-headers", listed headers), ("access-control-max-age", "3600"), vary] }

/-- The answer that is given without serving the request, if there is one. -/
def answer? (s : Settings) (q : Request) : Option Response :=
  match askedMethod? q, q.header? "origin" with
  | some method, _ => some (preflight s q method)
  | none, none => none
  | none, some origin =>
    match checkOrigin s (some origin) with
    | .ok () => none
    | .error flaw => some ((Response.refusal flaw.message).withHeaders [vary])

/-- What is added to the answer of a request that was served. -/
def grant (q : Request) (r : Response) : Response :=
  r.withHeaders (allowOrigin q ++ [exposed, vary])

end ParcelDesk.Web.Cors

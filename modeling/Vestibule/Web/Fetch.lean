import Vestibule.Fault
import Vestibule.Text.Base64
import Vestibule.Web.Cookie
import Vestibule.Web.Header

/-!
Sending a request the way a web client does: with cookies from its jar, following redirects.

Each request goes out with the jar's cookies for its URL, and every response files its cookies
back. A response with status 301, 302 or 303 is followed with `GET` (a `HEAD` stays `HEAD`) and
without a body, and without the headers that describe the body; 307 and 308 repeat the method
and the body. Once a hop drops the body it stays dropped. A redirect without a `Location` is the
answer itself. Each hop carries the first request's headers, except that credentials and
cookies stop once a hop leaves the first request's host for one that is not within it. Host
names are compared in checked ASCII form and without regard to case, and one without a checked
ASCII form is within no other. Ten requests may be sent; the eleventh redirect is refused.

A failure of the wire or of a redirect is reported with the first request's method and the URL
that failed.
-/

namespace Vestibule.Web

/-- A request to send. -/
structure Request where
  method : String
  url : Url
  headers : Headers
  body : Option String
  deriving Repr, DecidableEq

/-- A response received. -/
structure Response where
  status : Nat
  headers : Headers
  body : String
  deriving Repr, DecidableEq, Inhabited

/-- What a client needs from the outside: a wire that carries one request and brings back its
response, and the time in nanoseconds since the epoch, for cookies. -/
structure Wire (m : Type → Type) where
  send : Request → m (Except Fault Response)
  now : m Int

def verbOf (method : String) : String :=
  match method.toList with
  | [] => ""
  | c :: cs => String.ofList (c :: cs.map Char.toLower)

def isSensitiveHeader (name : String) : Bool :=
  ["Authorization", "Www-Authenticate", "Cookie", "Cookie2", "Proxy-Authorization",
    "Proxy-Authenticate"].contains (canonicalName name)

def isDomainOrSubdomain (sub parent : String) : Bool :=
  sub == parent ||
    (!(sub.contains ':' || sub.contains '%') && hasDotSuffix sub parent)

/-- The host name of a URL as compared across redirects: in checked ASCII form and lower case;
none when it has no checked ASCII form. -/
def comparedHost? (u : Url) : Option String :=
  (Punycode.toAsciiChecked u.hostname).map fun h =>
    String.ofList ((Text.Utf8.decode h).toList.map Timestamp.lowerAscii)

/-- Whether a redirect from `initial` to `dest` keeps the credentials: the destination is the
same host name or one under it, and both host names have a checked ASCII form. -/
def keepsCredentials (initial dest : Url) : Bool :=
  match comparedHost? dest, comparedHost? initial with
  | some d, some i => isDomainOrSubdomain d i
  | _, _ => false

def isBodyHeader (name : String) : Bool :=
  ["Content-Encoding", "Content-Language", "Content-Location", "Content-Type"].contains
    (canonicalName name)

/-- The method and whether the body goes along when following a redirect status; none for a
status that is not followed. -/
def redirectRule (method : String) (status : Nat) : Option (String × Bool) :=
  if status == 301 || status == 302 || status == 303 then
    some (if method == "GET" || method == "HEAD" then method else "GET", false)
  else if status == 307 || status == 308 then some (method, true)
  else none

/-- A request with the jar's cookies for its URL added. -/
def withCookies (req : Request) (cs : List StoredCookie) : Request :=
  if cs.isEmpty then req else
  let line := cookieLine cs
  let prior := req.headers.get "Cookie"
  { req with headers := req.headers.set "Cookie" (if prior.isEmpty then line else prior ++ "; " ++ line) }

/-- A request carrying the user information of its URL as basic credentials, unless it carries
credentials already. -/
def withUrlCredentials (req : Request) : Request :=
  match req.url.user with
  | none => req
  | some i =>
    if !(req.headers.get "Authorization").isEmpty then req else
    let pair := i.name ++ [58] ++ i.password.getD []
    let line := "Basic " ++ String.ofList (Text.Base64.encodeStandard pair)
    { req with headers := req.headers.set "Authorization" line }

/-- The written form of a URL for messages: a password is shown as `***`. -/
def Url.renderHidden (u : Url) : String :=
  match u.user with
  | some i =>
    match i.password with
    | some _ =>
      let shown := Text.Utf8.decode i.render ++ "@"
      match u.render.splitOn shown with
      | before :: after => before ++ Text.Utf8.decode i.name ++ ":***@" ++ shown.intercalate after
      | [] => u.render
    | none => u.render
  | none => u.render

variable {m : Type → Type} [Monad m]

/-- Sends one request with the jar's cookies and files the cookies of its response. -/
def sendOne (w : Wire m) (jar : Jar) (req : Request) : m (Except Fault Response × Jar) := do
  let now ← w.now
  let (cs, jar) := jar.select req.url now
  match ← w.send (withUrlCredentials (withCookies req cs)) with
  | .error e => return (.error e, jar)
  | .ok resp =>
    let set := (resp.headers.values "Set-Cookie").filterMap SetCookie.parse?
    return (.ok resp, jar.store req.url now set)

/-- The state of a transfer between hops: the last request and its response, how many requests
were sent, whether the body still goes along, and whether credentials were dropped. -/
structure Hop where
  request : Request
  response : Response
  sent : Nat
  withBody : Bool
  stripped : Bool

/-- Follows redirects from a hop, at most `fuel` more times. -/
def follow (w : Wire m) (first : Request) (fuel : Nat) (hop : Hop) (jar : Jar) :
    m (Except Fault Response × Jar) := do
  let fail (url : String) (e : Fault) : Except Fault Response :=
    .error (.transport (verbOf first.method) url e)
  match redirectRule hop.request.method hop.response.status with
  | none => return (.ok hop.response, jar)
  | some (method, keepBody) =>
    let withBody := hop.withBody && keepBody
    let loc := hop.response.headers.get "Location"
    if loc.isEmpty then return (.ok hop.response, jar)
    match Url.read (ascii loc) with
    | .error msg =>
      return (fail hop.request.url.renderHidden
        (.text ("failed to parse Location header " ++ Text.Quote.quote loc ++ ": " ++ msg)), jar)
    | .ok ref =>
      let url := hop.request.url.resolve ref
      let stripped := hop.stripped ||
        (first.url.host != url.host && !keepsCredentials first.url url)
      let headers : Headers :=
        ⟨first.headers.entries.filter fun e =>
          !(stripped && isSensitiveHeader e.1) && !(!withBody && isBodyHeader e.1)⟩
      let req : Request := ⟨method, url, headers, if withBody then first.body else none⟩
      if hop.sent ≥ 10 then return (fail loc (.text "stopped after 10 redirects"), jar)
      match fuel with
      | 0 => return (fail loc (.text "stopped after 10 redirects"), jar)
      | fuel + 1 =>
        match ← sendOne w jar req with
        | (.error e, jar) => return (fail url.renderHidden e, jar)
        | (.ok resp, jar) => follow w first fuel ⟨req, resp, hop.sent + 1, withBody, stripped⟩ jar

def fetch (w : Wire m) (jar : Jar) (req : Request) : m (Except Fault Response × Jar) := do
  match ← sendOne w jar req with
  | (.error e, jar) => return (.error (.transport (verbOf req.method) req.url.renderHidden e), jar)
  | (.ok resp, jar) => follow w req 10 ⟨req, resp, 1, true, false⟩ jar

end Vestibule.Web

import Vestibule.Json.Write
import Vestibule.Web.ContentCoding
import Vestibule.Web.Cookie
import Vestibule.Web.Envelope
import Vestibule.Web.Header

/-!
Requests the service receives and the responses it writes.

A request names a method, which must be a token, and an absolute URL.

Cookies of a request are read from its `Cookie` lines, unless the lines hold more than 3000
cookies, counting one more than the semicolons of each line, in which case none is read: parts
split at `;`, each `name=value`
with the name a token and the value free of quotes, semicolons, backslashes and controls once
its surrounding double quotes are taken off; the first cookie of a name wins.

A response carries the text of its body and the content coding its octets are sent in.
It is written as JSON with HTML-safe escapes and a final line feed, as a failure
envelope, as a redirect, or as one of the plain answers for a missing path or a wrong method.
A redirect to a relative place is made absolute against the request path and cleaned of dot
segments, keeping a final slash; non-ASCII octets of its `Location` are escaped; a `GET` gets a
short HTML body naming the status.
-/

namespace Vestibule.Front

open Vestibule.Json Vestibule.Web

/-- A request as received. -/
structure Request where
  method : String
  url : Url
  headers : Headers
  body : String
  deriving Repr

/-- Makes a request for `method` and the absolute URL `target`: an empty method stands for `GET`,
a method must be a token, and the target must read as a URL; the method is checked first. -/
def Request.make (method target : String) (headers : Headers) (body : String) :
    Except Fault Request := do
  let method := if method.isEmpty then "GET" else method
  if !method.toList.all isTokenChar then
    throw (.text ("net/http: invalid method " ++ Text.Quote.quote method))
  match Url.read (ascii target) with
  | .ok url => pure ⟨method, url, headers, body⟩
  | .error msg => throw (.text msg)

/-- A response as written: the body is the text of the answer, and the coding says how its
octets are sent. -/
structure Response where
  status : Nat
  headers : Headers
  body : String
  coding : Coding
  deriving Repr, DecidableEq, Inhabited

def Response.octets (r : Response) : List UInt8 := r.coding.apply (Text.Utf8.encode r.body)

def maxCookies : Nat := 3000

def cookieCount (lines : List String) : Nat :=
  lines.foldl (fun n line => n + (line.toList.filter (· == ';')).length + 1) 0

/-- The value of the first cookie of a name. -/
def Request.cookie? (r : Request) (name : String) : Option String :=
  let lines := r.headers.values "Cookie"
  if cookieCount lines > maxCookies then none else
  lines.findSome? fun line =>
    (trimLine line).splitOn ";" |>.findSome? fun part =>
      let part := trimLine part
      if part.isEmpty then none else
      let (n, v) := match part.splitOn "=" with
        | [] => ("", "")
        | [n] => (n, "")
        | n :: v => (n, "=".intercalate v)
      let n := trimLine n
      if n.isEmpty || !n.toList.all isTokenChar || n != name then none
      else (cookieValue? v true).map Prod.fst

def Response.bare (status : Nat) : Response := ⟨status, Headers.empty, "", .identity⟩

def Response.json (status : Nat) (v : Value) : Response :=
  ⟨status, Headers.empty.set "Content-Type" "application/json", Style.body.line v, .identity⟩

def Response.failure (e : Fault) : Response :=
  let (status, body) := e.response
  ⟨status, Headers.empty.set "Content-Type" "application/json", body, .identity⟩

def Response.notFound : Response :=
  ⟨404, (Headers.empty.set "Content-Type" "text/plain; charset=utf-8").set
    "X-Content-Type-Options" "nosniff", "404 page not found\n", .identity⟩

def Response.notAllowed (allowed : List String) : Response :=
  ⟨405, allowed.foldl (fun h m => h.add "Allow" m) Headers.empty, "", .identity⟩

def Response.signInFirst : Response :=
  ⟨401, Headers.empty.set "Content-Type" "application/json",
    "\x7b\"error\":\"unauthorized\",\"error_description\":\"login required\"\x7d", .identity⟩

/-- A path cleaned of empty, `.` and `..` segments; `.` for nothing left. -/
def cleanPath (p : String) : String :=
  if p.isEmpty then "." else
  let rooted := p.front == '/'
  let step (acc : List String) (seg : String) : List String :=
    if seg.isEmpty || seg == "." then acc
    else if seg == ".." then
      match acc.getLast? with
      | some last => if last == ".." then (if rooted then acc else acc ++ [".."]) else acc.dropLast
      | none => if rooted then acc else acc ++ [".."]
    else acc ++ [seg]
  let segs := (p.splitOn "/").foldl step []
  let body := "/".intercalate segs
  let out := if rooted then "/" ++ body else body
  if out.isEmpty then "." else out

/-- The place a redirect names, made absolute against the request path. -/
def redirectTarget (requestPath : String) (dest : String) : String :=
  match Url.read (ascii dest) with
  | .error _ => dest
  | .ok u =>
    if !u.scheme.isEmpty || !u.host.isEmpty then dest else
    let old := if requestPath.isEmpty then "/" else requestPath
    let dest := if dest.isEmpty || dest.front != '/' then
        let dir := match lastIndex? 47 (ascii old) with
          | some i => Text.Utf8.decode ((ascii old).take (i + 1))
          | none => ""
        dir ++ dest
      else dest
    let (path, query) := match dest.splitOn "?" with
      | [] => ("", "")
      | [p] => (p, "")
      | p :: q => (p, "?" ++ "?".intercalate q)
    let cleaned := cleanPath path
    let cleaned := if path.endsWith "/" && !cleaned.endsWith "/" then cleaned ++ "/" else cleaned
    cleaned ++ query

def escapeNonAscii (s : String) : String :=
  String.ofList ((Text.Utf8.encode s).flatMap fun b =>
    if b < 128 then [Char.ofNat b.toNat]
    else '%' :: (Nat.toDigits 16 b.toNat))

def escapeHtml (s : String) : String :=
  String.join (s.toList.map fun c =>
    if c == '&' then "&amp;" else if c == '\'' then "&#39;" else if c == '<' then "&lt;"
    else if c == '>' then "&gt;" else if c == '"' then "&#34;" else String.singleton c)

def redirectPhrase (status : Nat) : String :=
  if status == 301 then "Moved Permanently" else if status == 302 then "Found"
  else if status == 303 then "See Other" else if status == 307 then "Temporary Redirect"
  else if status == 308 then "Permanent Redirect" else ""

/-- A redirect answering a request. -/
def Response.redirect (req : Request) (dest : String) (status : Nat) : Response :=
  let target := redirectTarget (Text.Utf8.decode req.url.path) dest
  let h := Headers.empty.set "Location" (escapeNonAscii target)
  let h := if req.method == "GET" || req.method == "HEAD" then
      h.set "Content-Type" "text/html; charset=utf-8" else h
  let body := if req.method == "GET" then
      "<a href=\"" ++ escapeHtml target ++ "\">" ++ redirectPhrase status ++ "</a>.\n\n" else ""
  ⟨status, h, body, .identity⟩

end Vestibule.Front

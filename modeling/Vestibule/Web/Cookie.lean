import Vestibule.Text.Numeral
import Vestibule.Timestamp
import Vestibule.Web.HostPort
import Vestibule.Web.Punycode
import Vestibule.Web.Url

/-!
Cookies a client keeps between requests.

A `Set-Cookie` line names one cookie and its attributes. Its name must be a token and its value
may hold only printable ASCII other than `"`, `;` and `\`, once surrounding double quotes are
taken off. Attributes are read case-insensitively, and one whose value holds other characters is
passed over. `Max-Age` is a signed decimal without leading zeros and wins over `Expires`; a
non-positive `Max-Age` or an expiry that has passed deletes the cookie. The lifetime that
`Max-Age` gives is counted in 64-bit nanoseconds, which wrap around for very long lifetimes. An
expiry at the first instant of year 1 stands for none.

The jar files each cookie under the host that set it, or under the domain it names when the host
lies within that domain; a cookie with no domain is sent back to its host only. The jar is split
into sites, one for each pair of last two labels of a host name (or each IP address), and a
cookie lives in the site of the host that set it: hosts of other sites never see it, even when
they lie within its domain. A cookie is sent to URLs whose path lies under its path and, if it
is secure, only over HTTPS or to this machine itself (`localhost`, a name under it, or a
loopback address). Paths are compared as octets, so two paths that differ only in octets that
are no UTF-8 stay apart. Cookies go out longest path first, then oldest first. A host that is not
ASCII is filed under its Punycode form, and a host whose Punycode form overflows the encoder's
counters gets no cookies. Times are nanoseconds since the epoch.
-/

namespace Vestibule.Web

/-- A cookie as a response sets it. -/
structure SetCookie where
  name : String
  value : String
  quoted : Bool
  path : String
  domain : String
  maxAge : Int
  expires : Option Int
  secure : Bool
  deriving Repr, DecidableEq

def trimLine (s : String) : String :=
  let blank (c : Char) := c == ' ' || c == '\t' || c == '\n' || c == '\r'
  String.ofList ((s.toList.dropWhile blank).reverse.dropWhile blank).reverse

def isTokenChar (c : Char) : Bool :=
  c.toNat < 128 && (c.isAlphanum || "!#$%&'*+-.^_|~".toList.contains c || c.toNat == 96)

def isCookieValueChar (c : Char) : Bool :=
  0x20 ≤ c.toNat && c.toNat < 0x7F && c != '"' && c != ';' && c != '\\'

/-- A cookie value without its surrounding double quotes, if it is well formed. -/
def cookieValue? (raw : String) (allowQuotes : Bool) : Option (String × Bool) :=
  let cs := raw.toList
  let (cs, quoted) :=
    if allowQuotes && cs.length > 1 && cs.head? == some '"' && cs.getLast? == some '"' then
      ((cs.drop 1).dropLast, true)
    else (cs, false)
  if cs.all isCookieValueChar then some (String.ofList cs, quoted) else none

def asciiLower? (s : String) : Option String :=
  if s.toList.all (·.toNat < 128) then some (String.ofList (s.toList.map Char.toLower)) else none

/-- Reads a cookie expiry `Www, DD Mmm YYYY HH:MM:SS ZONE`, or with `-` between the parts of
the date; none when it cannot be read or names the first instant of year 1. -/
def expiryTime? (s : String) : Option Int :=
  let read (layout : List Timestamp.Piece) := Timestamp.read layout s
  match (read Timestamp.rfc1123).orElse (fun _ => read Timestamp.dashed) with
  | some t => if t == Timestamp.unset then none else some t
  | none => none

/-- Reads a `Max-Age` value: a signed decimal that starts with no zero unless it is zero; a
value at or below zero deletes the cookie. -/
def maxAgeValue? (v : String) : Option Int :=
  match Text.Numeral.readInt 64 v with
  | .ok secs =>
    if secs != 0 && v.front == '0' then none else some (if secs ≤ 0 then -1 else secs)
  | .error _ => none

/-- Reads a `Set-Cookie` line. -/
def SetCookie.parse? (line : String) : Option SetCookie := do
  let parts := (trimLine line).splitOn ";"
  let first := trimLine (parts.headD "")
  let (name, rawValue) ← match first.splitOn "=" with
    | [] | [_] => none
    | n :: v => some (trimLine n, "=".intercalate v)
  if name.isEmpty || !name.toList.all isTokenChar then none
  let (value, quoted) ← cookieValue? rawValue true
  let start : SetCookie := ⟨name, value, quoted, "", "", 0, none, false⟩
  pure ((parts.drop 1).foldl (fun c part =>
    let part := trimLine part
    if part.isEmpty then c else
    let (attr, raw) := match part.splitOn "=" with
      | [] => ("", "")
      | [a] => (a, "")
      | a :: v => (a, "=".intercalate v)
    match asciiLower? attr, cookieValue? raw false with
    | some "secure", some _ => { c with secure := true }
    | some "domain", some (v, _) => { c with domain := v }
    | some "path", some (v, _) => { c with path := v }
    | some "max-age", some (v, _) =>
      match maxAgeValue? v with
      | some secs => { c with maxAge := secs }
      | none => c
    | some "expires", some (v, _) => { c with expires := expiryTime? v }
    | _, _ => c) start)

/-- A cookie in a jar. -/
structure StoredCookie where
  site : String
  name : String
  value : String
  quoted : Bool
  domain : String
  path : List UInt8
  hostOnly : Bool
  secure : Bool
  expires : Option Int
  deriving Repr, DecidableEq

/-- Cookies kept by a client, oldest first. -/
structure Jar where
  cookies : List StoredCookie
  deriving Repr, DecidableEq, Inhabited

def Jar.empty : Jar := ⟨[]⟩

def hasDotSuffix (host domain : String) : Bool :=
  host.length > domain.length && host.endsWith ("." ++ domain)

/-- Whether a host is taken for an IP address: an address without a zone, or any host with a colon
or a percent sign, which no host name holds. -/
def isIpHost (host : String) : Bool :=
  host.contains ':' || host.contains '%' ||
    match Address.parse (Text.Utf8.encode host) with
    | .ok ip => ip.zone.isEmpty
    | .error _ => false

/-- Whether a jar host is this machine: `localhost` or a name under it, or a loopback address
without a zone, trailing dots aside. Secure cookies go to such a host over plain HTTP too, since
the request never leaves the machine. -/
def isLoopbackHost (host : String) : Bool :=
  let h := String.ofList (host.toList.reverse.dropWhile (· == '.')).reverse
  h == "localhost" || h.endsWith ".localhost" ||
    match Address.parse (Text.Utf8.encode h) with
    | .ok ip => ip.zone.isEmpty && ip.isLoopback
    | .error _ => false

/-- The site of a host: an IP address is its own site; a name's site is its last two labels,
where the label before the last dot is taken to end one character before that dot, and a name
with no dot past its first character is its own site. -/
def siteOf (host : String) : String :=
  if isIpHost host then host else
  let bs := Text.Utf8.encode host
  match lastIndex? 46 bs with
  | none | some 0 => host
  | some (i + 1) =>
    match lastIndex? 46 (bs.take i) with
    | none => host
    | some j => Text.Utf8.decode (bs.drop (j + 1))

/-- The host a jar files cookies under: without port or final dot, in ASCII form and lower
case; none when a host with a port does not split as `host:port`, or has no ASCII form. -/
def jarHost? (u : Url) : Option String :=
  let host := Text.Utf8.decode u.host
  let colons := host.toList.count ':'
  let host? : Option String :=
    if colons == 0 then some host
    else if colons == 1 || (host.front == '[' && (host.splitOn "]:").length > 1) then
      (splitHostPort host).map Prod.fst
    else some host
  host?.bind fun h =>
    let h := if h.endsWith "." then String.ofList h.toList.dropLast else h
    (Punycode.toAscii (Text.Utf8.encode h)).map fun a =>
      String.ofList ((Text.Utf8.decode a).toList.map Timestamp.lowerAscii)

/-- The path cookies set by a URL default to: the directory of its path, as octets. -/
def defaultCookiePath (path : List UInt8) : List UInt8 :=
  match path with
  | 47 :: _ =>
    match lastIndex? 47 path with
    | some 0 | none => [47]
    | some i => path.take i
  | _ => [47]

/-- The domain a cookie is filed under and whether it is for its host only; none when the
cookie names a domain its host may not set. -/
def cookieDomain? (host domain : String) : Option (String × Bool) :=
  if domain.isEmpty then some (host, true)
  else if isIpHost host then (if host == domain then some (host, true) else none)
  else
    let d := if domain.front == '.' then String.ofList (domain.toList.drop 1) else domain
    if d.isEmpty || d.front == '.' then none
    else match asciiLower? d with
      | none => none
      | some d =>
        if d.endsWith "." then none
        else if host != d && !hasDotSuffix host d then none
        else some (d, false)

def StoredCookie.sameAs (a b : StoredCookie) : Bool :=
  a.site == b.site && a.domain == b.domain && a.path == b.path && a.name == b.name

/-- Files the cookies a response from `u` set at time `now`. A cookie that replaces one keeps
the place of the one it replaces. -/
def Jar.store (j : Jar) (u : Url) (now : Int) (cs : List SetCookie) : Jar :=
  let scheme := Text.Utf8.decode u.scheme
  if cs.isEmpty || (scheme != "http" && scheme != "https") then j else
  match jarHost? u with
  | none => j
  | some host =>
    let defPath := defaultCookiePath u.path
    cs.foldl (fun j c =>
      match cookieDomain? host c.domain with
      | none => j
      | some (domain, hostOnly) =>
        let path := if c.path.isEmpty || c.path.front != '/' then defPath
          else Text.Utf8.encode c.path
        let entry (expires : Option Int) : StoredCookie :=
          ⟨siteOf host, c.name, c.value, c.quoted, domain, path, hostOnly, c.secure, expires⟩
        let remove : Bool × Option Int :=
          if c.maxAge < (0 : Int) then (true, none)
          else if c.maxAge > (0 : Int) then
            (false, some (now + Text.Numeral.wrap64 (c.maxAge * Timestamp.nanosPerSecond)))
          else match c.expires with
            | none => (false, none)
            | some t => if t ≤ now then (true, none) else (false, some t)
        let e := entry remove.2
        if remove.1 then ⟨j.cookies.filter (fun o => !o.sameAs e)⟩
        else if j.cookies.any (·.sameAs e) then
          ⟨j.cookies.map (fun o => if o.sameAs e then e else o)⟩
        else ⟨j.cookies ++ [e]⟩) j

def pathMatches (cookiePath requestPath : List UInt8) : Bool :=
  requestPath == cookiePath ||
    (cookiePath.isPrefixOf requestPath &&
      (cookiePath.getLast? == some 47 || requestPath.getD cookiePath.length 0 == 47))

/-- The cookies to send to `u` at time `now`, in sending order, and the jar without the
cookies that have expired. -/
def Jar.select (j : Jar) (u : Url) (now : Int) : List StoredCookie × Jar :=
  let scheme := Text.Utf8.decode u.scheme
  if scheme != "http" && scheme != "https" then ([], j) else
  match jarHost? u with
  | none => ([], j)
  | some host =>
    let site := siteOf host
    let live := j.cookies.filter fun c =>
      !(c.site == site && c.expires.isSome && c.expires.getD 0 ≤ now)
    let path := if u.path.isEmpty then [47] else u.path
    let chosen := live.filter fun c =>
      c.site == site && (c.domain == host || (!c.hostOnly && hasDotSuffix host c.domain)) &&
        pathMatches c.path path && (scheme == "https" || isLoopbackHost host || !c.secure)
    let ordered := chosen.mergeSort fun a b => a.path.length ≥ b.path.length
    (ordered, ⟨live⟩)

/-- A cookie value as sent: dropping characters a value may not hold, and quoted when it was
quoted or holds a space or a comma. -/
def sentValue (c : StoredCookie) : String :=
  let v := String.ofList (c.value.toList.filter isCookieValueChar)
  if c.quoted || v.contains ' ' || v.contains ',' then "\"" ++ v ++ "\"" else v

def cookieLine (cs : List StoredCookie) : String :=
  "; ".intercalate (cs.map fun c => c.name ++ "=" ++ sentValue c)

theorem isLoopbackHost_localhost : isLoopbackHost "localhost." = true := by decide

end Vestibule.Web

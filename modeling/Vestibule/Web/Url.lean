import Vestibule.Web.Address
import Vestibule.Web.Escape

/-!
URLs: reading, writing and resolving a reference against a base.

A URL is kept as its parts, each as octets in decoded form, so that an escape of an octet that
is not UTF-8 survives. The path and the fragment also keep the escaped form they were read in
when it differs from the standard one, and writing prefers that form while it still reads back
to the same part. Reading follows RFC 3986 with the usual leniency of web clients: a scheme is
letters first, then letters, digits, `+`, `-` or `.`; the authority follows `//`, except in a
reference without a scheme that starts with `///`, which is a path; the query is kept as
written. A host between brackets must be an IPv6 address, with an optional zone after `%25`, and
no bracket may open later in the host. Resolving a reference follows RFC 3986 section 5.2, dot
segments included. A URL written without an authority whose path starts with `//` has the first
of those slashes written as `%2F`, so that the text does not read back with a host.
-/

namespace Vestibule.Web

/-- Octet strings. -/
abbrev Bytes := List UInt8

def cutFirst (sep : UInt8) (bs : Bytes) : Bytes × Option Bytes :=
  match bs.idxOf? sep with
  | some i => (bs.take i, some (bs.drop (i + 1)))
  | none => (bs, none)

def lastIndex? (sep : UInt8) (bs : Bytes) : Option Nat :=
  (bs.reverse.idxOf? sep).map fun k => bs.length - 1 - k

def ascii (s : String) : Bytes := Text.Utf8.encode s

def startsWith (bs pre : Bytes) : Bool := bs.take pre.length == pre

/-- User name and, if given, password of an authority. -/
structure Userinfo where
  name : Bytes
  password : Option Bytes
  deriving Repr, DecidableEq

/-- A URL by its parts. -/
structure Url where
  scheme : Bytes
  rootless : Bytes
  user : Option Userinfo
  host : Bytes
  path : Bytes
  rawPath : Bytes
  omitHost : Bool
  forceQuery : Bool
  rawQuery : Bytes
  fragment : Bytes
  rawFragment : Bytes
  deriving Repr, DecidableEq

def Url.empty : Url := ⟨[], [], none, [], [], [], false, false, [], [], []⟩

/-- Why a URL could not be read. -/
inductive UrlError where
  | controlCharacter
  | missingScheme
  | colonInFirstSegment
  | missingBracket
  | invalidLiteral
  | badAddress (e : Address.AddressError)
  | badPort (colonPort : Bytes)
  | badUserinfo
  | escape (e : EscapeError)
  deriving Repr, DecidableEq

/-- The message of a URL error. -/
def UrlError.message : UrlError → String
  | .controlCharacter => "net/url: invalid control character in URL"
  | .missingScheme => "missing protocol scheme"
  | .colonInFirstSegment => "first path segment in URL cannot contain colon"
  | .missingBracket => "missing ']' in host"
  | .invalidLiteral => "invalid IP-literal"
  | .badAddress e => "invalid host: " ++ e.message
  | .badPort p => "invalid port " ++ Text.Quote.quoteBytes p ++ " after host"
  | .badUserinfo => "net/url: invalid userinfo"
  | .escape e => e.message

def unescapePart (part : Part) (bs : Bytes) : Except UrlError Bytes :=
  (unescapeBytes part bs).mapError .escape

/-- Splits off a scheme: letters, then letters, digits, `+`, `-` or `.`, then `:`. A text that
does not start that way has no scheme; one that starts with `:` is an error. -/
def splitScheme (bs : Bytes) : Except UrlError (Bytes × Bytes) :=
  go [] bs
where
  go (acc : Bytes) : Bytes → Except UrlError (Bytes × Bytes)
    | [] => .ok ([], bs)
    | b :: rest =>
      let c := Char.ofNat b.toNat
      if b < 128 && c.isAlpha then go (acc ++ [b]) rest
      else if b < 128 && (c.isDigit || c == '+' || c == '-' || c == '.') then
        if acc.isEmpty then .ok ([], bs) else go (acc ++ [b]) rest
      else if c == ':' then
        if acc.isEmpty then .error .missingScheme else .ok (acc, rest)
      else .ok ([], bs)

/-- Whether a text is empty or `:` followed by digits. -/
def isOptionalPort (bs : Bytes) : Bool :=
  match bs with
  | [] => true
  | 58 :: ds => ds.all fun b => 48 ≤ b && b ≤ 57
  | _ => false

/-- The unescaped address between the brackets of a host: the part before `%25` as a host, the
zone from there on as a zone. -/
def unescapeLiteral (inner : Bytes) : Except UrlError Bytes :=
  match (List.range inner.length).find? (fun i => (inner.drop i).take 3 == [37, 50, 53]) with
  | some i => do
    let hostPart ← unescapePart .host (inner.take i)
    let zonePart ← unescapePart .zone (inner.drop i)
    return hostPart ++ zonePart
  | none => unescapePart .host inner

/-- Reads a host with an optional port. A host that opens a bracket holds an IPv6 address
between brackets at its start, followed by an optional port. -/
def parseHost (bs : Bytes) : Except UrlError Bytes :=
  match lastIndex? 91 bs with
  | some (_ + 1) => .error .invalidLiteral
  | some 0 =>
    match lastIndex? 93 bs with
    | none => .error .missingBracket
    | some i => do
      let colonPort := bs.drop (i + 1)
      if !isOptionalPort colonPort then throw (.badPort colonPort)
      let port ← unescapePart .host colonPort
      let address ← unescapeLiteral ((bs.take i).drop 1)
      match Address.parse address with
      | .error e => throw (.badAddress e)
      | .ok ip =>
        if ip.isV4 then throw .invalidLiteral
        return 91 :: address ++ 93 :: port
  | none =>
    match lastIndex? 58 bs with
    | some i =>
      let colonPort := bs.drop i
      if !isOptionalPort colonPort then .error (.badPort colonPort)
      else unescapePart .host bs
    | none => unescapePart .host bs

def isFitUserinfo (bs : Bytes) : Bool :=
  (Text.Utf8.decode bs).toList.all fun c =>
    (c.toNat < 128 && c.isAlphanum) || "-._:~!$&'()*+,;=%@".toList.contains c

/-- Reads an authority: optional user information before the last `@`, then the host. -/
def parseAuthority (bs : Bytes) : Except UrlError (Option Userinfo × Bytes) := do
  match lastIndex? 64 bs with
  | none => return (none, ← parseHost bs)
  | some i =>
    let host ← parseHost (bs.drop (i + 1))
    let info := bs.take i
    if !isFitUserinfo info then throw .badUserinfo
    match cutFirst 58 info with
    | (name, none) => return (some ⟨← unescapePart .userinfo name, none⟩, host)
    | (name, some pw) =>
      return (some ⟨← unescapePart .userinfo name, some (← unescapePart .userinfo pw)⟩, host)

def Url.setPath (u : Url) (written : Bytes) : Except UrlError Url := do
  let p ← unescapePart .path written
  return { u with path := p, rawPath := if escapeBytes .path p == written then [] else written }

/-- Sets the fragment from its escaped form, keeping that form when it is not the standard
one. -/
def Url.setFragment (u : Url) (written : Bytes) : Except UrlError Url := do
  let f ← unescapePart .fragment written
  let raw := if escapeBytes .fragment f == written then [] else written
  return { u with fragment := f, rawFragment := raw }

/-- Reads everything of a URL but its fragment. -/
def parseBody (bs : Bytes) : Except UrlError Url := do
  if bs.any fun b => b < 32 || b == 127 then throw .controlCharacter
  if bs == [42] then return { Url.empty with path := [42] }
  let (scheme, rest) ← splitScheme bs
  let scheme := scheme.map fun b => if 65 ≤ b && b ≤ 90 then b + 32 else b
  let u := { Url.empty with scheme := scheme }
  let (rest, u) :=
    if rest.getLast? == some 63 && rest.count 63 == 1 then (rest.dropLast, { u with forceQuery := true })
    else match cutFirst 63 rest with
      | (r, some q) => (r, { u with rawQuery := q })
      | (r, none) => (r, u)
  if rest.head? != some 47 then
    if !scheme.isEmpty then return { u with rootless := rest }
    if (cutFirst 47 rest).1.contains 58 then throw .colonInFirstSegment
  if (!scheme.isEmpty || !startsWith rest [47, 47, 47]) && startsWith rest [47, 47] then
    let authority := rest.drop 2
    let (auth, path) := match authority.idxOf? 47 with
      | some i => (authority.take i, authority.drop i)
      | none => (authority, [])
    let (user, host) ← parseAuthority auth
    { u with user := user, host := host }.setPath path
  else
    let u := if !scheme.isEmpty && rest.head? == some 47 then { u with omitHost := true } else u
    u.setPath rest

/-- Reads a URL or a reference. -/
def Url.parse (bs : Bytes) : Except UrlError Url :=
  match cutFirst 35 bs with
  | (body, none) => parseBody body
  | (body, some frag) => do
    let u ← parseBody body
    if frag.isEmpty then return u
    u.setFragment frag

def parseFailure (raw : Bytes) (e : UrlError) : String :=
  "parse " ++ Text.Quote.quoteBytes raw ++ ": " ++ e.message

/-- Reads a URL; on failure, the message names the text that failed (without its fragment
unless the fragment itself failed). -/
def Url.read (bs : Bytes) : Except String Url :=
  match cutFirst 35 bs with
  | (body, none) => (parseBody body).mapError (parseFailure body)
  | (body, some frag) =>
    match parseBody body with
    | .error e => .error (parseFailure body e)
    | .ok u => if frag.isEmpty then .ok u else (u.setFragment frag).mapError (parseFailure bs)

def readsBackTo (part : Part) (written plain : Bytes) : Bool :=
  match unescapeBytes part written with
  | .ok p => p == plain
  | .error _ => false

/-- The path as written: the kept form when it still reads back to the path, else the
standard escape. -/
def Url.escapedPath (u : Url) : Bytes :=
  if !u.rawPath.isEmpty && isFitEscape .path u.rawPath &&
      readsBackTo .path u.rawPath u.path then u.rawPath
  else if u.path == [42] then [42]
  else escapeBytes .path u.path

def Url.escapedFragment (u : Url) : Bytes :=
  if !u.rawFragment.isEmpty && isFitEscape .fragment u.rawFragment &&
      readsBackTo .fragment u.rawFragment u.fragment then u.rawFragment
  else escapeBytes .fragment u.fragment

/-- The written form of user information. -/
def Userinfo.render (i : Userinfo) : Bytes :=
  escapeBytes .userinfo i.name ++
    match i.password with
    | some p => 58 :: escapeBytes .userinfo p
    | none => []

/-- The written form of a URL, as octets. -/
def Url.renderBytes (u : Url) : Bytes :=
  let head := if u.scheme.isEmpty then [] else u.scheme ++ [58]
  let body :=
    if !u.rootless.isEmpty then head ++ u.rootless
    else
      let auth :=
        if (!u.scheme.isEmpty || !u.host.isEmpty || u.user.isSome) &&
            !(u.omitHost && u.host.isEmpty && u.user.isNone) then
          (if !u.host.isEmpty || !u.path.isEmpty || u.user.isSome then [47, 47] else []) ++
          (match u.user with
            | some i => i.render ++ [64]
            | none => []) ++
          escapeBytes .host u.host
        else []
      let path := u.escapedPath
      let path := match auth, path with
        | [], 47 :: 47 :: rest => ascii "%2F" ++ 47 :: rest
        | _, _ => path
      let sep := if !path.isEmpty && path.head? != some 47 && !u.host.isEmpty then [47] else []
      let start := head ++ auth ++ sep
      let dot := if start.isEmpty && (cutFirst 47 path).1.contains 58 then [46, 47] else []
      start ++ dot ++ path
  let query := if u.forceQuery || !u.rawQuery.isEmpty then 63 :: u.rawQuery else []
  let frag := if u.fragment.isEmpty then [] else 35 :: u.escapedFragment
  body ++ query ++ frag

def Url.render (u : Url) : String := Text.Utf8.decode u.renderBytes

/-- The host without its port and brackets. -/
def Url.hostname (u : Url) : Bytes :=
  let h := match lastIndex? 58 u.host with
    | some i => if isOptionalPort (u.host.drop i) then u.host.take i else u.host
    | none => u.host
  if h.head? == some 91 && h.getLast? == some 93 then (h.drop 1).dropLast else h

/-- Removes `.` and `..` segments from a path, always giving a path from the root: a `..`
drops the segment before it, and a path that ends in a dot segment keeps its final slash. -/
def removeDots (full : Bytes) : Bytes :=
  if full.isEmpty then []
  else
    let step (acc : Bytes × Bool) (elem : Bytes) : Bytes × Bool :=
      let (dst, first) := acc
      if elem == [46] then (dst, false)
      else if elem == [46, 46] then
        match lastIndex? 47 (dst.drop 1) with
        | none => ([47], true)
        | some i => (47 :: (dst.drop 1).take i, first)
      else ((if first then dst else dst ++ [47]) ++ elem, false)
    let segs := full.splitOn 47
    let dst := (segs.foldl step ([47], true)).1
    let last := segs.getLast?.getD []
    let r := if last == [46] || last == [46, 46] then dst ++ [47] else dst
    if r.length > 1 && (r.drop 1).head? == some 47 then r.drop 1 else r

/-- The path of a reference resolved against a base path, both escaped. -/
def resolvePath (base ref : Bytes) : Bytes :=
  let full :=
    if ref.isEmpty then base
    else if ref.head? != some 47 then
      match lastIndex? 47 base with
      | some i => base.take (i + 1) ++ ref
      | none => ref
    else ref
  removeDots full

/-- A reference resolved against this URL. -/
def Url.resolve (u ref : Url) : Url :=
  let url := if ref.scheme.isEmpty then { ref with scheme := u.scheme } else ref
  let withPath (v : Url) (p : Bytes) : Url := match v.setPath p with
    | .ok w => w
    | .error _ => v
  if !ref.scheme.isEmpty || !ref.host.isEmpty || ref.user.isSome then
    withPath url (resolvePath ref.escapedPath [])
  else if !ref.rootless.isEmpty then
    { url with user := none, host := [], path := [] }
  else
    let url := if ref.path.isEmpty && !ref.forceQuery && ref.rawQuery.isEmpty then
        let v := { url with rawQuery := u.rawQuery }
        if ref.fragment.isEmpty then { v with fragment := u.fragment, rawFragment := u.rawFragment }
        else v
      else url
    if ref.path.isEmpty && !u.rootless.isEmpty then
      { url with rootless := u.rootless, user := none, host := [], path := [] }
    else
      withPath { url with host := u.host, user := u.user } (resolvePath u.escapedPath ref.escapedPath)

end Vestibule.Web

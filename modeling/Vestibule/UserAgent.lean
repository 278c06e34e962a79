import Vestibule.Text.Blank
import Vestibule.Text.Utf8

/-!
Reading a browser's `User-Agent` line into a browser name and an operating system.

A line is a run of sections. A section is a product `name/version` up to the next space, then
optionally a comment between parentheses, whose `; `-separated parts say what the product runs
on, then optionally text between square brackets, which is skipped. A comment may hold nested
parentheses. The character right after a comment or a bracketed part is skipped too.

The browser follows from the sections after the first: the engine is the second section, and
the engine decides which later section names the browser; `Mozilla`-compatible lines take the
platform and the operating system from the first comment as the engine's conventions say.
Lines that fit no engine are checked for a crawler: by a telltale word in the only product's
name, or by a web address in a comment, whose neighbouring part names the crawler. A blank
part names no crawler, and the search goes on with the next section. The crawler's name is what
stands before the first slash of the text that names it, possibly nothing. A line with no crawler
is named after its first product.

A device is shown as `browser on system`, with `Unknown Browser` and `Unknown OS` standing in
for what could not be told, and `Unknown Device` for a blank line.
-/

namespace Vestibule.UserAgent

/-- Octet strings. -/
abbrev Bytes := List UInt8

def lit (s : String) : Bytes := Text.Utf8.encode s

def startsWith (bs : Bytes) (s : String) : Bool := bs.take (lit s).length == lit s

def containsText (bs : Bytes) (s : String) : Bool :=
  let p := lit s
  (List.range (bs.length + 1)).any fun i => (bs.drop i).take p.length == p

/-- Splits octets at every occurrence of a separator. -/
def splitOnText (bs : Bytes) (sep : String) : List Bytes :=
  go bs.length bs []
where
  go : Nat → Bytes → Bytes → List Bytes
    | 0, rest, acc => [acc ++ rest]
    | fuel + 1, rest, acc =>
      if rest.isEmpty then [acc]
      else if startsWith rest sep && !(lit sep).isEmpty then acc :: go fuel (rest.drop (lit sep).length) []
      else go fuel (rest.drop 1) (acc ++ rest.take 1)

/-- One section of a line. -/
structure Section where
  name : Bytes
  version : Bytes
  comment : List Bytes
  deriving Repr, DecidableEq, Inhabited

/-- The octets up to a delimiter and what follows it. With `nested`, an open parenthesis
protects the next delimiter. -/
def readUntil (delim : UInt8) (nested : Bool) : Nat → Bytes → Bytes × Bytes
  | depth, [] => let _ := depth; ([], [])
  | depth, b :: rest =>
    if b == delim then
      if depth == 0 then ([], rest)
      else let (buf, r) := readUntil delim nested (depth - 1) rest; (b :: buf, r)
    else
      let depth := if nested && b == 40 then depth + 1 else depth
      let (buf, r) := readUntil delim nested depth rest
      (b :: buf, r)

def splitProduct (bs : Bytes) : Bytes × Bytes :=
  match bs.idxOf? 47 with
  | some i => (bs.take i, bs.drop (i + 1))
  | none => (bs, [])

/-- Reads one section from the start of the octets. -/
def readSection (bs : Bytes) : Section × Bytes :=
  let (product, rest) :=
    match bs with
    | b :: _ => if b != 40 && b != 91 then readUntil 32 false 0 bs else ([], bs)
    | [] => ([], [])
  let (name, version) := splitProduct product
  let isProduct := match bs with
    | b :: _ => b != 40 && b != 91
    | [] => false
  let (name, version) := if isProduct then (name, version) else ([], [])
  let (comment, rest) :=
    match rest with
    | 40 :: more => let (buf, r) := readUntil 41 true 0 more; (splitOnText buf "; ", r.drop 1)
    | _ => ([], rest)
  let rest :=
    match rest with
    | 91 :: more => (readUntil 93 true 0 more).2.drop 1
    | _ => rest
  (⟨name, version, comment⟩, rest)

/-- Reads all sections of a line. -/
def sections (bs : Bytes) : List Section :=
  go bs.length bs
where
  go : Nat → Bytes → List Section
    | 0, _ => []
    | fuel + 1, rest =>
      if rest.isEmpty then [] else
      let (s, more) := readSection rest
      s :: go fuel more

/-- What is known of a line while it is read. -/
structure Reading where
  ua : Bytes
  platform : Bytes
  os : Bytes
  browser : Bytes
  engine : Bytes
  undecided : Bool
  deriving Repr, DecidableEq, Inhabited

def windowsVersions : List (String × String) :=
  [("5.0", "Windows 2000"), ("5.01", "Windows 2000, Service Pack 1 (SP1)"), ("5.1", "Windows XP"),
    ("5.2", "Windows XP x64 Edition"), ("6.0", "Windows Vista"), ("6.1", "Windows 7"),
    ("6.2", "Windows 8"), ("6.3", "Windows 8.1"), ("10.0", "Windows 10")]

/-- The name of a Windows version written `word NT number`; any other name as it is. The
number is everything after the second space. -/
def windowsName (name : Bytes) : Bytes :=
  match name.idxOf? 32 with
  | none => name
  | some i =>
    let rest := name.drop (i + 1)
    match rest.idxOf? 32 with
    | none => name
    | some j =>
      if rest.take j != lit "NT" then name
      else
        let v := rest.drop (j + 1)
        match windowsVersions.find? (fun e => lit e.1 == v) with
        | some e => lit e.2
        | none => name

/-- The platform the first comment names. -/
def platformOf (comment : List Bytes) : Bytes :=
  match comment with
  | c :: _ =>
    if c == lit "compatible" then []
    else if startsWith c "Windows" then lit "Windows"
    else if startsWith c "Symbian" then lit "Symbian"
    else if startsWith c "webOS" then lit "webOS"
    else if c == lit "BB10" then lit "BlackBerry"
    else c
  | [] => []

def namesCrawler (c : Bytes) : Bool :=
  c.length > 5 && (startsWith c "Googlebot" || startsWith c "bingbot")

def sectionAt (ss : List Section) (i : Nat) : Section := ss.getD i default

def revision? (c : Bytes) : Option Bytes :=
  if startsWith c "rv:" && c.length > 3 && !(c.drop 3).contains 10 then some (c.drop 3) else none

/-- The Internet Explorer version a `Trident/` token stands for. -/
def tridentVersion (v : Bytes) : Bytes :=
  if v == lit "4.0" then lit "8.0"
  else if v == lit "5.0" then lit "9.0"
  else if v == lit "6.0" then lit "10.0"
  else []

/-- Decides the browser and engine from the sections. -/
def detectBrowser (r : Reading) (ss : List Section) : Reading :=
  let n := ss.length
  let first := sectionAt ss 0
  if first.name == lit "Opera" then { r with browser := lit "Opera", engine := lit "Presto" }
  else if first.name == lit "Dalvik" then r
  else if n > 1 then
    let engine := sectionAt ss 1
    let r := { r with engine := engine.name }
    if n ≤ 2 then r else
    let idx := if (sectionAt ss 2).version.isEmpty && n > 3 then 3 else 2
    if engine.name == lit "AppleWebKit" then
      let r := if engine.comment.any namesCrawler then { r with undecided := true } else r
      let last := (sectionAt ss (n - 1)).name
      if last == lit "Edge" then { r with browser := lit "Edge", engine := lit "EdgeHTML" }
      else if last == lit "Edg" then
        if r.undecided then r else { r with browser := lit "Edge" }
      else if last == lit "OPR" then { r with browser := lit "Opera" }
      else if last == lit "Mobile" then { r with browser := lit "Mobile App" }
      else
        let third := (sectionAt ss (n - 3)).name
        let second := (sectionAt ss (n - 2)).name
        let name :=
          if third == lit "YaBrowser" then lit "YaBrowser"
          else if third == lit "coc_coc_browser" then lit "Coc Coc"
          else if second == lit "Electron" then lit "Electron"
          else if second == lit "DuckDuckGo" then lit "DuckDuckGo"
          else if second == lit "PhantomJS" then lit "PhantomJS"
          else
            let s := (sectionAt ss idx).name
            if s == lit "Chrome" || s == lit "CriOS" then lit "Chrome"
            else if s == lit "HeadlessChrome" then lit "Headless Chrome"
            else if s == lit "Chromium" then lit "Chromium"
            else if s == lit "GSA" then lit "Google App"
            else if s == lit "FxiOS" then lit "Firefox"
            else lit "Safari"
        { r with browser := name }
    else if engine.name == lit "Gecko" then
      let name := (sectionAt ss 2).name
      let name := if name == lit "MRA" && n > 4 then (sectionAt ss 4).name else name
      { r with browser := name }
    else if engine.name == lit "like" && (sectionAt ss 2).name == lit "Gecko" then
      { r with engine := lit "Trident", browser := lit "Internet Explorer" }
    else r
  else if n == 1 && first.comment.length > 1 then
    let c := first.comment
    if c.headD [] == lit "compatible" && startsWith (c.getD 1 []) "MSIE" then
      { r with engine := lit "Trident", browser := lit "Internet Explorer" }
    else r
  else r

def crawlerHint (r : Reading) : Reading × Bool :=
  if containsText r.ua "Google" || containsText r.ua "bingbot" then
    ({ r with platform := [], undecided := true }, true)
  else (r, r.undecided)

def previewHint (r : Reading) : Reading × Bool :=
  if containsText r.ua "facebookexternalhit" && containsText r.ua "Twitterbot" then
    ({ r with browser := lit "iMessage-Preview", engine := [] }, true)
  else (r, false)

/-- The operating system of a Gecko line. -/
def geckoSystem (r : Reading) (c : List Bytes) : Reading :=
  if c.length ≤ 1 then r else
  let c1 := c.getD 1 []
  if c1 == lit "U" || c1 == lit "arm_64" then
    { r with os := windowsName (if c.length > 2 then c.getD 2 [] else c1) }
  else if containsText r.platform "Android" then
    { r with platform := windowsName c1, os := r.platform }
  else if c.headD [] == lit "Mobile" || c.headD [] == lit "Tablet" then
    { r with os := lit "FirefoxOS" }
  else if r.os.isEmpty then { r with os := windowsName c1 }
  else r

/-- The operating system of a WebKit line, before the iPad correction. -/
def webkitLine (r : Reading) (c : List Bytes) : Reading :=
  if r.platform == lit "webOS" then { r with browser := r.platform, os := lit "Palm" }
  else if r.platform == lit "Symbian" then { r with browser := r.platform, os := c.headD [] }
  else if r.platform == lit "Linux" then
    let r := if r.browser == lit "Safari" then { r with browser := lit "Android" } else r
    let r :=
      if c.length > 1 then
        let c1 := c.getD 1 []
        if c1 == lit "U" || c1 == lit "arm_64" then
          { r with os := if c.length > 2 then c.getD 2 [] else c.headD [] }
        else { r with os := c1 }
      else r
    if c.length == 3 then (crawlerHint r).1 else r
  else if c.isEmpty then r
  else
    let c0 := c.headD []
    let r :=
      if startsWith c0 "Windows NT" then { r with os := windowsName c0 }
      else if c.length < 2 then r
      else if c.length < 3 then
        let (r, crawler) := crawlerHint r
        if crawler then r else
        let (r, preview) := previewHint r
        if preview then r else { r with os := windowsName (c.getD 1 []) }
      else { r with os := windowsName (c.getD 2 []) }
    if r.platform == lit "BlackBerry" then
      let r := { r with browser := r.platform }
      if r.os == lit "Touch" then { r with os := r.platform } else r
    else r

/-- The operating system of a WebKit line. Firefox on an iPad calls its platform Macintosh, and
is taken for an iPad. -/
def webkitSystem (r : Reading) (c : List Bytes) : Reading :=
  let r := webkitLine r c
  if r.platform == lit "Macintosh" && r.engine == lit "AppleWebKit" && r.browser == lit "Firefox"
  then { r with platform := lit "iPad" }
  else r

/-- The operating system of a Trident line. -/
def tridentSystem (r : Reading) (c : List Bytes) : Reading :=
  let r := { r with platform := lit "Windows" }
  if !r.os.isEmpty then r
  else if c.length > 2 then { r with os := windowsName (c.getD 2 []) }
  else { r with os := lit "Windows NT 4.0" }

/-- The operating system of an Opera line. -/
def operaSystem (r : Reading) (c : List Bytes) : Reading :=
  let c0 := c.headD []
  if startsWith c0 "Windows" then { r with platform := lit "Windows", os := windowsName c0 }
  else
    let r := { r with platform := c0 }
    if c.length > 1 then { r with os := c.getD 1 [] } else { r with os := c0 }

/-- The operating system of a Dalvik line. -/
def dalvikSystem (r : Reading) (c : List Bytes) : Reading :=
  let c0 := c.headD []
  if startsWith c0 "Linux" then
    let r := { r with platform := c0 }
    if c.length > 2 then { r with os := c.getD 2 [] } else r
  else r

/-- Decides platform and operating system from the first section. -/
def detectSystem (r : Reading) (s : Section) : Reading :=
  if s.name == lit "Mozilla" then
    let r := { r with platform := platformOf s.comment }
    let r := if r.platform == lit "Windows" && !s.comment.isEmpty then
        { r with os := windowsName (s.comment.headD []) } else r
    if r.engine.isEmpty then { r with undecided := true }
    else if r.engine == lit "Gecko" then geckoSystem r s.comment
    else if r.engine == lit "AppleWebKit" then webkitSystem r s.comment
    else if r.engine == lit "Trident" then tridentSystem r s.comment
    else r
  else if s.name == lit "Opera" then
    if s.comment.isEmpty then r else operaSystem r s.comment
  else if s.name == lit "Dalvik" then
    if s.comment.isEmpty then r else dalvikSystem r s.comment
  else if s.name == lit "okhttp" then { r with browser := lit "OkHttp" }
  else { r with undecided := true }

def isWordOctet (b : UInt8) : Bool :=
  (48 ≤ b && b ≤ 57) || (65 ≤ b && b ≤ 90) || (97 ≤ b && b ≤ 122) || b == 95

/-- The length of the longest web address match at the start of `rest`, just after its
scheme: at least one character, then a dot and word characters, all on one line, taking the
last such dot and all word characters after it. -/
def addressTail (rest : Bytes) : Option Nat :=
  let line := rest.takeWhile (· != 10)
  let dots := (List.range line.length).filter fun j =>
    j ≥ 1 && line.getD j 0 == 46 && isWordOctet (line.getD (j + 1) 0)
  match dots.getLast? with
  | none => none
  | some j => some (j + 1 + ((line.drop (j + 1)).takeWhile isWordOctet).length)

/-- The first web address in text: `http://` or `https://`, then an address tail. -/
def siteMatch (bs : Bytes) : Option Bytes :=
  (List.range bs.length).findSome? fun i =>
    let rest := bs.drop i
    let scheme := if startsWith rest "https://" then some 8
      else if startsWith rest "http://" then some 7 else none
    scheme.bind fun k => (addressTail (rest.drop k)).map fun n => rest.take (k + n)

/-- The crawler a comment names by a web address, if it does: for a short comment the address
itself, else the part before the one holding the address, trimmed; a blank part names none. -/
def crawlerFromSite (comment : List Bytes) : Option Bytes :=
  if comment.isEmpty then none else
  let idx := if comment.length < 3 then 0 else if comment.length == 4 then 3 else 2
  match siteMatch (comment.getD idx []) with
  | none => none
  | some site =>
    if idx == 0 then some site else
    let name := Text.trim (Text.Utf8.decode (comment.getD (idx - 1) []))
    if name.isEmpty then none else some (lit name)

def crawlerName (named : Bytes) : Bytes := named.takeWhile (· != 47)

/-- Settles a line no engine explained: a crawler or some other client. -/
def settle (r : Reading) (ss : List Section) : Reading :=
  let simple (name : Bytes) : Reading := { r with browser := name, engine := [], os := [] }
  match ss with
  | [s] => if s.name != lit "Mozilla" then simple s.name else fromSites
  | _ => fromSites
where
  fromSites : Reading :=
    match ss.findSome? (fun s => crawlerFromSite s.comment) with
    | some named => { r with browser := crawlerName named, engine := [], os := [] }
    | none =>
      match ss with
      | s :: _ => { r with browser := s.name }
      | [] => r

/-- Reads a line. -/
def read (ua : Bytes) : Reading :=
  let ss := sections ua
  let r : Reading := ⟨ua, [], [], [], [], false⟩
  match ss with
  | [] => r
  | first :: _ =>
    let r := detectSystem (detectBrowser r ss) first
    if r.undecided then settle r ss else r

/-- The device a `User-Agent` line describes. -/
def device (line : String) : String :=
  let line := Text.trim line
  if line.isEmpty then "Unknown Device" else
  let r := read (lit line)
  let browser := Text.Utf8.decode r.browser
  let browser := if browser.isEmpty then "Unknown Browser" else browser
  let os := Text.trim (Text.Utf8.decode r.os)
  let os := if os.isEmpty then Text.trim (Text.Utf8.decode r.platform) else os
  let os := if os.isEmpty then "Unknown OS" else os
  Text.trim (browser ++ " on " ++ os)

theorem crawlerName_append_slash (name rest : Bytes) (h : ∀ b ∈ name, b ≠ 47) :
    crawlerName (name ++ 47 :: rest) = name := by
  induction name with
  | nil => simp [crawlerName]
  | cons b bs ih =>
    have hb : b ≠ 47 := h b List.mem_cons_self
    have hbs : ∀ c ∈ bs, c ≠ 47 := fun c hc => h c (List.mem_cons_of_mem _ hc)
    simp only [crawlerName] at ih ⊢
    simp [hb, ih hbs]

end Vestibule.UserAgent

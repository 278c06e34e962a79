/-!
Header names and header sets.

Header names are compared in their canonical spelling: the first letter and every letter after a
hyphen in upper case, all other letters in lower case. A name holding a character that may not
appear in a header name keeps its spelling. A header set keeps its names in canonical spelling,
each with its values in the order they were added.
-/

namespace Vestibule.Web

/-- Characters allowed in header names: letters, digits and ``!#$%&'*+-.^_|~`` and the
backquote. -/
def isNameChar (c : Char) : Bool :=
  c.isAlphanum || "!#$%&'*+-.^_|~".toList.contains c || c.toNat == 96

/-- The canonical spelling of a header name. -/
def canonicalName (s : String) : String :=
  if !s.toList.all isNameChar then s else
  let step : Bool × List Char → Char → Bool × List Char := fun (upper, acc) c =>
    let c2 := if upper then c.toUpper else c.toLower
    (c == '-', c2 :: acc)
  String.ofList (s.toList.foldl step (true, [])).2.reverse

/-- Headers: canonical names, each with its values in order. -/
structure Headers where
  entries : List (String × List String)
  deriving Repr, DecidableEq, Inhabited

namespace Headers

def empty : Headers := ⟨[]⟩

def values (h : Headers) (name : String) : List String :=
  ((h.entries.find? (fun e => e.1 == canonicalName name)).map Prod.snd).getD []

def get (h : Headers) (name : String) : String := (h.values name).headD ""

/-- Replaces all values of a header by one. -/
def set (h : Headers) (name value : String) : Headers :=
  let n := canonicalName name
  if h.entries.any (fun e => e.1 == n) then
    ⟨h.entries.map (fun e => if e.1 == n then (n, [value]) else e)⟩
  else ⟨h.entries ++ [(n, [value])]⟩

/-- Adds a value after those a header has. -/
def add (h : Headers) (name value : String) : Headers :=
  let n := canonicalName name
  if h.entries.any (fun e => e.1 == n) then
    ⟨h.entries.map (fun e => if e.1 == n then (n, e.2 ++ [value]) else e)⟩
  else ⟨h.entries ++ [(n, [value])]⟩

def remove (h : Headers) (name : String) : Headers :=
  ⟨h.entries.filter (fun e => e.1 != canonicalName name)⟩

def has (h : Headers) (name : String) : Bool := h.entries.any (fun e => e.1 == canonicalName name)

end Headers

end Vestibule.Web

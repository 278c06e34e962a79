import Vestibule.Sorting
import Vestibule.Text.Single

/-!
The media ranges of an `Accept` header, in order of preference.

The header is a comma-separated list of clauses `type/subtype;name=value;...`; a lone `*` stands
for `*/*`, and a clause with another shape is dropped. A parameter that is not `name=value` is
dropped. In both shapes one separator at the very end is allowed and ignored: `text/plain/` is
`text/plain` and `q=0.5=` is `q=0.5`, while `a/`, `q=` and `q=0.5=1` do not have the shape. The
parameter `q` gives the quality, its text as it stands read as a single-precision number by
`Vestibule.Text.Single`; a text that is no number counts as 0, and one too large as an infinity.
Spaces around the other parts are trimmed.

The clauses are then sorted by preference: a higher quality, or a concrete type or subtype
against a wildcard, is preferred. This preference is not a total order, so the result is the one
the unstable sort of `Vestibule.Sorting` yields for it; up to 12 clauses that is insertion, where
ties keep the order of the header.
-/

namespace Vestibule.Web.Accept

/-- One clause of an `Accept` header. -/
structure MediaRange where
  type : String
  subtype : String
  quality : Float
  params : List (String × String)

def MediaRange.param? (r : MediaRange) (name : String) : Option String :=
  (r.params.reverse.find? (·.1 == name)).map (·.2)

def trimSpaces (s : String) : String :=
  String.ofList (((s.toList.dropWhile (· == ' ')).reverse.dropWhile (· == ' ')).reverse)

/-- The pieces of a text between separators. A separator at the very end closes the text and
opens no empty piece after it. -/
def pieces (s sep : String) : List String :=
  match (s.splitOn sep).reverse with
  | "" :: rest => rest.reverse
  | all => all.reverse

/-- Reads one clause; none for a clause that is no media range. -/
def readRange (part : String) : Option MediaRange :=
  let fields := (trimSpaces part).splitOn ";"
  let kind := pieces (fields.headD "") "/"
  let type := trimSpaces (kind.headD "")
  let subtype? : Option String :=
    match kind with
    | [_] => if type == "*" then some "*" else none
    | [_, s] => some (trimSpaces s)
    | _ => none
  subtype?.map fun subtype =>
    (fields.drop 1).foldl (fun r param =>
      match pieces param "=" with
      | [name, value] =>
        if trimSpaces name == "q" then { r with quality := (Text.Single.parse? value).getD 0 }
        else { r with params := r.params ++ [(trimSpaces name, trimSpaces value)] }
      | _ => r)
      ⟨type, subtype, 1, []⟩

def MediaRange.before (a b : MediaRange) : Bool :=
  a.quality > b.quality || (a.type != "*" && b.type == "*") ||
    (a.subtype != "*" && b.subtype == "*")

def parse (header : String) : List MediaRange :=
  (Sorting.sort MediaRange.before ((header.splitOn ",").filterMap readRange).toArray).toList

end Vestibule.Web.Accept

/-!
JSON values.

A number keeps the literal text it was read from, so that a reader can tell `-0` from `0` and
decide for itself which numbers fit its type. An object keeps its members in the order they were
written, repeated keys included.
-/

namespace Vestibule.Json

/-- A JSON value. -/
inductive Value where
  | null
  | bool (b : Bool)
  | number (literal : String)
  | string (s : String)
  | array (items : List Value)
  | object (members : List (String × Value))
  deriving Repr, Inhabited

/-- The word a value's kind is named by in messages. -/
def Value.kindName : Value → String
  | .null => "null"
  | .bool _ => "bool"
  | .number _ => "number"
  | .string _ => "string"
  | .array _ => "array"
  | .object _ => "object"

def Value.lookup (v : Value) (key : String) : Option Value :=
  match v with
  | .object ms => (ms.reverse.find? (fun m => m.1 == key)).map Prod.snd
  | _ => none

def Value.ofInt (n : Int) : Value := .number (toString n)

def Value.field (v : Value) (key : String) : Value := (v.lookup key).getD .null

def Value.has (v : Value) (key : String) : Bool := (v.lookup key).isSome

def Value.text (v : Value) : String :=
  match v with
  | .string s => s
  | _ => ""

/-- The integer a number literal of decimal digits stands for. -/
def Value.int? (v : Value) : Option Int :=
  match v with
  | .number lit =>
    let (neg, ds) := match lit.toList with
      | '-' :: ds => (true, ds)
      | ds => (false, ds)
    if ds.isEmpty || !ds.all Char.isDigit then none
    else
      let n : Int := ds.foldl (fun acc d => acc * 10 + (d.toNat - 48)) 0
      some (if neg then -n else n)
  | _ => none

def Value.bool? (v : Value) : Option Bool :=
  match v with
  | .bool b => some b
  | _ => none

def Value.items (v : Value) : List Value :=
  match v with
  | .array xs => xs
  | _ => []

def Value.members (v : Value) : List (String × Value) :=
  match v with
  | .object ms => ms
  | _ => []

end Vestibule.Json

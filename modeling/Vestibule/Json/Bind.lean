import Vestibule.Json.Value

/-!
Binding JSON values to typed records.

A record is described by a `Layout`: its type name and, per field, the JSON name and how a value
updates the field. Members are applied in order, so a repeated key binds again and the last one
wins; a member whose key matches no field is skipped. A key matches a field exactly, or else
when both agree after case folding. `null` leaves a field as it is. A value of the wrong kind
leaves the field as it is and is remembered as a `Mismatch`; binding goes on, and the first
mismatch is the one reported. A mismatch is placed by the keys that lead to it as the input
spells them, and by the positions of array elements.
-/

namespace Vestibule.Json

variable {α β : Type}

/-- A value whose kind does not fit the type of the place it was bound to. -/
structure Mismatch where
  found : String
  /-- The keys, as the input spells them, and array positions from the outermost value in;
  empty for the whole value. -/
  path : List String
  target : String
  deriving Repr, DecidableEq

/-- The message of a mismatch inside the record type named `outer`. -/
def Mismatch.message (outer : String) (m : Mismatch) : String :=
  if m.path.isEmpty then
    "json: cannot unmarshal " ++ m.found ++ " into Go value of type " ++ m.target
  else
    "json: cannot unmarshal " ++ m.found ++ " into Go struct field " ++ outer ++ "." ++
      ".".intercalate m.path ++ " of type " ++ m.target

/-- Binding keeps the first mismatch it meets. -/
abbrev Bind := StateM (Option Mismatch)

def Bind.note (m : Mismatch) : Bind Unit := modify fun kept => kept.or (some m)

/-- How a value updates a place of type `α` found at a path. -/
abbrev Binder (α : Type) := List String → Value → α → Bind α

/-- A field of a record: its JSON name and how a value updates the record. -/
structure Field (α : Type) where
  name : String
  bind : Binder α

/-- A record type: the name of its type, its short name for messages, and its fields. -/
structure Layout (α : Type) where
  qualified : String
  short : String
  fields : List (Field α)

/-- Case folding of key characters: ASCII letters to upper case, and the two non-ASCII letters
whose simple case folding reaches an ASCII one (Kelvin sign and long s). The dotted capital and
dotless small i fold onto no ASCII letter. -/
def foldChar (c : Char) : Char :=
  if 'a' ≤ c ∧ c ≤ 'z' then Char.ofNat (c.toNat - 32)
  else if c.toNat == 0x212A then 'K'
  else if c.toNat == 0x17F then 'S'
  else c

def foldEq (a b : String) : Bool := a.toList.map foldChar == b.toList.map foldChar

def Layout.select (l : Layout α) (key : String) : Option (Field α) :=
  match l.fields.find? (fun f => f.name == key) with
  | some f => some f
  | none => l.fields.find? (fun f => foldEq f.name key)

/-- Binds the members of an object to a record, in order. -/
def Layout.bindMembers (l : Layout α) (path : List String) (ms : List (String × Value)) (r : α) :
    Bind α :=
  ms.foldlM (fun acc m =>
    match l.select m.1 with
    | some f => f.bind (path ++ [m.1]) m.2 acc
    | none => pure acc) r

/-- Binds a value to a record at a path: an object updates it, `null` keeps it, and any other
kind is a mismatch. -/
def Layout.bindAt (l : Layout α) : Binder α := fun path v r =>
  match v with
  | .object ms => l.bindMembers path ms r
  | .null => pure r
  | other => do Bind.note ⟨other.kindName, path, l.qualified⟩; pure r

/-- Binds a value found at `base` inside a record of the type named `outer` to a record that
starts as `init`: the record, and the message of the first mismatch if there was one. -/
def Layout.bindWithin (l : Layout α) (outer : String) (base : List String) (init : α)
    (v : Value) : α × Option String :=
  let (r, kept) := (l.bindAt base v init).run none
  (r, kept.map (Mismatch.message outer))

/-- Binds a whole value to a record that starts as `init`: the record, and the message of the
first mismatch if there was one. -/
def Layout.bind (l : Layout α) (init : α) (v : Value) : α × Option String :=
  l.bindWithin l.short [] init v

/-- A text field of the text type named `target`. -/
def Binder.textAs (target : String) : Binder String := fun path v cur =>
  match v with
  | .string s => pure s
  | .null => pure cur
  | other => do Bind.note ⟨other.kindName, path, target⟩; pure cur

def Binder.text : Binder String := Binder.textAs "string"

/-- Reads a decimal literal that fits a signed 64-bit integer. -/
def parseInt64 (lit : String) : Option Int :=
  let cs := lit.toList
  let (neg, digits) := match cs with
    | '-' :: ds => (true, ds)
    | '+' :: ds => (false, ds)
    | ds => (false, ds)
  if digits.isEmpty || !digits.all Char.isDigit then none
  else
    let n : Int := digits.foldl (fun acc d => acc * 10 + (d.toNat - 48)) 0
    let v := if neg then -n else n
    if -9223372036854775808 ≤ v ∧ v ≤ 9223372036854775807 then some v else none

/-- A signed 64-bit integer field of the type named `target`. -/
def Binder.int64As (target : String) : Binder Int := fun path v cur =>
  match v with
  | .number lit =>
    match parseInt64 lit with
    | some n => pure n
    | none => do Bind.note ⟨"number " ++ lit, path, target⟩; pure cur
  | .null => pure cur
  | other => do Bind.note ⟨other.kindName, path, target⟩; pure cur

def Binder.int64 : Binder Int := Binder.int64As "int64"

/-- A truth-value field. -/
def Binder.truth : Binder Bool := fun path v cur =>
  match v with
  | .bool b => pure b
  | .null => pure cur
  | other => do Bind.note ⟨other.kindName, path, "bool"⟩; pure cur

/-- An optional signed 64-bit integer field: `null` empties it. -/
def Binder.optionalInt64 : Binder (Option Int) := fun path v cur =>
  match v with
  | .null => pure none
  | other => do
    let n ← Binder.int64 path other ((cur.getD 0))
    pure (some n)

def Binder.raw : Binder (Option Value) := fun _ v _ => pure (some v)

/-- A list-of-texts field: `null` empties it, an array replaces it. -/
def Binder.texts : Binder (Option (List String)) := fun path v cur =>
  match v with
  | .null => pure none
  | .array xs => do
    let items ← xs.zipIdx.mapM (fun (x, i) => Binder.text (path ++ [toString i]) x "")
    pure (some items)
  | other => do Bind.note ⟨other.kindName, path, "[]string"⟩; pure cur

def Binder.record (l : Layout α) : Binder α := l.bindAt

def Field.of (name : String) (b : Binder β) (get : α → β) (set : α → β → α) : Field α :=
  ⟨name, fun path v r => do let x ← b path v (get r); pure (set r x)⟩

end Vestibule.Json

import Vestibule.Json.Value
import Vestibule.Text.Blank
import Vestibule.Text.Utf8
import Vestibule.Text.Quote

/-!
Reading JSON text, one octet at a time.

The reader is a pushdown machine: a phase for the token in progress and a stack of open arrays
and objects. Each octet either moves the machine on or is refused, and a refusal names the
character that the octet starts and what the machine was looking for, so the first octet that
rules the text out is the one reported. A text that stops inside a value is cut short, whatever
the value was; only a number can end with the text. The same machine serves two readers:
`readAll` wants exactly one value and nothing but blanks after it, `readFirst` takes the first
value and ignores what follows.

A backslash in a string starts one of the escapes `\"`, `\\`, `\/`, `\b`, `\f`, `\n`, `\r`,
`\t` or `\u` with four hexadecimal digits; a faulty escape is named by its octets, the backslash
and the one after it, or the six octets of a `\u` escape (fewer when the text ends first).

Strings are decoded leniently: an octet that starts no well-formed UTF-8 character, and an
escaped surrogate that is not the first half of a pair followed by its second half, each become
U+FFFD.
-/

namespace Vestibule.Json

open Vestibule.Text

/-- Why a text is not read as a value. -/
inductive ReadError where
  /-- The character at the front of `here` cannot stand where it stands; `context` says what
  was expected there. -/
  | invalid (here : List UInt8) (context : String)
  | badEscape (sequence : List UInt8)
  | endOfInput
  | empty
  | cutShort
  | tooDeep
  deriving Repr, DecidableEq

/-- The character that octets start, between single quotes; a lone octet that starts no
well-formed character is written as a hexadecimal escape. -/
def quoteLead : List UInt8 → String
  | [] => "''"
  | b :: rest =>
    let (c, after) := Utf8.decodeOne b rest
    if c == Utf8.replacement && after.length == rest.length then
      String.ofList ('\'' :: '\\' :: 'x' :: Quote.hexFixed 2 b.toNat ++ ['\''])
    else Quote.quoteRune c

/-- Whether the octets of a faulty escape are named in a quoted text rather than between
backticks: when they hold a backtick, a blank, a character that is not printable or an octet that
starts no well-formed character. -/
def escapeNeedsQuotes (bs : List UInt8) : Bool :=
  (Utf8.decodeChars bs).any fun c =>
    c == '\x60' || c == Utf8.replacement || Text.isBlank c || !Quote.isPrintable c

/-- The message of a reading failure. -/
def ReadError.message : ReadError → String
  | .invalid here ctx => "invalid character " ++ quoteLead here ++ " " ++ ctx
  | .badEscape bs =>
    "invalid escape sequence " ++
      (if escapeNeedsQuotes bs then Quote.quoteBytes bs
       else "\x60" ++ Utf8.decode bs ++ "\x60") ++ " in string"
  | .endOfInput => "unexpected end of JSON input"
  | .empty => "EOF"
  | .cutShort => "unexpected EOF"
  | .tooDeep => "exceeded max depth"

def maxDepth : Nat := 10000

def isSpace (b : UInt8) : Bool := b == 32 || b == 9 || b == 10 || b == 13

def isDigit (b : UInt8) : Bool := 48 ≤ b && b ≤ 57

/-- The value of a hexadecimal digit. -/
def hexValue (b : UInt8) : Option Nat :=
  let n := b.toNat
  if 48 ≤ n && n ≤ 57 then some (n - 48)
  else if 97 ≤ n && n ≤ 102 then some (n - 87)
  else if 65 ≤ n && n ≤ 70 then some (n - 55)
  else none

/-- The value of four hexadecimal digits. -/
def hex4 (a b c d : UInt8) : Option Nat := do
  let w ← hexValue a
  let x ← hexValue b
  let y ← hexValue c
  let z ← hexValue d
  pure (((w * 16 + x) * 16 + y) * 16 + z)

def isSurrogate (n : Nat) : Bool := 0xD800 ≤ n && n < 0xE000

def escapeMeaning (e : UInt8) : Char :=
  if e == 98 then '\x08' else if e == 102 then '\x0c' else if e == 110 then '\n'
  else if e == 114 then '\r' else if e == 116 then '\t' else Char.ofNat e.toNat

/-- Decodes the octets between the quotes of a string that the machine accepted: escapes are
replaced by what they stand for, a surrogate escape pairs with a following one when it can, and
other octets are read as UTF-8. -/
def unquote : List UInt8 → List Char
  | [] => []
  | 92 :: 117 :: a :: b :: c :: d :: more =>
    match hex4 a b c d with
    | none => unquote more
    | some r =>
      if isSurrogate r then
        match _h : more with
        | 92 :: 117 :: a2 :: b2 :: c2 :: d2 :: more2 =>
          match hex4 a2 b2 c2 d2 with
          | some r2 =>
            if r < 0xDC00 && 0xDC00 ≤ r2 && r2 < 0xE000 then
              Char.ofNat (0x10000 + (r - 0xD800) * 0x400 + (r2 - 0xDC00)) :: unquote more2
            else Utf8.replacement :: unquote more
          | none => Utf8.replacement :: unquote more
        | _ => Utf8.replacement :: unquote more
      else Char.ofNat r :: unquote more
  | 92 :: e :: rest => escapeMeaning e :: unquote rest
  | b :: rest => (Utf8.decodeOne b rest).1 :: unquote (Utf8.decodeOne b rest).2
termination_by bs => bs.length
decreasing_by
  all_goals first
    | (have hlen := Utf8.decodeOne_length b rest; simp; omega)
    | (simp_all; omega)
    | simp_all

/-- The container open at one level of nesting, with what has been read into it, newest first. -/
inductive Frame where
  | objectKey (members : List (String × Value)) (key : String)
  | objectValue (members : List (String × Value)) (key : String)
  | array (items : List Value)
  deriving Repr

/-- The token the machine is in. Octets of strings and numbers are kept newest first. -/
inductive Phase where
  | beginValueOrEmpty
  | beginValue
  | beginKeyOrEmpty
  | beginKey
  | endValue
  | endTop
  | inString (raw : List UInt8)
  | inEscape (raw : List UInt8)
  | inUnicode (raw : List UInt8) (digits : Nat)
  | minus (lit : List UInt8)
  | integer (lit : List UInt8)
  | zero (lit : List UInt8)
  | point (lit : List UInt8)
  | fraction (lit : List UInt8)
  | exponentMark (lit : List UInt8)
  | exponentSign (lit : List UInt8)
  | exponent (lit : List UInt8)
  | word (text : String) (next : Nat) (value : Value)
  deriving Repr

/-- The reading machine. -/
structure Machine where
  phase : Phase
  frames : List Frame
  result : Option Value
  sawValue : Bool

def Machine.start : Machine := ⟨.beginValue, [], none, false⟩

def asciiText (bs : List UInt8) : String := String.ofList (bs.map (fun b => Char.ofNat b.toNat))

/-- Hands a finished value to the innermost open container, or makes it the result. -/
def Machine.give (m : Machine) (v : Value) : Machine :=
  match m.frames with
  | [] => { m with result := some v }
  | .objectKey ms _ :: fs =>
    match v with
    | .string k => { m with frames := .objectKey ms k :: fs }
    | _ => m
  | .objectValue ms k :: fs => { m with frames := .objectValue ((k, v) :: ms) k :: fs }
  | .array xs :: fs => { m with frames := .array (v :: xs) :: fs }

/-- Closes the innermost container with value `v`: the container is handed to the next one out,
and the machine waits after a value, or after the whole text when no container is left. -/
def Machine.close (m : Machine) (fs : List Frame) (v : Value) : Machine :=
  let m := { m with frames := fs }.give v
  { m with phase := if fs.isEmpty then .endTop else .endValue }

def refuse (c : UInt8) (rest : List UInt8) (context : String) : ReadError :=
  .invalid (c :: rest.take 3) context

/-- After the whole value: blanks are skipped; anything else is refused when the reader wants
the text to end here. -/
def Machine.afterTop (whole : Bool) (m : Machine) (c : UInt8) (rest : List UInt8) :
    Except ReadError Machine :=
  if isSpace c || !whole then .ok { m with phase := .endTop }
  else .error (refuse c rest "after top-level value")

/-- After a value inside a container, or at the top. -/
def Machine.afterValue (whole : Bool) (m : Machine) (c : UInt8) (rest : List UInt8) :
    Except ReadError Machine :=
  match m.frames with
  | [] => m.afterTop whole c rest
  | f :: fs =>
    if isSpace c then .ok { m with phase := .endValue } else
    match f with
    | .objectKey ms k =>
      if c == 58 then .ok { m with phase := .beginValue, frames := .objectValue ms k :: fs }
      else .error (refuse c rest "after object key")
    | .objectValue ms _ =>
      if c == 44 then .ok { m with phase := .beginKey, frames := .objectKey ms "" :: fs }
      else if c == 125 then .ok (m.close fs (.object ms.reverse))
      else .error (refuse c rest "after object key:value pair")
    | .array xs =>
      if c == 44 then .ok { m with phase := .beginValue }
      else if c == 93 then .ok (m.close fs (.array xs.reverse))
      else .error (refuse c rest "after array element")

def Machine.openFrame (m : Machine) (f : Frame) (next : Phase) :
    Except ReadError Machine :=
  if m.frames.length + 1 > maxDepth then .error .tooDeep
  else .ok { m with phase := next, frames := f :: m.frames }

/-- The first octet of a value. -/
def Machine.beginValue (m : Machine) (c : UInt8) (rest : List UInt8) :
    Except ReadError Machine :=
  let m := { m with sawValue := m.sawValue || !isSpace c }
  if isSpace c then .ok { m with phase := .beginValue }
  else if c == 123 then m.openFrame (.objectKey [] "") .beginKeyOrEmpty
  else if c == 91 then m.openFrame (.array []) .beginValueOrEmpty
  else if c == 34 then .ok { m with phase := .inString [] }
  else if c == 45 then .ok { m with phase := .minus [c] }
  else if c == 48 then .ok { m with phase := .zero [c] }
  else if c == 116 then .ok { m with phase := .word "true" 1 (.bool true) }
  else if c == 102 then .ok { m with phase := .word "false" 1 (.bool false) }
  else if c == 110 then .ok { m with phase := .word "null" 1 .null }
  else if isDigit c then .ok { m with phase := .integer [c] }
  else .error (refuse c rest "looking for beginning of value")

def Machine.beginKey (m : Machine) (c : UInt8) (rest : List UInt8) : Except ReadError Machine :=
  if isSpace c then .ok { m with phase := .beginKey }
  else if c == 34 then .ok { m with phase := .inString [] }
  else .error (refuse c rest "looking for beginning of object key string")

def Machine.endNumber (whole : Bool) (m : Machine) (lit : List UInt8) (c : UInt8)
    (rest : List UInt8) : Except ReadError Machine :=
  (m.give (.number (asciiText lit.reverse))).afterValue whole c rest

def isShortEscape (c : UInt8) : Bool :=
  c == 98 || c == 102 || c == 110 || c == 114 || c == 116 || c == 92 || c == 47 || c == 34

/-- Reads the octet `c`, followed in the text by `rest`. -/
def Machine.step (whole : Bool) (m : Machine) (c : UInt8) (rest : List UInt8) :
    Except ReadError Machine :=
  match m.phase with
  | .beginValueOrEmpty =>
    if isSpace c then .ok m
    else if c == 93 then
      match m.frames with
      | .array xs :: fs => .ok ({ m with sawValue := true }.close fs (.array xs.reverse))
      | _ => m.beginValue c rest
    else m.beginValue c rest
  | .beginValue => m.beginValue c rest
  | .beginKeyOrEmpty =>
    if isSpace c then .ok m
    else if c == 125 then
      match m.frames with
      | .objectKey ms _ :: fs => .ok (m.close fs (.object ms.reverse))
      | _ => m.beginKey c rest
    else m.beginKey c rest
  | .beginKey => m.beginKey c rest
  | .endValue => m.afterValue whole c rest
  | .endTop => m.afterTop whole c rest
  | .inString raw =>
    if c == 34 then
      .ok { m.give (.string (String.ofList (unquote raw.reverse))) with phase := .endValue }
    else if c == 92 then .ok { m with phase := .inEscape (c :: raw) }
    else if c < 32 then .error (refuse c rest "in string")
    else .ok { m with phase := .inString (c :: raw) }
  | .inEscape raw =>
    if isShortEscape c then .ok { m with phase := .inString (c :: raw) }
    else if c == 117 then .ok { m with phase := .inUnicode (c :: raw) 0 }
    else .error (.badEscape [92, c])
  | .inUnicode raw k =>
    if (hexValue c).isSome then
      .ok { m with phase := if k == 3 then .inString (c :: raw) else .inUnicode (c :: raw) (k + 1) }
    else .error (.badEscape ((92 :: 117 :: (raw.take k).reverse ++ c :: rest).take 6))
  | .minus lit =>
    if c == 48 then .ok { m with phase := .zero (c :: lit) }
    else if isDigit c then .ok { m with phase := .integer (c :: lit) }
    else .error (refuse c rest "in numeric literal")
  | .integer lit =>
    if isDigit c then .ok { m with phase := .integer (c :: lit) }
    else if c == 46 then .ok { m with phase := .point (c :: lit) }
    else if c == 101 || c == 69 then .ok { m with phase := .exponentMark (c :: lit) }
    else m.endNumber whole lit c rest
  | .zero lit =>
    if c == 46 then .ok { m with phase := .point (c :: lit) }
    else if c == 101 || c == 69 then .ok { m with phase := .exponentMark (c :: lit) }
    else m.endNumber whole lit c rest
  | .point lit =>
    if isDigit c then .ok { m with phase := .fraction (c :: lit) }
    else .error (refuse c rest "in numeric literal")
  | .fraction lit =>
    if isDigit c then .ok { m with phase := .fraction (c :: lit) }
    else if c == 101 || c == 69 then .ok { m with phase := .exponentMark (c :: lit) }
    else m.endNumber whole lit c rest
  | .exponentMark lit =>
    if c == 43 || c == 45 then .ok { m with phase := .exponentSign (c :: lit) }
    else if isDigit c then .ok { m with phase := .exponent (c :: lit) }
    else .error (refuse c rest "in numeric literal")
  | .exponentSign lit =>
    if isDigit c then .ok { m with phase := .exponent (c :: lit) }
    else .error (refuse c rest "in numeric literal")
  | .exponent lit =>
    if isDigit c then .ok { m with phase := .exponent (c :: lit) }
    else m.endNumber whole lit c rest
  | .word text k v =>
    let expected := text.toList.getD k ' '
    if c.toNat == expected.toNat then
      if k + 1 == text.length then .ok { m.give v with phase := .endValue }
      else .ok { m with phase := .word text (k + 1) v }
    else .error (refuse c rest ("in literal " ++ text ++ " (expecting " ++
      Quote.quoteOctet expected.toNat.toUInt8 ++ ")"))

/-- Reads octets until they end or the machine refuses one. With `whole` unset, reading also
stops as soon as a value is complete. -/
def Machine.run (whole : Bool) : Machine → List UInt8 → Except ReadError Machine
  | m, [] => .ok m
  | m, c :: cs =>
    match m.phase with
    | .endTop =>
      if whole then (m.step whole c cs).bind (fun m => Machine.run whole m cs) else .ok m
    | _ => (m.step whole c cs).bind (fun m => Machine.run whole m cs)

/-- The value a machine holds when the text ends: the finished value, or a number at the top
that the end of the text completes. -/
def Machine.finish (m : Machine) : Option Value :=
  match m.phase, m.frames, m.result with
  | .endTop, _, some v => some v
  | .endValue, [], some v => some v
  | .integer lit, [], _ => some (.number (asciiText lit.reverse))
  | .zero lit, [], _ => some (.number (asciiText lit.reverse))
  | .fraction lit, [], _ => some (.number (asciiText lit.reverse))
  | .exponent lit, [], _ => some (.number (asciiText lit.reverse))
  | _, _, _ => none

/-- Reads a text that must hold exactly one value, with only blanks around it. -/
def readAll (bs : List UInt8) : Except ReadError Value := do
  let m ← Machine.start.run true bs
  match m.finish with
  | some v => pure v
  | none => .error .endOfInput

/-- Reads the first value of a text and ignores what follows it. -/
def readFirst (bs : List UInt8) : Except ReadError Value := do
  let m ← Machine.start.run false bs
  match m.finish with
  | some v => pure v
  | none => .error (if m.sawValue then .cutShort else .empty)

end Vestibule.Json

import Vestibule.Json.Value
import Vestibule.Text.Quote

/-!
Writing JSON text.

Values are written compactly: no blanks between tokens, object members in their order. A string
escapes the quote, the backslash and every control character; the line and paragraph separators
are always escaped too. A `Style` decides the rest: whether `<`, `>` and `&` are escaped, so that
the text can sit inside HTML, and whether backspace and form feed get their short escapes.
-/

namespace Vestibule.Json

open Vestibule.Text

/-- The choices a writer makes beyond the JSON grammar. -/
structure Style where
  escapeHtml : Bool
  shortControls : Bool

def Style.body : Style := ⟨true, true⟩

def Style.record : Style := ⟨false, false⟩

/-- The written form of one character inside a string. -/
def Style.escape (st : Style) (c : Char) : List Char :=
  let n := c.toNat
  if c == '"' || c == '\\' then ['\\', c]
  else if c == '\n' then ['\\', 'n']
  else if c == '\r' then ['\\', 'r']
  else if c == '\t' then ['\\', 't']
  else if st.shortControls && c == '\x08' then ['\\', 'b']
  else if st.shortControls && c == '\x0c' then ['\\', 'f']
  else if n < 0x20 || (st.escapeHtml && (c == '<' || c == '>' || c == '&')) ||
      n == 0x2028 || n == 0x2029 then
    '\\' :: 'u' :: Quote.hexFixed 4 n
  else [c]

def Style.string (st : Style) (s : String) : String :=
  String.ofList ('"' :: s.toList.flatMap st.escape ++ ['"'])

mutual
/-- The compact text of a value. -/
def Style.render (st : Style) : Value → String
  | .null => "null"
  | .bool true => "true"
  | .bool false => "false"
  | .number lit => lit
  | .string s => st.string s
  | .array xs => "[" ++ st.renderItems xs ++ "]"
  | .object ms => "\x7b" ++ st.renderMembers ms ++ "\x7d"

def Style.renderItems (st : Style) : List Value → String
  | [] => ""
  | [x] => st.render x
  | x :: xs => st.render x ++ "," ++ st.renderItems xs

/-- Object members separated by commas. -/
def Style.renderMembers (st : Style) : List (String × Value) → String
  | [] => ""
  | [(k, v)] => st.string k ++ ":" ++ st.render v
  | (k, v) :: ms => st.string k ++ ":" ++ st.render v ++ "," ++ st.renderMembers ms
end

def Style.line (st : Style) (v : Value) : String := st.render v ++ "\n"

end Vestibule.Json

import Vestibule.Text.Printable
import Vestibule.Text.Utf8

/-!
Quoted text in the escape syntax that error messages and log lines use.

A quoted text is put between double quotes. A quote or backslash is written after a backslash,
a printable character is written as it is, and any other character is written as a short escape
(`\n`, `\t`, ...) or as a hexadecimal escape of two, four or eight digits.
-/

namespace Vestibule.Text.Quote

def hexDigit (n : Nat) : Char := "0123456789abcdef".toList.getD n '0'

def hexFixed (width n : Nat) : List Char :=
  (List.range width).reverse.map (fun i => hexDigit (n / Nat.pow 16 i % 16))

def isPrintable (c : Char) : Bool := Printable.isPrintable c

/-- The escape of a character that is not written as it is. -/
def escapeChar (c : Char) : List Char :=
  match c with
  | '\x07' => ['\\', 'a']
  | '\x08' => ['\\', 'b']
  | '\x0c' => ['\\', 'f']
  | '\n' => ['\\', 'n']
  | '\r' => ['\\', 'r']
  | '\t' => ['\\', 't']
  | '\x0b' => ['\\', 'v']
  | _ =>
    let n := c.toNat
    if n < 0x20 || n == 0x7F then '\\' :: 'x' :: hexFixed 2 n
    else if n < 0x10000 then '\\' :: 'u' :: hexFixed 4 n
    else '\\' :: 'U' :: hexFixed 8 n

def quoteChar (q : Char) (c : Char) : List Char :=
  if c == q || c == '\\' then ['\\', c]
  else if isPrintable c then [c]
  else escapeChar c

def quoteRune (c : Char) : String := String.ofList ('\'' :: quoteChar '\'' c ++ ['\''])

def quoteBody (q : Char) (s : String) : List Char := s.toList.flatMap (quoteChar q)

def quote (s : String) : String := String.ofList ('"' :: quoteBody '"' s ++ ['"'])

/-- An octet named in a message as a character between single quotes: the octet is read as the
code point of the same number. -/
def quoteOctet (b : UInt8) : String :=
  let c := Char.ofNat b.toNat
  if c == '\'' then "'\\''"
  else if c == '"' then "'\"'"
  else String.ofList ('\'' :: quoteBody '"' (String.singleton c) ++ ['\''])

/-- A text between double quotes where every octet of a control or non-ASCII character is
written as a two-digit hexadecimal escape; quote and backslash get a backslash. -/
def quoteOctets (s : String) : String :=
  let body := s.toList.flatMap fun c =>
    let n := c.toNat
    if n < 0x20 || 0x80 ≤ n then
      (Utf8.encodeChar c).flatMap fun b => '\\' :: 'x' :: hexFixed 2 b.toNat
    else if c == '"' || c == '\\' then ['\\', c]
    else [c]
  String.ofList ('"' :: body ++ ['"'])

/-- Octets between double quotes, read as UTF-8: characters are quoted as by `quote`, and an
octet that starts no well-formed character is written as a two-digit hexadecimal escape. -/
def quoteBytes (bs : List UInt8) : String :=
  String.ofList ('"' :: go bs ++ ['"'])
where
  go : List UInt8 → List Char
    | [] => []
    | b :: rest =>
      if (Utf8.decodeOne b rest).1 == Utf8.replacement &&
          (Utf8.decodeOne b rest).2.length == rest.length then
        '\\' :: 'x' :: hexFixed 2 b.toNat ++ go rest
      else quoteChar '"' (Utf8.decodeOne b rest).1 ++ go (Utf8.decodeOne b rest).2
  termination_by bs => bs.length
  decreasing_by
    all_goals first
      | (simp; done)
      | (have hlen := Utf8.decodeOne_length b rest; simp; omega)

end Vestibule.Text.Quote

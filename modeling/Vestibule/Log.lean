import Vestibule.Json.Write
import Vestibule.Text.Blank
import Vestibule.Text.Numeral

/-!
Structured log lines.

A record has a level, a message and named values. A logger writes the records at or above its
threshold and nothing for the others, one line each, in one of two forms: `key=value` pairs
separated by blanks, or a JSON object. Either way the level comes first, then the message, then
the values in the order given.

Levels are whole numbers: debug is -4, info 0, warn 4 and error 8. A level between two named ones
is written as the one below with the distance after a sign (`INFO+2`), and is read back the same
way, the name in any case.
-/

namespace Vestibule.Log

/-- The severity of a record. -/
structure Level where
  rank : Int
  deriving Repr, DecidableEq, Inhabited

def Level.debug : Level := ⟨-4⟩
def Level.info : Level := ⟨0⟩
def Level.warn : Level := ⟨4⟩
def Level.error : Level := ⟨8⟩

def wrapWord (x : Int) : Int :=
  (x + 9223372036854775808) % 18446744073709551616 - 9223372036854775808

def offsetText (d : Int) : String :=
  if d == 0 then "" else if d > 0 then "+" ++ toString d else toString d

/-- The name of a level: the named level at or below it, and how far above that it is. -/
def Level.name (l : Level) : String :=
  if l.rank < 0 then "DEBUG" ++ offsetText (l.rank + 4)
  else if l.rank < 4 then "INFO" ++ offsetText l.rank
  else if l.rank < 8 then "WARN" ++ offsetText (l.rank - 4)
  else "ERROR" ++ offsetText (l.rank - 8)

/-- Upper case of the characters that can spell a level name: ASCII letters, and the dotless i
and long s, which are capitalised to ASCII letters. -/
def upperChar (c : Char) : Char :=
  if 'a' ≤ c ∧ c ≤ 'z' then Char.ofNat (c.toNat - 32)
  else if c.toNat == 0x131 then 'I'
  else if c.toNat == 0x17F then 'S'
  else c

/-- Why a text names no level. -/
inductive LevelError where
  | badOffset (offset : String) (reason : Text.Numeral.NumberError)
  | unknownName
  deriving Repr, DecidableEq

def LevelError.message (s : String) : LevelError → String
  | .badOffset off e =>
    "slog: level string " ++ Text.Quote.quote s ++ ": " ++ e.message "Atoi" off
  | .unknownName => "slog: level string " ++ Text.Quote.quote s ++ ": unknown name"

/-- Reads a level: a name in any case, optionally followed by a signed distance that must fit a
signed 64-bit word. The distance is read before the name is looked at, so a faulty distance is
the fault reported. -/
def Level.read (s : String) : Except LevelError Level := do
  let cs := s.toList
  let nameChars := cs.takeWhile (fun c => c != '+' && c != '-')
  let rest := cs.dropWhile (fun c => c != '+' && c != '-')
  let offset ← if rest.isEmpty then pure 0 else
    match Text.Numeral.readInt64 (String.ofList rest) with
    | .ok n => pure n
    | .error e => throw (.badOffset (String.ofList rest) e)
  let base ← match String.ofList (nameChars.map upperChar) with
    | "DEBUG" => pure Level.debug
    | "INFO" => pure Level.info
    | "WARN" => pure Level.warn
    | "ERROR" => pure Level.error
    | _ => throw .unknownName
  pure ⟨wrapWord (base.rank + offset)⟩

/-- Lower case of the characters that can spell a threshold word: ASCII letters, and the dotted
capital i, which becomes a plain i. -/
def lowerChar (c : Char) : Char :=
  if 'A' ≤ c ∧ c ≤ 'Z' then Char.ofNat (c.toNat + 32)
  else if c.toNat == 0x130 then 'i'
  else c

/-- The threshold that a setting names: `debug`, `warn` or `warning`, `error`, in any case and
between blanks; anything else is info. -/
def Level.ofSetting (s : String) : Level :=
  match String.ofList ((Text.trimChars s.toList).map lowerChar) with
  | "debug" => Level.debug
  | "warn" | "warning" => Level.warn
  | "error" => Level.error
  | _ => Level.info

/-- The form of log lines. -/
inductive Form where
  | pairs
  | json
  deriving Repr, DecidableEq

def Form.ofSetting (s : String) : Form :=
  if s.toList.map Char.toLower == "text".toList then .pairs else .json

/-- A record to log. -/
structure Record where
  level : Level
  message : String
  values : List (String × String)
  deriving Repr

/-- A logger: the lowest level it writes and the form of its lines. -/
structure Logger where
  threshold : Level
  form : Form
  deriving Repr

def Logger.ofSettings (level form : String) : Logger :=
  ⟨Level.ofSetting level, Form.ofSetting form⟩

/-- Whether a text in a pair must be quoted: when it is empty, or has a blank, `=`, a quote, a
control character, the replacement character or a character that is not printable. A backslash
alone needs no quotes. -/
def needsQuotes (s : String) : Bool :=
  s.isEmpty || s.toList.any fun c =>
    let n := c.toNat
    if n < 0x80 then n < 0x20 || c == ' ' || c == '=' || c == '"'
    else n == 0xFFFD || Text.isBlank c || !Text.Quote.isPrintable c

def pairText (s : String) : String := if needsQuotes s then Text.Quote.quote s else s

def Record.pairsLine (r : Record) : String :=
  let pairs := [("level", r.level.name), ("msg", r.message)] ++ r.values
  " ".intercalate (pairs.map fun p => pairText p.1 ++ "=" ++ pairText p.2) ++ "\n"

def Record.jsonLine (r : Record) : String :=
  let pairs := [("level", r.level.name), ("msg", r.message)] ++ r.values
  let text := Json.Style.record.string
  "\x7b" ++ ",".intercalate (pairs.map fun p => text p.1 ++ ":" ++ text p.2) ++ "\x7d\n"

/-- The line a logger writes for a record; empty when the record is below its threshold. -/
def Logger.line (g : Logger) (r : Record) : String :=
  if r.level.rank < g.threshold.rank then ""
  else
    match g.form with
    | .pairs => r.pairsLine
    | .json => r.jsonLine

def ordered (values : List (String × String)) : List (String × String) :=
  let latest := values.reverse.foldl
    (fun acc v => if acc.any (·.1 == v.1) then acc else acc ++ [v]) []
  latest.mergeSort (fun a b => decide (a.1 ≤ b.1))

theorem line_below (g : Logger) (r : Record) (h : r.level.rank < g.threshold.rank) :
    g.line r = "" := by
  simp [Logger.line, h]

end Vestibule.Log

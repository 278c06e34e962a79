/-!
Instants written as dates, in the fixed layouts that cookie expiry attributes use.

An instant is a whole number of nanoseconds since 1970-01-01 00:00:00 in universal time, on the
proleptic Gregorian calendar. A layout is a sequence of pieces: literal text and the fields of a
date. Reading a text against a layout takes the pieces in turn:

* a space in literal text matches a run of spaces, or the end of the text; any other literal
  character matches itself;
* day and month names are three-letter English abbreviations, in any case; the day name is only
  checked, not compared with the date;
* the day of the month and the minute and second take two digits, the hour one or two, the year
  four; a second may carry a fraction after a point or a comma even where the layout has none;
* a time zone is `UTC`, `GMT` with an optional offset of at most 23 hours, a signed offset,
  or three to five capital letters as time zone abbreviations are written;
* nothing may follow the last piece, the hour, minute and second must be in range and the day
  must exist in its month.

The clock reading is taken as universal time whatever zone is named, since a named zone carries
no known offset.
-/

namespace Vestibule.Timestamp

/-- Days from 1970-01-01 to a date of the proleptic Gregorian calendar. -/
def daysFromCivil (y : Int) (m d : Nat) : Int :=
  let y := if m ≤ 2 then y - 1 else y
  let era := (if y ≥ 0 then y else y - 399) / 400
  let yoe := y - era * 400
  let mp : Int := if m > 2 then m - 3 else m + 9
  let doy := (153 * mp + 2) / 5 + d - 1
  let doe := yoe * 365 + yoe / 4 - yoe / 100 + doy
  era * 146097 + doe - 719468

def isLeapYear (y : Int) : Bool := (y % 4 == 0 && y % 100 != 0) || y % 400 == 0

def monthDays (y : Int) (m : Nat) : Nat :=
  if m == 2 then (if isLeapYear y then 29 else 28)
  else if m == 4 || m == 6 || m == 9 || m == 11 then 30 else 31

def nanosPerSecond : Int := 1000000000

def ofCivil (y : Int) (month day hour minute second nano : Nat) : Int :=
  (daysFromCivil y month day * 86400 + hour * 3600 + minute * 60 + second) * nanosPerSecond +
    nano

def unset : Int := ofCivil 1 1 1 0 0 0 0

/-- A piece of a layout. -/
inductive Piece where
  | weekday
  | day
  | month
  | year
  | hour
  | minute
  | second
  | zone
  | literal (text : List Char)
  deriving Repr, DecidableEq

def rfc1123 : List Piece :=
  [.weekday, .literal [',', ' '], .day, .literal [' '], .month, .literal [' '], .year,
    .literal [' '], .hour, .literal [':'], .minute, .literal [':'], .second, .literal [' '],
    .zone]

def dashed : List Piece :=
  [.weekday, .literal [',', ' '], .day, .literal ['-'], .month, .literal ['-'], .year,
    .literal [' '], .hour, .literal [':'], .minute, .literal [':'], .second, .literal [' '],
    .zone]

/-- The fields read so far. -/
structure Fields where
  year : Int := 0
  month : Nat := 1
  day : Nat := 1
  hour : Nat := 0
  minute : Nat := 0
  second : Nat := 0
  nano : Nat := 0
  deriving Repr, DecidableEq

def cutSpaces (cs : List Char) : List Char := cs.dropWhile (· == ' ')

theorem cutSpaces_length_le (cs : List Char) : (cutSpaces cs).length ≤ cs.length := by
  unfold cutSpaces
  induction cs with
  | nil => simp
  | cons c cs ih =>
    simp only [List.dropWhile_cons]
    split
    · simp only [List.length_cons]; omega
    · simp

/-- Matches literal layout text at the front of a value and gives what follows. -/
def skipLiteral : List Char → List Char → Option (List Char)
  | [], value => some value
  | ' ' :: lit, value =>
    if value.head?.any (· != ' ') then none
    else skipLiteral (cutSpaces lit) (cutSpaces value)
  | c :: lit, d :: rest => if c == d then skipLiteral lit rest else none
  | _ :: _, [] => none
termination_by lit => lit.length
decreasing_by
  all_goals first
    | (have h := cutSpaces_length_le lit; simp; omega)
    | simp

def lowerAscii (c : Char) : Char :=
  if 'A' ≤ c ∧ c ≤ 'Z' then Char.ofNat (c.toNat + 32) else c

/-- The position of the first name that starts the value, letters compared without case, and
what follows it. -/
def lookupName (names : List String) (value : List Char) : Option (Nat × List Char) :=
  names.zipIdx.findSome? fun (n, i) =>
    let k := n.length
    if value.length ≥ k && (value.take k).map lowerAscii == n.toList.map lowerAscii then
      some (i, value.drop k)
    else none

def dayNames : List String := ["Sun", "Mon", "Tue", "Wed", "Thu", "Fri", "Sat"]

def monthNames : List String :=
  ["Jan", "Feb", "Mar", "Apr", "May", "Jun", "Jul", "Aug", "Sep", "Oct", "Nov", "Dec"]

def digitValue (c : Char) : Nat := c.toNat - 48

/-- One or two leading digits as a number, or exactly two when `fixed`. -/
def twoDigits (fixed : Bool) : List Char → Option (Nat × List Char)
  | a :: b :: rest =>
    if !a.isDigit then none
    else if b.isDigit then some (digitValue a * 10 + digitValue b, rest)
    else if fixed then none
    else some (digitValue a, b :: rest)
  | [a] => if a.isDigit && !fixed then some (digitValue a, []) else none
  | [] => none

def digitsValue (ds : List Char) : Nat := ds.foldl (fun acc d => acc * 10 + digitValue d) 0

/-- The length of a signed offset of at most 23 hours at the front of a value, or zero when
there is none. -/
def signedOffsetLength (value : List Char) : Nat :=
  match value with
  | s :: rest =>
    if s != '+' && s != '-' then 0
    else
      let ds := rest.takeWhile Char.isDigit
      if ds.isEmpty || digitsValue ds > 23 then 0 else ds.length + 1
  | [] => 0

/-- The length of a time zone name at the front of a value. -/
def zoneLength (value : List Char) : Option Nat :=
  if value.take 3 == ['U', 'T', 'C'] then some 3
  else if value.length < 3 then none
  else if value.take 4 == ['C', 'h', 'S', 'T'] || value.take 4 == ['M', 'e', 'S', 'T'] then some 4
  else if value.take 3 == ['G', 'M', 'T'] then some (3 + signedOffsetLength (value.drop 3))
  else if value.head? == some '+' || value.head? == some '-' then
    let n := signedOffsetLength value
    if n > 0 then some n else none
  else
    let capitals := ((value.take 6).takeWhile fun c => 'A' ≤ c ∧ c ≤ 'Z').length
    if capitals == 3 then some 3
    else if capitals == 4 then
      if value.getD 3 ' ' == 'T' || value.take 4 == ['W', 'I', 'T', 'A'] then some 4 else none
    else if capitals == 5 then
      if value.getD 4 ' ' == 'T' then some 5 else none
    else none

def fractionNanos (ds : List Char) : Nat :=
  let kept := ds.take 9
  digitsValue kept * Nat.pow 10 (9 - kept.length)

/-- Reads one field piece at the front of a value onto the fields read so far. -/
def readField (f : Fields) (p : Piece) (value : List Char) : Option (Fields × List Char) :=
  match p with
  | .literal lit => (skipLiteral lit value).map fun rest => (f, rest)
  | .weekday => (lookupName dayNames value).map fun (_, rest) => (f, rest)
  | .month =>
    (lookupName monthNames value).map fun (i, rest) => ({ f with month := i + 1 }, rest)
  | .day => (twoDigits true value).map fun (d, rest) => ({ f with day := d }, rest)
  | .year =>
    let ds := value.take 4
    if ds.length == 4 && ds.all Char.isDigit then
      some ({ f with year := digitsValue ds }, value.drop 4)
    else none
  | .hour => do
    let (h, rest) ← twoDigits false value
    if h ≥ 24 then none else some ({ f with hour := h }, rest)
  | .minute => do
    let (m, rest) ← twoDigits true value
    if m ≥ 60 then none else some ({ f with minute := m }, rest)
  | .second => do
    let (s, rest) ← twoDigits true value
    if s ≥ 60 then none
    else
      match rest with
      | mark :: d :: more =>
        if (mark == '.' || mark == ',') && d.isDigit then
          let ds := (d :: more).takeWhile Char.isDigit
          some ({ f with second := s, nano := fractionNanos ds }, more.drop (ds.length - 1))
        else some ({ f with second := s }, rest)
      | _ => some ({ f with second := s }, rest)
  | .zone => (zoneLength value).map fun n => (f, value.drop n)

/-- Reads the pieces of a layout in turn. -/
def readPieces (f : Fields) : List Piece → List Char → Option (Fields × List Char)
  | [], value => some (f, value)
  | p :: ps, value => do
    let (f, rest) ← readField f p value
    readPieces f ps rest

/-- Reads a text against a layout as an instant. -/
def read (layout : List Piece) (text : String) : Option Int := do
  let (f, rest) ← readPieces {} layout text.toList
  if !rest.isEmpty then none
  if f.day < 1 || f.day > monthDays f.year f.month then none
  pure (ofCivil f.year f.month f.day f.hour f.minute f.second f.nano)

theorem ofCivil_epoch : ofCivil 1970 1 1 0 0 0 0 = 0 := by decide

theorem zoneLength_gmt_late : zoneLength "GMT+23".toList = some 6 := by decide

theorem zoneLength_gmt_past : zoneLength "GMT+24".toList = some 3 := by decide

theorem skipLiteral_nil (value : List Char) : skipLiteral [] value = some value := by
  simp [skipLiteral]

end Vestibule.Timestamp

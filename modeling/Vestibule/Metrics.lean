import Vestibule.Web.Accept


/-!
What the service counts, and the text it shows the counts in.

Every counted event names its metric family and, for a family with labels, the labels' values:
completed sign-ins by outcome, balance fetches by result, chat room resolutions by source,
logouts, the number of live browser sessions, and served requests by route, method and status
class. Fetches and requests are timed too; the model has no wall time, so every timing is zero
and falls into the first bucket.

The text form lists families by name, each with its help line, its type line and its series. A
family without labels always shows its one series; a family with labels shows only the label
values seen, in the order of their values. The text is version 0.0.4 of the exposition format,
whatever the client asks for; the one choice it honours is how names would be escaped, taken
from the `escaping` parameter of its `Accept` header.
-/

namespace Vestibule.Metrics

/-- One counted event. -/
inductive Event where
  | completion (outcome : String)
  | balanceFetch (result : String)
  | resolution (source : String)
  | logout
  | sessions (count : Nat)
  | request (route method status : String)
  deriving Repr, DecidableEq

/-- How a family counts. -/
inductive Shape where
  | counter
  | gauge
  | histogram (bounds : List String)
  deriving Repr, DecidableEq

/-- A metric family: its name, help text, shape, label names and series. -/
structure Family where
  name : String
  help : String
  shape : Shape
  labels : List String
  series : List (List String × Nat)
  deriving Repr, DecidableEq

def requestBounds : List String :=
  ["0.005", "0.01", "0.025", "0.05", "0.1", "0.25", "0.5", "1", "2.5", "5", "10"]

def fetchBounds : List String := ["5", "10", "25", "50", "100", "250", "500", "1000", "2500"]

def Board : Type := List Family

/-- A board with nothing counted. -/
def Board.empty : Board := [
  ⟨"parlor_oauth_completions_total", "OAuth redirect completions by terminal outcome", .counter,
    ["outcome"], []⟩,
  ⟨"parlor_balance_fetches_total", "Balance refresh fetches by result", .counter, ["result"], []⟩,
  ⟨"parlor_balance_fetch_duration_ms", "Latency of balance refresh fetches in milliseconds",
    .histogram fetchBounds, [], []⟩,
  ⟨"parlor_handoff_resolutions_total", "Chat room resolutions by source (handoff or remote)",
    .counter, ["source"], []⟩,
  ⟨"parlor_browser_sessions", "Current number of live browser sessions", .gauge, [], []⟩,
  ⟨"parlor_logouts_total", "Total number of logouts", .counter, [], []⟩,
  ⟨"parlor_http_request_duration_seconds",
    "HTTP request latency by route pattern, method and status class", .histogram requestBounds,
    ["route", "method", "status"], []⟩]

def Family.bump (f : Family) (values : List String) (by_ : Nat) : Family :=
  if f.series.any (·.1 == values) then
    { f with series := f.series.map fun (k, v) => if k == values then (k, v + by_) else (k, v) }
  else { f with series := f.series ++ [(values, by_)] }

def Family.put (f : Family) (values : List String) (v : Nat) : Family :=
  { f with series := (f.series.filter (·.1 != values)) ++ [(values, v)] }

def Board.change (b : Board) (name : String) (g : Family → Family) : Board :=
  List.map (fun f => if f.name == name then g f else f) b

/-- Counts an event. -/
def Board.record (b : Board) : Event → Board
  | .completion o => b.change "parlor_oauth_completions_total" (·.bump [o] 1)
  | .balanceFetch r =>
    (b.change "parlor_balance_fetches_total" (·.bump [r] 1)).change
      "parlor_balance_fetch_duration_ms" (·.bump [] 1)
  | .resolution s => b.change "parlor_handoff_resolutions_total" (·.bump [s] 1)
  | .logout => b.change "parlor_logouts_total" (·.bump [] 1)
  | .sessions n => b.change "parlor_browser_sessions" (·.put [] n)
  | .request route method status =>
    b.change "parlor_http_request_duration_seconds" (·.bump [route, method, status] 1)

def Family.shown (f : Family) : List (List String × Nat) :=
  if f.labels.isEmpty && f.series.isEmpty then [([], 0)] else f.series

def Family.pairs (f : Family) (values : List String) : List (String × String) :=
  (f.labels.zip values).mergeSort fun a b => decide (a.1 ≤ b.1)

def textsLe : List String → List String → Bool
  | [], _ => true
  | _ :: _, [] => false
  | a :: as, b :: bs => if a == b then textsLe as bs else decide (a < b)

def Family.ordered (f : Family) : List (List String × Nat) :=
  f.shown.mergeSort fun a b =>
    textsLe ((f.pairs a.1).map Prod.snd) ((f.pairs b.1).map Prod.snd)

def escapeLabel (s : String) : String :=
  String.ofList (s.toList.flatMap fun c =>
    if c == '\\' then ['\\', '\\'] else if c == '"' then ['\\', '"']
    else if c == '\n' then ['\\', 'n'] else [c])

def labelText (pairs : List (String × String)) : String :=
  if pairs.isEmpty then ""
  else "\x7b" ++ ",".intercalate (pairs.map fun (k, v) => k ++ "=\"" ++ escapeLabel v ++ "\"") ++ "\x7d"

/-- The lines of one family. -/
def Family.lines (f : Family) : List String :=
  let head := ["# HELP " ++ f.name ++ " " ++ f.help,
    "# TYPE " ++ f.name ++ " " ++ match f.shape with
      | .counter => "counter"
      | .gauge => "gauge"
      | .histogram _ => "histogram"]
  head ++ f.ordered.flatMap fun (values, n) =>
    let pairs := f.pairs values
    match f.shape with
    | .histogram bounds =>
      (bounds ++ ["+Inf"]).map (fun le =>
          f.name ++ "_bucket" ++ labelText (pairs ++ [("le", le)]) ++ " " ++ toString n) ++
        [f.name ++ "_sum" ++ labelText pairs ++ " 0",
         f.name ++ "_count" ++ labelText pairs ++ " " ++ toString n]
    | _ => [f.name ++ labelText pairs ++ " " ++ toString n]

def Board.families (b : Board) : List Family :=
  List.mergeSort b fun x y => decide (x.name ≤ y.name)

def Board.render (b : Board) : String :=
  String.join (b.families.flatMap fun f => if f.shown.isEmpty then [] else f.lines.map (· ++ "\n"))

/-- Every shown series by its name and label pairs, with its value; histograms show their
observation count. -/
def Board.summary (b : Board) : List (String × List (String × String) × Nat × Bool) :=
  b.families.flatMap fun f =>
    let isHistogram := match f.shape with
      | .histogram _ => true
      | _ => false
    f.ordered.map fun (values, n) => (f.name, f.pairs values, n, isHistogram)

def escapingSchemes : List String := ["allow-utf-8", "underscores", "dots", "values"]

/-- The escaping scheme a client asks for: the last known one named by the clauses of its
`Accept` header, in order of preference, up to the first clause that accepts this text; by
default underscores. -/
def escapingFor (accept : String) : String :=
  go "underscores" (Web.Accept.parse accept)
where
  go (scheme : String) : List Web.Accept.MediaRange → String
    | [] => scheme
    | r :: rs =>
      let scheme := match r.param? "escaping" with
        | some e => if escapingSchemes.contains e then e else scheme
        | none => scheme
      let version := (r.param? "version").getD ""
      if r.type == "text" && r.subtype == "plain" && (version == "0.0.4" || version.isEmpty) then
        scheme
      else go scheme rs

def contentType (accept : String) : String :=
  "text/plain; version=0.0.4; charset=utf-8; escaping=" ++ escapingFor accept

end Vestibule.Metrics

import Vestibule.Text.Quote

/-!
Failures.

A failure is a tree: a leaf is one of the well-known kinds or a plain message, and an inner node
adds context to the failures it wraps. Coded nodes carry a code and a message that clients may
see; a remote status node records the status a remote answered with. Every query walks the tree
depth first, outer context before what it wraps and left before right, which is the order the
main statements speak of: `isKind` finds a kind anywhere in the tree, `outerCode` is the code of
the first coded node, and `hasCode` follows coded nodes inward from the first one.
-/

namespace Vestibule

/-- The well-known kinds of failure that callers test for. -/
inductive Kind where
  | notFound
  | unauthorized
  | unavailable
  | malformed
  | invalidState
  | emptyCredential
  | canceled
  | deadlineExceeded
  deriving Repr, DecidableEq, Inhabited

namespace Kind

def all : List Kind :=
  [.notFound, .unauthorized, .unavailable, .malformed, .invalidState, .emptyCredential,
    .canceled, .deadlineExceeded]

/-- The name of a kind in reports. -/
def name : Kind → String
  | .notFound => "not_found"
  | .unauthorized => "unauthorized"
  | .unavailable => "unavailable"
  | .malformed => "malformed"
  | .invalidState => "invalid_state"
  | .emptyCredential => "empty_credential"
  | .canceled => "canceled"
  | .deadlineExceeded => "deadline_exceeded"

def ofName? (s : String) : Option Kind := all.find? (fun k => k.name == s)

/-- The message of a kind standing alone. -/
def text : Kind → String
  | .notFound => "not found"
  | .unauthorized => "unauthorized"
  | .unavailable => "unavailable"
  | .malformed => "malformed"
  | .invalidState => "invalid state"
  | .emptyCredential => "empty credential: invalid state"
  | .canceled => "context canceled"
  | .deadlineExceeded => "context deadline exceeded"

/-- Whether a failure of kind `k` also counts as kind `j`: an empty credential is an invalid
state. -/
def includes (k j : Kind) : Bool := k == j || (k == .emptyCredential && j == .invalidState)

end Kind

/-- A failure. -/
inductive Fault where
  | kind (k : Kind)
  | text (msg : String)
  | wrap (context : String) (inner : Fault)
  | wrapBoth (context : String) (first second : Fault)
  | coded (code : String) (message : String) (cause : Option Fault)
  | status (code : Nat) (message : String) (k : Kind)
  | transport (verb : String) (address : String) (inner : Fault)
  deriving Repr, Inhabited

namespace Fault

/-- The full message of a failure. -/
def message : Fault → String
  | .kind k => k.text
  | .text m => m
  | .wrap c e => c ++ ": " ++ e.message
  | .wrapBoth c a b => c ++ ": " ++ a.message ++ ": " ++ b.message
  | .coded _ m none => m
  | .coded _ m (some e) => m ++ ": " ++ e.message
  | .status n m _ => if m.isEmpty then s!"remote returned {n}" else s!"remote returned {n}: " ++ m
  | .transport v a e => v ++ " " ++ Text.Quote.quote a ++ ": " ++ e.message

/-- Whether the failure is of kind `k` somewhere in its tree. -/
def isKind (k : Kind) : Fault → Bool
  | .kind j => j.includes k
  | .text _ => false
  | .wrap _ e => e.isKind k
  | .wrapBoth _ a b => a.isKind k || b.isKind k
  | .coded _ _ none => false
  | .coded _ _ (some e) => e.isKind k
  | .status _ _ j => j.includes k
  | .transport _ _ e => e.isKind k

/-- The first coded node, depth first: its code, message and cause. -/
def firstCoded : Fault → Option (String × String × Option Fault)
  | .kind _ => none
  | .text _ => none
  | .wrap _ e => e.firstCoded
  | .wrapBoth _ a b => a.firstCoded <|> b.firstCoded
  | .coded c m e => some (c, m, e)
  | .status _ _ _ => none
  | .transport _ _ e => e.firstCoded

def outerCode (e : Fault) : String := (e.firstCoded.map (·.1)).getD "internal_error"

def isCode (c : String) (e : Fault) : Bool := e.firstCoded.any (·.1 == c)

/-- Whether code `c` is met following coded nodes inward: from the first coded node of the
tree to the first coded node of its cause, and so on. -/
def hasCode (c : String) : Fault → Bool
  | .kind _ => false
  | .text _ => false
  | .wrap _ e => e.hasCode c
  | .wrapBoth _ a b => match a.firstCoded with
    | some _ => a.hasCode c
    | none => b.hasCode c
  | .coded d _ none => d == c
  | .coded d _ (some e) => d == c || e.hasCode c
  | .status _ _ _ => false
  | .transport _ _ e => e.hasCode c

/-- The first remote status node, depth first: its status and message. -/
def remoteStatus : Fault → Option (Nat × String)
  | .kind _ => none
  | .text _ => none
  | .wrap _ e => e.remoteStatus
  | .wrapBoth _ a b => a.remoteStatus <|> b.remoteStatus
  | .coded _ _ none => none
  | .coded _ _ (some e) => e.remoteStatus
  | .status n m _ => some (n, m)
  | .transport _ _ e => e.remoteStatus

def kinds (e : Fault) : List Kind := Kind.all.filter (fun k => e.isKind k)

/-- The name a report gives a failure: its code when coded, else its first kind, else
`error`. -/
def reportName (e : Fault) : String :=
  match e.firstCoded with
  | some (c, _, _) => c
  | none => match e.kinds with
    | k :: _ => k.name
    | [] => "error"

def codedOver (cause : Option Fault) (code message : String) : Option Fault :=
  cause.map (fun e => .coded code message (some e))

def fresh (code message : String) : Fault := .coded code message none

end Fault

end Vestibule

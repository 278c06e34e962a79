import Vestibule.Auth.Model
import Vestibule.Text.NormalSet

/-!
The sign-in state of one browser.

A browser is anonymous, waiting to register a provider identity, or signed in as a user; beside
that it keeps the consent items chosen at registration. Transitions never fail: each one sets the
standing it names whatever the standing was, so a transition repeated changes nothing more.
-/

namespace Vestibule.Auth

open Vestibule.Json

/-- Where a browser stands. -/
inductive Standing where
  | anonymous
  | pending (identity : PendingIdentity)
  | signedIn (user : User)
  deriving Repr, DecidableEq, Inhabited

/-- The sign-in state: the standing and the chosen consent items in normal form. -/
structure State where
  standing : Standing
  consent : List String
  deriving Repr, DecidableEq, Inhabited

namespace State

def initial : State := ⟨.anonymous, []⟩

def authenticate (u : User) (s : State) : State := { s with standing := .signedIn u }

def awaitSignup (p : PendingIdentity) (s : State) : State := { s with standing := .pending p }

def recordConsent (items : List String) (s : State) : State :=
  { s with consent := Text.normalSet items }

def logout (_ : State) : State := initial

def user? (s : State) : Option User :=
  match s.standing with
  | .signedIn u => some u
  | _ => none

def pending? (s : State) : Option PendingIdentity :=
  match s.standing with
  | .pending p => some p
  | _ => none

def isAuthenticated (s : State) : Bool := s.user?.isSome

/-- The name of the standing: `authenticated`, `pending_signup` or `anonymous`. -/
def status (s : State) : String :=
  match s.standing with
  | .signedIn _ => "authenticated"
  | .pending _ => "pending_signup"
  | .anonymous => "anonymous"

def hasConsent (item : String) (s : State) : Bool := s.consent.contains item

/-- The members of the JSON form, after any leading ones a caller puts in front. -/
def members (s : State) : List (String × Value) :=
  [("isAuthenticated", .bool s.isAuthenticated)] ++
    (match s.user? with | some u => [("user", u.toValue)] | none => []) ++
    (match s.pending? with | some p => [("pendingIdentity", p.toValue)] | none => []) ++
    [("consent", .array (s.consent.map .string))]

def toValue (s : State) : Value := .object s.members

end State

end Vestibule.Auth

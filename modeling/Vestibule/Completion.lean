import Vestibule.Auth.Model
import Vestibule.Fault
import Vestibule.ProviderToken
import Vestibule.Text.Quote

/-!
Finishing a sign-in after an outside provider sends the browser back.

The provider leaves two signals: a status and, on the way to registration, a provider token.
A status of exactly `success` trades the provider's sign-in for a credential and signs the
browser in; exactly `continue` records the token's identity as waiting for registration and
looks up an e-mail address to suggest; anything else fails. Every outcome names where the
browser goes next.

One mount of the callback page runs the flow at most once and then keeps its result. The mount
may be closed, or the request given up, while a remote call is outstanding; the flow then
abandons and commits nothing more. The flow is written against an `Env` of effects, so it runs
in any monad; an environment call that aborts ends the run as a failure that names the abort.
-/

namespace Vestibule.Completion

open Vestibule.Auth

/-- How a run ended. -/
inductive Outcome where
  | success
  | signup
  | failure
  | abandoned
  deriving Repr, DecidableEq, Inhabited

/-- The name of an outcome. -/
def Outcome.name : Outcome → String
  | .success => "success"
  | .signup => "continue"
  | .failure => "failure"
  | .abandoned => "abandoned"

/-- Where each outcome sends the browser. -/
structure Routes where
  landing : String
  signup : String
  login : String
  deriving Repr, DecidableEq, Inhabited

def Routes.standard : Routes := ⟨"/", "/signup", "/login"⟩

/-- The result of a run: outcome, destination, suggested e-mail and, for logs, a reason. -/
structure Result where
  outcome : Outcome
  destination : String
  email : String
  reason : String
  deriving Repr, DecidableEq, Inhabited

/-- The two signals the provider left. -/
structure Signals where
  status : String
  providerInfo : String
  deriving Repr, DecidableEq, Inhabited

/-- The effects a run uses. -/
structure Env (m : Type → Type) where
  live : m Bool
  refreshToken : m (Except Fault TokenResult)
  pendingEmail : m (Except Fault String)
  storeCredential : String → m (Except Fault Unit)
  authenticate : User → m Unit
  awaitSignup : PendingIdentity → m Unit

def failed (routes : Routes) (reason : String) : Result := ⟨.failure, routes.login, "", reason⟩

def abandon (reason : String) : Result := ⟨.abandoned, "", "", reason⟩

variable {m : Type → Type} [Monad m]

/-- The success path: fetch a credential, store it, sign in. -/
def completeSuccess (env : Env m) (routes : Routes) : m Result := do
  let token ← env.refreshToken
  if !(← env.live) then return abandon "mount closed during token refresh"
  match token with
  | .error e => return failed routes ("token refresh failed: " ++ e.message)
  | .ok t =>
    if credentialIsZero t.accessToken then return failed routes "token refresh returned no credential"
    match ← env.storeCredential t.accessToken with
    | .error e => return failed routes ("store credential: " ++ e.message)
    | .ok () =>
      env.authenticate t.user
      return ⟨.success, routes.landing, "", ""⟩

/-- The registration path: record the identity, then suggest an e-mail address. -/
def completeSignup (env : Env m) (routes : Routes) (info : String) : m Result := do
  match ProviderToken.decode info with
  | .error e => return failed routes e.message
  | .ok identity =>
    env.awaitSignup identity
    let email ← env.pendingEmail
    if !(← env.live) then return abandon "mount closed during email lookup"
    let email := match email with
      | .ok e => Text.trim e
      | .error _ => ""
    return ⟨.signup, routes.signup, email, ""⟩

/-- One run of the flow. -/
def flow (env : Env m) (routes : Routes) (signals : Signals) : m Result := do
  if !(← env.live) then return abandon "mount closed before run"
  if signals.status == "success" then completeSuccess env routes
  else if signals.status == "continue" then completeSignup env routes (Text.trim signals.providerInfo)
  else return failed routes ("missing or unrecognized status " ++ Text.Quote.quote signals.status)

def run (env : Env (ExceptT String m)) (routes : Routes) (signals : Signals) : m Result := do
  match ← (flow env routes signals).run with
  | .ok r => return r
  | .error why => return failed routes ("panic: " ++ why)

/-- A mount of the callback page: its signals and, once it has run, its kept result. Whether
the mount is still open is the environment's to tell, through `Env.live`. -/
structure Mount where
  signals : Signals
  result : Option Result
  deriving Repr, DecidableEq, Inhabited

def Mount.fresh (signals : Signals) : Mount := ⟨signals, none⟩

/-- Runs the flow on the first call and keeps its result; every later call hands back the kept
result without running. Also tells whether this call ran the flow. -/
def Mount.runOnce (mt : Mount) (env : Env (ExceptT String m)) (routes : Routes) :
    m ((Result × Bool) × Mount) := do
  match mt.result with
  | some r => return ((r, false), mt)
  | none =>
    let r ← run env routes mt.signals
    return ((r, true), { mt with result := some r })

end Vestibule.Completion

import Vestibule.Auth.State
import Vestibule.Balance
import Vestibule.Completion
import Vestibule.Credential
import Vestibule.Metrics
import Vestibule.Remote.Api

/-!
The server side of one browser: its sign-in, credential, balance, chat hand-off and the sign-in
callback page it has open, with the client it reaches the remote service through.

Every operation but reading runs against the remote service through `Reach`, which also counts
events. Failures of the remote service are shown to the browser as domain failures: a failure
that already is one passes through; otherwise a missing sign-in asks to sign in again, a missing
thing stays missing, a refused state is a bad request, a timeout is a timeout, and anything else
is an unavailable service, each under the operation's own message.
-/

namespace Vestibule

open Vestibule.Auth Vestibule.Json

/-- What a browser session needs from the outside while serving one request. -/
structure Reach (m : Type → Type) where
  wire : Web.Wire m
  clock : m Int
  gaveUp : m (Option Fault)
  requestId : String
  note : Metrics.Event → m Unit

/-- The server side of one browser. -/
structure Session where
  id : String
  device : String
  lastSeen : Int
  auth : Auth.State
  cred : CredentialStore
  balance : Balance.Cache
  slot : Handoff.Slot
  client : Remote.Client
  routes : Completion.Routes
  chatRoute : String
  mount : Option Completion.Mount
  signupEmail : String

def Session.new (id device : String) (now : Int) (client : Remote.Client)
    (routes : Completion.Routes) (chatRoute : String) : Session :=
  ⟨id, device, now, Auth.State.initial, CredentialStore.empty, Balance.Cache.initial,
    Handoff.Slot.empty, client, routes, chatRoute, none, ""⟩

/-- A remote failure as the browser sees it, under the message `msg`. -/
def remoteError (e : Fault) (msg : String) : Fault :=
  if e.firstCoded.isSome then e
  else if e.isKind .unauthorized then .coded "unauthorized" "login required" (some e)
  else if e.isKind .notFound then .coded "not_found" msg (some e)
  else if e.isKind .invalidState then .coded "bad_request" msg (some e)
  else if e.isKind .deadlineExceeded then .coded "timeout" msg (some e)
  else .coded "unavailable" msg (some e)

def loginRequired : Fault := Fault.fresh "unauthorized" "login required"

namespace Session

variable {m : Type → Type} [Monad m]

/-- The environment of a remote call made for a session: its own credential, and `gaveUp`
for whether the caller gave up. -/
def remoteEnv (r : Reach m) (s : Session) (gaveUp : m (Option Fault)) : Remote.Env m :=
  ⟨r.wire, r.clock, gaveUp, some (pure (.ok s.cred.get)), r.requestId⟩

/-- Makes a remote call with the session's client and keeps the client's new state. -/
def remote {α : Type} (r : Reach m)
    (call : Remote.Client → Remote.Env m → m (Except Fault α × Remote.Client)) :
    StateT Session m (Except Fault α) := do
  let s ← get
  let (got, c) ← call s.client (remoteEnv r s r.gaveUp)
  modify fun s => { s with client := c }
  return got

/-- Stores a credential the service handed out. -/
def commitCredential (t : TokenResult) : StateT Session m (Except Fault Unit) := do
  if credentialIsZero t.accessToken then
    return .error (Fault.fresh "unavailable" "remote returned no credential")
  let s ← get
  match s.cred.set t.accessToken with
  | .ok c => do set { s with cred := c }; return .ok ()
  | .error e => return .error (.coded "unavailable" "failed to store credential" (some e))

/-- The effects the sign-in callback page runs with, inside a session. -/
def completionEnv (r : Reach m) : Completion.Env (ExceptT String (StateT Session m)) where
  live := do return (← liftM (m := StateT Session m) (StateT.lift r.gaveUp)).isNone
  refreshToken := liftM (m := StateT Session m) (remote r fun c env => c.refreshToken env)
  pendingEmail := liftM (m := StateT Session m) (remote r fun c env => c.pendingEmail env)
  storeCredential tok := liftM (m := StateT Session m) do
    let s ← get
    match s.cred.set tok with
    | .ok c => do set { s with cred := c }; return .ok ()
    | .error e => return .error e
  authenticate u := liftM (m := StateT Session m) (modify fun s => { s with auth := s.auth.authenticate u })
  awaitSignup p := liftM (m := StateT Session m) (modify fun s => { s with auth := s.auth.awaitSignup p })

/-- Finishes a sign-in from the callback page's signals. The page open for the same signals
keeps its result; other signals open a new page. A page whose first run was abandoned is closed;
a completed sign-in starts the balance afresh, and a registration keeps the suggested e-mail. -/
def completeOAuth (r : Reach m) (signals : Completion.Signals) :
    StateT Session m Completion.Result := do
  let s ← get
  let mt := match s.mount with
    | some mt => if mt.signals == signals then mt else Completion.Mount.fresh signals
    | none => Completion.Mount.fresh signals
  let ((result, ran), mt) ← mt.runOnce (completionEnv r) s.routes
  modify fun s => { s with mount := some mt }
  if !ran then return result
  StateT.lift (r.note (.completion result.outcome.name))
  match result.outcome with
  | .abandoned => modify fun s => { s with mount := none }
  | .success => modify fun s => { s with balance := s.balance.reset }
  | .signup => modify fun s => { s with signupEmail := result.email }
  | .failure => pure ()
  return result

/-- Signs in with an e-mail address and a password. -/
def login (r : Reach m) (email password : String) : StateT Session m (Except Fault User) := do
  let email := Text.trim email
  if email.isEmpty || password.isEmpty then
    return .error (Fault.fresh "invalid_input" "email and password are required")
  match ← remote r (fun c env => c.login env email password) with
  | .error e =>
    if e.isKind .unauthorized then
      return .error (.coded "unauthorized" "invalid email or password" (some e))
    return .error (remoteError e "login failed")
  | .ok t =>
    match ← commitCredential t with
    | .error e => return .error e
    | .ok () =>
      modify fun s => { s with auth := s.auth.authenticate t.user, balance := s.balance.reset }
      return .ok t.user

/-- The registration form. -/
structure Form where
  email : String
  displayName : String
  agreements : List String

/-- Registers the pending identity. The agreements are recorded as consent before anything
else can fail. -/
def signup (r : Reach m) (form : Form) : StateT Session m (Except Fault User) := do
  let s ← get
  match s.auth.pending? with
  | none => return .error (Fault.fresh "invalid_state" "no pending sign-up")
  | some identity =>
    let email := Text.trim form.email
    let name := Text.trim form.displayName
    if email.isEmpty || name.isEmpty then
      return .error (Fault.fresh "invalid_input" "email and display name are required")
    modify fun s => { s with auth := s.auth.recordConsent form.agreements }
    let consent := (← get).auth.consent
    if consent.isEmpty then
      return .error (Fault.fresh "missing_consent" "agreements are required")
    let request : Remote.SignupForm :=
      ⟨identity.provider, identity.providerId, email, name, some consent⟩
    match ← remote r (fun c env => c.signup env request) with
    | .error e => return .error (remoteError e "sign-up failed")
    | .ok t =>
      match ← commitCredential t with
      | .error e => return .error e
      | .ok () =>
        modify fun s => { s with auth := s.auth.authenticate t.user, balance := s.balance.reset }
        modify fun s => { s with signupEmail := "" }
        return .ok t.user

/-- Signs out: tells the service when signed in, whatever it answers, then forgets everything
but the client. -/
def logout (r : Reach m) : StateT Session m Unit := do
  if (← get).auth.isAuthenticated then
    let _ ← remote r fun c env => c.logout env
  modify fun s => { s with auth := s.auth.logout, cred := s.cred.clear }
  modify fun s => { s with balance := s.balance.reset, slot := s.slot.clear }
  modify fun s => { s with mount := none, signupEmail := "" }
  StateT.lift (r.note .logout)

/-- The balance, refreshed when stale. The fetch runs on even if the browser gives up. -/
def readBalance (r : Reach m) : StateT Session m (Except Fault Balance.Record × Balance.Record) := do
  let s ← get
  if !s.auth.isAuthenticated then return (.error loginRequired, ⟨0, false⟩)
  match s.balance.start with
  | none => return (.ok s.balance.snapshot, s.balance.snapshot)
  | some flight =>
    let (got, c) ← StateT.lift (s.client.balance (remoteEnv r s (pure none)))
    modify fun s => { s with client := c }
    let cache := (← get).balance
    let (reply, landing, cache) := cache.land flight got
    modify fun s => { s with balance := cache }
    StateT.lift (r.note (.balanceFetch landing.label))
    match reply.failure with
    | some e => return (.error (remoteError e "failed to load balance"), cache.snapshot)
    | none => return (.ok cache.snapshot, cache.snapshot)

def invalidate (s : Session) : Session := { s with balance := s.balance.markDirty }

def handoffApi (r : Reach m) : Handoff.Api (StateT Session m) where
  createSession id := remote r fun c env => c.createSession env id
  chatSession id := remote r fun c env => c.chatSession env id

/-- Opens a chat room with a counterpart; the answer is the room's page. -/
def select (r : Reach m) (id : Int) : StateT Session m (Except Fault String) := do
  if !(← get).auth.isAuthenticated then return .error loginRequired
  let (got, slot) ← Handoff.select (handoffApi r) (← get).chatRoute id (← get).slot
  modify fun s => { s with slot := slot }
  return got

/-- Finds the chat room a page asks for. -/
def resolve (r : Reach m) (sessionId : List UInt8) :
    StateT Session m (Except Fault (Handoff.Record × Handoff.Source)) := do
  if !(← get).auth.isAuthenticated then return .error loginRequired
  let (got, slot) ← Handoff.resolve (handoffApi r) sessionId (← get).slot
  modify fun s => { s with slot := slot }
  if let .ok (_, src) := got then StateT.lift (r.note (.resolution src.name))
  return got

def close (s : Session) : Session := { s with mount := none }

end Session

end Vestibule

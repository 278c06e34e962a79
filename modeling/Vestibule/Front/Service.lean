import Vestibule.Front.Exchange
import Vestibule.Front.Route
import Vestibule.Registry
import Vestibule.UserAgent

/-!
The web front of the service: every request through the same steps.

A request gets an id (the trimmed `X-Request-ID` it brought, unless that is empty or longer
than 128 octets, when a fresh one is drawn) and the id is echoed; then the clock is read once for
the request. The route is looked up; paths outside the session group are served at once. Inside
it, the browser session named by the `parlor_sid` cookie is used, or a new one is opened for the
device the `User-Agent` line describes; the session is last seen at the request's time and the
cookie is set again either way. Guarded paths answer signed-out browsers with
a fixed failure. Every served request is counted by route pattern (or `unmatched`), method and
status class.

One circuit breaker guards the remote service for all sessions; a session's client borrows it
for the length of a request. Between requests, a sweep drops the sessions idle too long and sets
the count of live sessions.
-/

namespace Vestibule.Front

open Vestibule.Json Vestibule.Web

/-- What the service is set up with. -/
structure Settings where
  base : String
  routes : Completion.Routes
  chatRoute : String
  sessionTtl : Int
  secureCookies : Bool
  healthFailure : Option String
  metricsServed : Bool

/-- The state of the service: its settings, sessions, counts and shared breaker. -/
structure Service where
  settings : Settings
  registry : Registry
  board : Metrics.Board
  breaker : Option Breaker

/-- What the service needs from the outside. -/
structure Outside (m : Type → Type) where
  wire : Wire m
  clock : m Int
  gaveUp : m (Option Fault)
  freshRequestId : m String
  freshSessionId : m String

def sessionCookie : String := "parlor_sid"

/-- The `Set-Cookie` line of a session id; its `Max-Age` is the session span in whole seconds,
left out when zero and written as zero when negative. -/
def Settings.cookieLine (s : Settings) (id : String) : String :=
  let secs := Clock.wholeSeconds s.sessionTtl
  let v := String.ofList (id.toList.filter isCookieValueChar)
  let v := if v.contains ' ' || v.contains ',' then "\"" ++ v ++ "\"" else v
  sessionCookie ++ "=" ++ v ++ "; Path=/" ++
    (if secs > 0 then "; Max-Age=" ++ toString secs
     else if secs < 0 then "; Max-Age=0" else "") ++
    "; HttpOnly" ++ (if s.secureCookies then "; Secure" else "") ++ "; SameSite=Lax"

def statusClass (status : Nat) : String := toString (if status == 0 then 2 else status / 100) ++ "xx"

def authView (a : Auth.State) : Value := .object ([("status", .string a.status)] ++ a.members)

/-- How a login body is read. -/
def loginLayout : Layout (String × String) where
  qualified := "httptransport.loginRequest"
  short := "loginRequest"
  fields := [
    .of "email" .text (·.1) (fun p x => (x, p.2)),
    .of "password" .text (·.2) (fun p x => (p.1, x))]

/-- How a registration body is read. -/
def formLayout : Layout Session.Form where
  qualified := "websession.SignupForm"
  short := "SignupForm"
  fields := [
    .of "email" .text (·.email) (fun f x => { f with email := x }),
    .of "displayName" .text (·.displayName) (fun f x => { f with displayName := x }),
    .of "agreements" .texts (fun f => some f.agreements) (fun f x => { f with agreements := x.getD [] })]

def badBody : Fault := Fault.fresh "bad_request" "invalid request body"

variable {m : Type → Type} [Monad m]

/-- The monad of request handling: the service's state over the outside monad. -/
abbrev Serving (m : Type → Type) := StateT Service m

def note (e : Metrics.Event) : Serving m Unit := modify fun s => { s with board := s.board.record e }

/-- What a session needs while serving a request. -/
def reachOf (o : Outside m) (requestId : String) : Reach (Serving m) where
  wire := ⟨fun r => StateT.lift (o.wire.send r), StateT.lift o.wire.now⟩
  clock := StateT.lift o.clock
  gaveUp := StateT.lift o.gaveUp
  requestId := requestId
  note := note

/-- Runs a session operation with the shared breaker lent to the session's client. -/
def withSession {α : Type} (s : Session) (act : StateT Session (Serving m) α) :
    Serving m (α × Session) := do
  let shared := (← get).breaker
  let s := { s with client := { s.client with breaker := shared } }
  let (a, s) ← act.run s
  modify fun svc => { svc with breaker := s.client.breaker }
  return (a, s)

/-- Answers a request inside the session group, for a session. -/
def answer (o : Outside m) (rid : String) (req : Request) (action : Action)
    (params : List (List UInt8)) : StateT Session (Serving m) Response := do
  let r := reachOf o rid
  match action with
  | .callback =>
    let signals : Completion.Signals :=
      ⟨(req.cookie? "oauth_status").getD "", (req.cookie? "oauth_provider_info").getD ""⟩
    let result ← Session.completeOAuth r signals
    if result.outcome == .abandoned then return .bare 204
    return .redirect req result.destination 302
  | .login =>
    match Remote.decodeInto loginLayout ("", "") (Text.Utf8.encode req.body) with
    | .error _ => return .failure badBody
    | .ok (email, password) =>
      match ← Session.login r email password with
      | .ok u => return .json 200 (.object [("user", u.toValue)])
      | .error e => return .failure e
  | .logout => do Session.logout r; return .bare 204
  | .sessionInfo => return .json 200 (authView (← get).auth)
  | .signupForm =>
    let s ← get
    match s.auth.pending? with
    | none => return .failure (Fault.fresh "invalid_state" "no pending sign-up")
    | some p => return .json 200 (.object [("email", .string s.signupEmail), ("provider", .string p.provider)])
  | .signupSubmit =>
    match Remote.decodeInto formLayout ⟨"", "", []⟩ (Text.Utf8.encode req.body) with
    | .error _ => return .failure badBody
    | .ok form =>
      match ← Session.signup r form with
      | .ok u => return .json 201 (.object [("user", u.toValue)])
      | .error e => return .failure e
  | .balance =>
    let (got, rec) ← Session.readBalance r
    match got with
    | .ok rec => return .json 200 rec.toValue
    | .error e =>
      if e.hasCode "unauthorized" then return .failure e
      return .json 200 (Balance.Record.toValue ⟨rec.value, true⟩)
  | .invalidate => do modify Session.invalidate; return .bare 204
  | .select =>
    match Json.parseInt64 (Text.Utf8.decode (params.headD [])) with
    | none => return .failure (Fault.fresh "invalid_input" "curator id must be numeric")
    | some id =>
      match ← Session.select r id with
      | .ok dest => return .redirect req dest 303
      | .error e => return .failure e
  | .chat =>
    match ← Session.resolve r (params.headD []) with
    | .ok (rec, src) => return .json 200 (.object [("session", rec.toValue), ("source", .string src.name)])
    | .error e => return .failure e
  | .health | .metrics => return .bare 500

/-- The session a request names by cookie, or a new one for its device. -/
def sessionFor (o : Outside m) (req : Request) : Serving m Session := do
  let svc ← get
  match (req.cookie? sessionCookie).bind svc.registry.find? with
  | some s => return s
  | none =>
    let id ← StateT.lift o.freshSessionId
    let now ← StateT.lift o.clock
    let st := svc.settings
    let s := Session.new id (UserAgent.device (req.headers.get "User-Agent")) now
      (Remote.Client.new st.base none) st.routes st.chatRoute
    modify fun svc => { svc with registry := svc.registry.insert s }
    note (.sessions (← get).registry.size)
    return s

/-- Serves a route for a request received at `now`. -/
def dispatch (o : Outside m) (rid : String) (now : Int) (req : Request) (r : Route)
    (params : List (List UInt8)) : Serving m Response := do
  match r.action with
  | .health =>
    match (← get).settings.healthFailure with
    | some _ => return .json 503 (.object [("status", .string "unavailable")])
    | none => return .json 200 (.object [("status", .string "ok")])
  | .metrics =>
    let coding := ContentCoding.negotiate (req.headers.values "Accept-Encoding")
    let h := Headers.empty.set "Content-Type" (Metrics.contentType (req.headers.get "Accept"))
    let h := if coding = .identity then h else h.set "Content-Encoding" coding.name
    return ⟨200, h, (← get).board.render, coding⟩
  | action =>
    let s ← sessionFor o req
    let s := { s with lastSeen := now }
    let cookie := (← get).settings.cookieLine s.id
    let (resp, s) ← if action.needsSignIn && !s.auth.isAuthenticated then pure (Response.signInFirst, s)
      else withSession s (answer o rid req action params)
    modify fun svc => { svc with registry := svc.registry.update s }
    return { resp with headers := resp.headers.add "Set-Cookie" cookie }

/-- Serves one request. -/
def serve (o : Outside m) (req : Request) : Serving m Response := do
  let supplied := Text.trim (req.headers.get "X-Request-ID")
  let rid ← if supplied.isEmpty || supplied.utf8ByteSize > 128 then StateT.lift o.freshRequestId
    else pure supplied
  -- one time for the whole request, read before it is routed
  let now ← StateT.lift o.clock
  let path := if !req.url.rawPath.isEmpty then req.url.rawPath else req.url.path
  let path := if path.isEmpty then [47] else path
  let (pattern, resp) ← match route (routes (← get).settings.metricsServed) req.method path with
    | .missing => pure ("unmatched", Response.notFound)
    | .wrongMethod allowed => pure ("unmatched", Response.notAllowed allowed)
    | .found r params => do
      let resp ← dispatch o rid now req r params
      pure (r.pattern, resp)
  note (.request pattern req.method (statusClass resp.status))
  return { resp with headers := resp.headers.set "X-Request-Id" rid }

/-- Sweeps the browser sessions at the time the clock reads: the idle ones go, their callback
pages closed, the count of live sessions is set to what is left, and the answer is how many
went. -/
def sweep (o : Outside m) : Serving m Nat := do
  let now ← StateT.lift o.clock
  let swept := (← get).registry.sweep now
  modify fun svc => { svc with registry := swept.2 }
  note (.sessions swept.2.size)
  return swept.1

end Vestibule.Front

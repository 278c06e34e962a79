import Vestibule.Breaker
import Vestibule.Json.Bind
import Vestibule.Json.Read
import Vestibule.Json.Write
import Vestibule.Web.Fetch

/-!
The client of the remote service: one JSON call at a time.

A call names a method, a path under the service's base URL, an optional JSON body and whether
the path is guarded by a credential. The request asks for JSON, says when it carries JSON, and
passes on the request id of the browser request it serves. A guarded call first reads the
credential; without a credential the call fails before anything is sent.

A successful status (200 to 299) has its body read as the first JSON value in it. Any other
status fails with the status and the message the service gave, taken from a `message` member,
else an `error` member, of a JSON object within the body's first 4096 octets. The status decides
the kind: 401 and 403 are a missing sign-in, 404 a missing thing, 429 and the 5xx statuses an
unavailable service, everything else a state the call cannot be made in. A failed send is an
unavailable service, unless the caller has given up, which is then the failure.

An optional breaker guards the service: an open breaker fails the call at once; an unavailable
service counts as a failure, and everything else as a success, unless the caller gave up on a
call that failed.
-/

namespace Vestibule.Remote

open Vestibule.Json Vestibule.Web

/-- What one call sends. -/
structure Endpoint where
  method : String
  path : String
  body : Option Value
  guarded : Bool

/-- The client: the service's base URL without final slashes, its breaker and its cookies. -/
structure Client where
  base : String
  breaker : Option Breaker
  jar : Jar

def Client.new (base : String) (breaker : Option Breaker) : Client :=
  ⟨String.ofList (base.toList.reverse.dropWhile (· == '/')).reverse, breaker, Jar.empty⟩

/-- What a call needs from the outside. -/
structure Env (m : Type → Type) where
  wire : Wire m
  clock : m Int
  gaveUp : m (Option Fault)
  credential : Option (m (Except Fault (Option String)))
  requestId : String

/-- The kind of failure a status stands for. -/
def statusKind (status : Nat) : Kind :=
  if status == 401 || status == 403 then .unauthorized
  else if status == 404 then .notFound
  else if status == 429 || status ≥ 500 then .unavailable
  else .invalidState

/-- The members of an error body. -/
structure ErrorBody where
  message : String
  error : String

/-- How an error body is read. -/
def ErrorBody.layout : Layout ErrorBody where
  qualified := "remote.errorBody"
  short := "errorBody"
  fields := [
    .of "message" .text (·.message) (fun b x => { b with message := x }),
    .of "error" .text (·.error) (fun b x => { b with error := x })]

/-- The message an error body gives: `message`, else `error`, when the body is a JSON object
read without fault. -/
def errorMessage (body : List UInt8) : String :=
  match readAll (body.take 4096) with
  | .error _ => ""
  | .ok v =>
    match ErrorBody.layout.bind ⟨"", ""⟩ v with
    | (b, none) => if b.message.isEmpty then b.error else b.message
    | (_, some _) => ""

/-- Reads the first JSON value of a body into a record. -/
def decodeInto {α : Type} (l : Layout α) (init : α) (body : List UInt8) : Except String α :=
  match readFirst body with
  | .error e => .error e.message
  | .ok v =>
    match l.bind init v with
    | (r, none) => .ok r
    | (_, some msg) => .error msg

def Endpoint.headers (ep : Endpoint) (requestId : String) : Headers :=
  let h := Headers.empty.set "Accept" "application/json"
  let h := if ep.body.isSome then h.set "Content-Type" "application/json" else h
  if requestId.isEmpty then h else h.set "X-Request-ID" requestId

/-- The host of a URL without an empty port. -/
def dropEmptyPort (u : Url) : Url :=
  match lastIndex? 58 u.host, lastIndex? 93 u.host with
  | some c, some b => if c > b && u.host.getLast? == some 58 then { u with host := u.host.dropLast } else u
  | some _, none => if u.host.getLast? == some 58 then { u with host := u.host.dropLast } else u
  | none, _ => u

variable {m : Type → Type} [Monad m]

/-- Sends one call without the breaker, reading a successful body with `read`. -/
def Client.send {α : Type} (c : Client) (env : Env m) (ep : Endpoint)
    (read : List UInt8 → Except String α) : m (Except Fault α × Client) := do
  let name := ep.method ++ " " ++ ep.path
  match Url.read (ascii (c.base ++ ep.path)) with
  | .error msg => return (.error (.wrap ("build " ++ name) (.text msg)), c)
  | .ok url =>
    let req : Request := ⟨ep.method, dropEmptyPort url, ep.headers env.requestId,
      ep.body.map Style.body.render⟩
    let authorized ← if !ep.guarded then pure (Except.ok req) else
      match env.credential with
      | none => pure (.error (.wrap "no credential source" (.kind .unauthorized)))
      | some readCredential => do
        match ← readCredential with
        | .error e => pure (.error (.wrap "read credential" e))
        | .ok none => pure (.error (.wrap "no credential" (.kind .unauthorized)))
        | .ok (some cred) =>
          pure (.ok { req with headers := req.headers.set "Authorization" ("Bearer " ++ cred) })
    match authorized with
    | .error e => return (.error e, c)
    | .ok req =>
      let (got, jar) ← fetch env.wire c.jar req
      let c := { c with jar := jar }
      match got with
      | .error e =>
        match ← env.gaveUp with
        | some why => return (.error (.wrap name why), c)
        | none => return (.error (.wrapBoth name (.kind .unavailable) e), c)
      | .ok resp =>
        let body := Text.Utf8.encode resp.body
        if resp.status < 200 || resp.status ≥ 300 then
          return (.error (.wrap name (.status resp.status (errorMessage body) (statusKind resp.status))), c)
        match read body with
        | .ok x => return (.ok x, c)
        | .error msg => return (.error (.wrapBoth ("decode " ++ name) (.kind .malformed) (.text msg)), c)

/-- Makes one call through the breaker, if there is one. -/
def Client.call {α : Type} (c : Client) (env : Env m) (ep : Endpoint)
    (read : List UInt8 → Except String α) : m (Except Fault α × Client) := do
  match c.breaker with
  | none => c.send env ep read
  | some b =>
    let now ← env.clock
    let (ok, b) := b.allow now
    let c := { c with breaker := some b }
    if !ok then
      return (.error (.wrap (ep.method ++ " " ++ ep.path ++ ": circuit " ++ b.config.name ++ " open")
        (.kind .unavailable)), c)
    let (got, c) ← c.send env ep read
    let b := c.breaker.getD b
    let now ← env.clock
    let b ← match got with
      | .ok _ => pure b.recordSuccess.2
      | .error e =>
        if e.isKind .unavailable then pure (b.recordFailure now).2
        else do
          match ← env.gaveUp with
          | none => pure b.recordSuccess.2
          | some _ => pure b
    return (got, { c with breaker := some b })

end Vestibule.Remote

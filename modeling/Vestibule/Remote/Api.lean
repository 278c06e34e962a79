import Vestibule.Auth.Model
import Vestibule.Handoff
import Vestibule.Remote.Client

/-!
The calls the remote service offers, with the records they send and read.

Signing in, registering and renewing a sign-in answer a credential with its account; the
e-mail lookup answers the address a provider gave; the balance answers a number that must be
present; opening and loading a chat room answer the room with its counterpart, whose persona
becomes the description shown. Bodies are JSON objects written with HTML-safe escapes.
-/

namespace Vestibule.Remote

open Vestibule.Json Vestibule.Auth

def emailLayout : Layout String where
  qualified := "remote.emailResponse"
  short := "emailResponse"
  fields := [.of "email" .text id (fun _ x => x)]

def balanceLayout : Layout (Option Int) where
  qualified := "remote.balanceResponse"
  short := "balanceResponse"
  fields := [.of "totalValue" .optionalInt64 id (fun _ x => x)]

/-- The counterpart of a chat room as the service describes it. -/
structure Counterpart where
  id : Int
  name : String
  imageUrl : String
  persona : String
  deriving Repr, DecidableEq, Inhabited

/-- A chat room as the service describes it. -/
structure Room where
  sessionId : String
  counterpart : Counterpart
  deriving Repr, DecidableEq, Inhabited

/-- How a counterpart is read. -/
def Counterpart.layout : Layout Counterpart where
  qualified := "remote.counterpartResponse"
  short := "counterpartResponse"
  fields := [
    .of "id" .int64 (·.id) (fun c x => { c with id := x }),
    .of "name" .text (·.name) (fun c x => { c with name := x }),
    .of "imageUrl" .text (·.imageUrl) (fun c x => { c with imageUrl := x }),
    .of "persona" .text (·.persona) (fun c x => { c with persona := x })]

/-- How a room is read. -/
def Room.layout : Layout Room where
  qualified := "remote.roomResponse"
  short := "roomResponse"
  fields := [
    .of "sessionId" .text (·.sessionId) (fun r x => { r with sessionId := x }),
    .of "counterpart" (.record Counterpart.layout) (·.counterpart) (fun r x => { r with counterpart := x })]

def Room.toRecord (r : Room) : Handoff.Record :=
  ⟨r.sessionId, r.counterpart.id, r.counterpart.name, r.counterpart.imageUrl, r.counterpart.persona⟩

/-- What registration sends: the pending identity, the form and the accepted agreements
(none is written as `null`). -/
structure SignupForm where
  provider : String
  providerId : String
  email : String
  displayName : String
  agreements : Option (List String)
  deriving Repr, DecidableEq, Inhabited

/-- The JSON body of a registration. -/
def SignupForm.toValue (f : SignupForm) : Value :=
  .object [("provider", .string f.provider), ("providerId", .string f.providerId),
    ("email", .string f.email), ("displayName", .string f.displayName),
    ("agreements", match f.agreements with
      | some xs => .array (xs.map .string)
      | none => .null)]

def missingBalance : Fault := .wrap "balance response without totalValue" (.kind .malformed)

variable {m : Type → Type} [Monad m]

namespace Client

def refreshToken (c : Client) (env : Env m) : m (Except Fault TokenResult × Client) :=
  c.call env ⟨"POST", "/auth/refresh", none, false⟩ (decodeInto TokenResult.layout default)

def pendingEmail (c : Client) (env : Env m) : m (Except Fault String × Client) :=
  c.call env ⟨"GET", "/auth/oauth/pending-email", none, false⟩ (decodeInto emailLayout "")

def login (c : Client) (env : Env m) (email password : String) :
    m (Except Fault TokenResult × Client) :=
  let body : Value := .object [("email", .string email), ("password", .string password)]
  c.call env ⟨"POST", "/auth/login", some body, false⟩ (decodeInto TokenResult.layout default)

def signup (c : Client) (env : Env m) (form : SignupForm) : m (Except Fault TokenResult × Client) :=
  c.call env ⟨"POST", "/auth/oauth/signup", some form.toValue, false⟩
    (decodeInto TokenResult.layout default)

def logout (c : Client) (env : Env m) : m (Except Fault Unit × Client) :=
  c.call env ⟨"POST", "/auth/logout", none, true⟩ (fun _ => .ok ())

/-- The point balance. -/
def balance (c : Client) (env : Env m) : m (Except Fault Int × Client) := do
  let (got, c) ← c.call env ⟨"GET", "/points/balance", none, true⟩ (decodeInto balanceLayout none)
  match got with
  | .error e => return (.error e, c)
  | .ok none => return (.error missingBalance, c)
  | .ok (some v) => return (.ok v, c)

/-- Opens a chat room with a counterpart. -/
def createSession (c : Client) (env : Env m) (counterpartId : Int) :
    m (Except Fault Handoff.Record × Client) := do
  let body : Value := .object [("curatorId", .ofInt counterpartId)]
  let (got, c) ← c.call env ⟨"POST", "/chat/rooms", some body, true⟩ (decodeInto Room.layout default)
  return (got.map Room.toRecord, c)

/-- Loads a chat room by its id, given as octets. -/
def chatSession (c : Client) (env : Env m) (sessionId : List UInt8) :
    m (Except Fault Handoff.Record × Client) := do
  let path := "/chat/rooms/" ++ Web.asciiText (Web.escapeBytes .segment sessionId)
  let (got, c) ← c.call env ⟨"GET", path, none, true⟩ (decodeInto Room.layout default)
  return (got.map Room.toRecord, c)

end Client

end Vestibule.Remote

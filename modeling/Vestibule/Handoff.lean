import Vestibule.Fault
import Vestibule.Json.Bind
import Vestibule.Text.Blank
import Vestibule.Web.Escape

/-!
Handing a chat room from the page that opened it to the page that shows it.

Selecting a counterpart opens a chat room through the remote service and leaves its record in a
one-place slot before the browser is sent to the room's page. That page takes the record out of
the slot when it is the room asked for, and otherwise fetches the room. The slot only saves a
round trip: a record is used at most once and never for another room.

The remote service is a parameter, so the flows run in any monad that can reach it.
-/

namespace Vestibule.Handoff

open Vestibule.Json

/-- A chat room as the browser sees it. -/
structure Record where
  sessionId : String
  counterpartId : Int
  name : String
  imageUrl : String
  description : String
  deriving Repr, DecidableEq, Inhabited

def Record.isZero (r : Record) : Bool := r.sessionId.isEmpty

def Record.toValue (r : Record) : Value :=
  .object [("sessionId", .string r.sessionId), ("counterpartId", .ofInt r.counterpartId),
    ("counterpartInfo", .object [("name", .string r.name), ("imageUrl", .string r.imageUrl),
      ("description", .string r.description)])]

/-- A slot holding at most one record. -/
structure Slot where
  held : Option Record
  deriving Repr, DecidableEq, Inhabited

namespace Slot

def empty : Slot := ⟨none⟩

def write (r : Record) (_ : Slot) : Slot := ⟨some r⟩

def take (s : Slot) : Option Record × Slot := (s.held, empty)

def clear (_ : Slot) : Slot := empty

end Slot

/-- The remote calls the flows need. -/
structure Api (m : Type → Type) where
  createSession : Int → m (Except Fault Record)
  chatSession : List UInt8 → m (Except Fault Record)

/-- Where a resolved record came from. -/
inductive Source where
  | handoff
  | remote
  deriving Repr, DecidableEq

def Source.name : Source → String
  | .handoff => "handoff"
  | .remote => "remote"

/-- A failed remote call as the browser sees it: a missing room, a missing sign-in, a timeout,
or else an unavailable service, each over the cause. -/
def translate (e : Fault) (msg : String) : Fault :=
  if e.isKind .notFound then .coded "not_found" "chat session not found" (some e)
  else if e.isKind .unauthorized then .coded "unauthorized" "login required" (some e)
  else if e.isKind .deadlineExceeded then .coded "timeout" msg (some e)
  else .coded "unavailable" msg (some e)

def destination (chatRoute : String) (sessionId : String) : String :=
  String.ofList ((chatRoute.toList.reverse.dropWhile (· == '/')).reverse) ++ "/" ++
    Web.escapeSegment sessionId

variable {m : Type → Type} [Monad m]

/-- Opens a room with counterpart `id` and fills the slot; the answer is the room's page. -/
def select (api : Api m) (chatRoute : String) (id : Int) (slot : Slot) :
    m (Except Fault String × Slot) := do
  if id ≤ 0 then return (.error (Fault.fresh "invalid_input" "counterpart id must be positive"), slot)
  match ← api.createSession id with
  | .error e => return (.error (translate e "failed to create chat session"), slot)
  | .ok r =>
    if r.isZero then return (.error (Fault.fresh "internal_error" "chat session created without id"), slot)
    let r := if r.counterpartId == 0 then { r with counterpartId := id } else r
    return (.ok (destination chatRoute r.sessionId), slot.write r)

/-- Finds the room a page asks for by its id, as the octets of the page's path: from the slot
when it holds that room, else remotely. The slot is emptied whenever the id is not blank. -/
def resolve (api : Api m) (sessionId : List UInt8) (slot : Slot) :
    m (Except Fault (Record × Source) × Slot) := do
  let id := Text.trimOctets sessionId
  if id.isEmpty then return (.error (Fault.fresh "invalid_input" "session id required"), slot)
  let (held, slot) := slot.take
  match held with
  | some r =>
    if Text.Utf8.encode r.sessionId == id then return (.ok (r, .handoff), slot)
    else fetch id slot
  | none => fetch id slot
where
  fetch (id : List UInt8) (slot : Slot) : m (Except Fault (Record × Source) × Slot) := do
    match ← api.chatSession id with
    | .error e => return (.error (translate e "failed to load chat session"), slot)
    | .ok r => return (.ok (r, .remote), slot)

end Vestibule.Handoff

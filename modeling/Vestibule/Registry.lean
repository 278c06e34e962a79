import Vestibule.Clock
import Vestibule.Session

/-!
The browser sessions the service holds, in the order they were created.

A session is found by its id; the empty id finds none. Sweeping at time `now` removes every
session last seen before `now` moved back by the ttl, strictly, and reports how many went (the
ttl is a 64-bit span, so the most negative one moves `now` back by itself); the callback pages of
the removed sessions are closed with them.
-/

namespace Vestibule

/-- The live browser sessions, oldest first, and how long an idle one is kept (nanoseconds). -/
structure Registry where
  sessions : List Session
  ttl : Int

namespace Registry

def empty (ttl : Int) : Registry := ⟨[], ttl⟩

def find? (r : Registry) (id : String) : Option Session :=
  if id.isEmpty then none else r.sessions.find? (·.id == id)

def insert (r : Registry) (s : Session) : Registry := { r with sessions := r.sessions ++ [s] }

def update (r : Registry) (s : Session) : Registry :=
  { r with sessions := r.sessions.map fun o => if o.id == s.id then s else o }

def size (r : Registry) : Nat := r.sessions.length

def isStale (r : Registry) (now : Int) (s : Session) : Bool :=
  decide (s.lastSeen < now + Clock.negate r.ttl)

/-- Removes the sessions idle too long at time `now`: the removed sessions as the sweep leaves
them, with their callback pages closed, and what is left. -/
def expire (r : Registry) (now : Int) : List Session × Registry :=
  ((r.sessions.filter (r.isStale now)).map Session.close,
    { r with sessions := r.sessions.filter fun s => !r.isStale now s })

def sweep (r : Registry) (now : Int) : Nat × Registry :=
  ((r.expire now).1.length, (r.expire now).2)

def touch (r : Registry) (id : String) (seenAt : Int) : Bool × Registry :=
  match r.find? id with
  | some s => (true, r.update { s with lastSeen := seenAt })
  | none => (false, r)

end Registry

end Vestibule

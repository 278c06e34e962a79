/-!
The paths the service serves.

A route is a pattern of `/`-separated segments, where a segment `{name}` takes any segment of the
path, and the methods it serves. A parameter may take an empty segment when more of the pattern
follows it, but the last segment of a path must not be empty. Paths are octets, as written in the
request, and match exactly and case-sensitively: no final slash or doubled slash is forgiven. A
method that is none of the standard ones is refused before any path is looked at. A path that
matches a route but not its method is answered with the methods the path does serve; the search
visits a route reached through an empty parameter twice, so such a route names its methods twice.
-/

namespace Vestibule.Front

/-- What a route does. -/
inductive Action where
  | health
  | metrics
  | callback
  | login
  | logout
  | sessionInfo
  | signupForm
  | signupSubmit
  | balance
  | invalidate
  | select
  | chat
  deriving Repr, DecidableEq

/-- A route: its pattern, its method (none for any), and what it does. -/
structure Route where
  pattern : String
  method : Option String
  action : Action
  deriving Repr, DecidableEq

def Action.usesSession : Action → Bool
  | .health | .metrics => false
  | _ => true

def Action.needsSignIn : Action → Bool
  | .balance | .invalidate | .select | .chat => true
  | _ => false

/-- The routes of the service; the metrics route only when metrics are served. -/
def routes (metricsServed : Bool) : List Route :=
  [⟨"/healthz", some "GET", .health⟩] ++
  (if metricsServed then [⟨"/metrics", none, .metrics⟩] else []) ++
  [⟨"/auth/callback", some "GET", .callback⟩,
   ⟨"/auth/login", some "POST", .login⟩,
   ⟨"/auth/logout", some "POST", .logout⟩,
   ⟨"/auth/session", some "GET", .sessionInfo⟩,
   ⟨"/signup", some "GET", .signupForm⟩,
   ⟨"/signup", some "POST", .signupSubmit⟩,
   ⟨"/me/balance", some "GET", .balance⟩,
   ⟨"/me/balance/invalidate", some "POST", .invalidate⟩,
   ⟨"/curators/{curatorID}/chat", some "POST", .select⟩,
   ⟨"/chat/{sessionID}", some "GET", .chat⟩]

def isParam (seg : String) : Bool := seg.startsWith "\x7b" && seg.endsWith "\x7d"

def segmentOctets (seg : String) : List UInt8 := seg.toList.map fun c => c.toNat.toUInt8

/-- The parameter values of path segments that match pattern segments one for one. -/
def matchSegments : List String → List (List UInt8) → Option (List (List UInt8))
  | [], [] => some []
  | [p], [x] =>
    if isParam p then (if x.isEmpty then none else some [x])
    else if segmentOctets p == x then some [] else none
  | p :: ps, x :: xs => do
    let rest ← matchSegments ps xs
    if isParam p then some (x :: rest) else if segmentOctets p == x then some rest else none
  | _, _ => none

def matchPattern (pattern : String) (path : List UInt8) : Option (List (List UInt8)) :=
  matchSegments (pattern.splitOn "/") (path.splitOn 47)

def standardMethods : List String :=
  ["CONNECT", "DELETE", "GET", "HEAD", "OPTIONS", "PATCH", "POST", "PUT", "TRACE"]

/-- How a path and method are served. -/
inductive Match where
  | found (r : Route) (params : List (List UInt8))
  | wrongMethod (allowed : List String)
  | missing
  deriving Repr

/-- Finds the route for a method and path. -/
def route (table : List Route) (method : String) (path : List UInt8) : Match :=
  if !standardMethods.contains method then .wrongMethod [] else
  let hits := table.filterMap fun r => (matchPattern r.pattern path).map (r, ·)
  match hits.find? (fun (r, _) => r.method.isNone || r.method == some method) with
  | some (r, ps) => .found r ps
  | none =>
    if hits.isEmpty then .missing
    else .wrongMethod (hits.flatMap fun (r, ps) =>
      if ps.any (·.isEmpty) then r.method.toList ++ r.method.toList else r.method.toList)

end Vestibule.Front

import Vestibule.Front.Service

/-!
Serving requests of the whole service against an outside world that is any state `σ`. The
lemmas below take a request through the router, the lookup of its browser session and the
dispatch to its handler, and give each stage in an explicit form that later proofs read off
without unfolding the service again.
-/

namespace Vestibule.Front

open Vestibule.Web

variable {σ : Type}

def exec {α : Type} (x : Serving (StateM σ) α) (svc : Service) (w : σ) : (α × Service) × σ :=
  (x.run svc).run w

@[simp] theorem exec_pure {α : Type} (a : α) (svc : Service) (w : σ) :
    exec (pure a : Serving (StateM σ) α) svc w = ((a, svc), w) := rfl

theorem exec_bind {α β : Type} (x : Serving (StateM σ) α) (f : α → Serving (StateM σ) β)
    (svc : Service) (w : σ) :
    exec (x >>= f) svc w = exec (f (exec x svc w).1.1) (exec x svc w).1.2 (exec x svc w).2 := rfl

theorem exec_get_bind {α : Type} (f : Service → Serving (StateM σ) α) (svc : Service) (w : σ) :
    exec (get >>= f) svc w = exec (f svc) svc w := rfl

@[simp] theorem exec_modify (f : Service → Service) (svc : Service) (w : σ) :
    exec (modify f : Serving (StateM σ) PUnit) svc w = ((⟨⟩, f svc), w) := rfl

@[simp] theorem exec_lift {α : Type} (y : StateM σ α) (svc : Service) (w : σ) :
    exec (StateT.lift y : Serving (StateM σ) α) svc w = (((y.run w).1, svc), (y.run w).2) := rfl

/-- The path a request is routed by: the path as written when it was kept, else the decoded
path, and `/` for an empty one. -/
def routedPath (req : Request) : List UInt8 :=
  let path := if !req.url.rawPath.isEmpty then req.url.rawPath else req.url.path
  if path.isEmpty then [47] else path

def requestIdOf (o : Outside (StateM σ)) (req : Request) (w : σ) : String × σ :=
  let supplied := Text.trim (req.headers.get "X-Request-ID")
  if supplied.isEmpty || supplied.utf8ByteSize > 128 then o.freshRequestId.run w else (supplied, w)

/-- The id a request is served under and the time it is received at, with the world after
reading them. -/
def requestStart (o : Outside (StateM σ)) (req : Request) (w : σ) : (String × Int) × σ :=
  let id := requestIdOf o req w
  let now := o.clock.run id.2
  ((id.1, now.1), now.2)

theorem exec_serve_found (o : Outside (StateM σ)) (req : Request) (svc : Service) (w : σ)
    {r : Route} {params : List (List UInt8)}
    (h : route (routes svc.settings.metricsServed) req.method (routedPath req) = .found r params) :
    exec (serve o req) svc w =
      let start := requestStart o req w
      let out := exec (dispatch o start.1.1 start.1.2 req r params) svc start.2
      let counted := Metrics.Event.request r.pattern req.method (statusClass out.1.1.status)
      (({ out.1.1 with headers := out.1.1.headers.set "X-Request-Id" start.1.1 },
        { out.1.2 with board := out.1.2.board.record counted }), out.2) := by
  unfold routedPath at h
  unfold serve requestStart requestIdOf
  dsimp only at h ⊢
  -- a request id drawn or taken from the header; the rest of the run is the same
  split
  all_goals
    rw [exec_bind]
    simp only [exec_lift, exec_pure]
    rw [exec_bind]
    simp only [exec_lift]
    rw [exec_get_bind, h]
    dsimp only
    rw [exec_bind]
    generalize exec (dispatch o _ _ req r params) svc _ = out
    rfl

def sessionOf (svc : Service) (req : Request) : Option Session :=
  (req.cookie? sessionCookie).bind svc.registry.find?

theorem exec_sessionFor_found (o : Outside (StateM σ)) {req : Request} {svc : Service} {s : Session}
    (h : sessionOf svc req = some s) (w : σ) : exec (sessionFor o req) svc w = ((s, svc), w) := by
  unfold sessionFor
  rw [exec_get_bind]
  unfold sessionOf at h
  rw [h]
  rfl

theorem exec_sessionFor_fresh (o : Outside (StateM σ)) {req : Request} {svc : Service}
    (h : sessionOf svc req = none) (w : σ) :
    exec (sessionFor o req) svc w =
      let id := o.freshSessionId.run w
      let now := o.clock.run id.2
      let s := Session.new id.1 (UserAgent.device (req.headers.get "User-Agent")) now.1
        (Remote.Client.new svc.settings.base none) svc.settings.routes svc.settings.chatRoute
      let grown := svc.registry.insert s
      ((s, { svc with registry := grown, board := svc.board.record (.sessions grown.size) }),
        now.2) := by
  unfold sessionFor
  rw [exec_get_bind]
  unfold sessionOf at h
  rw [h]
  rfl

theorem exec_dispatch_session (o : Outside (StateM σ)) (rid : String) (now : Int) (req : Request)
    (r : Route) (params : List (List UInt8)) (svc : Service) (w : σ)
    (h : r.action.usesSession = true) :
    exec (dispatch o rid now req r params) svc w =
      let found := exec (sessionFor o req) svc w
      let s := { found.1.1 with lastSeen := now }
      let cookie := found.1.2.settings.cookieLine s.id
      let out := exec (if r.action.needsSignIn && !s.auth.isAuthenticated then
          pure (Response.signInFirst, s) else withSession s (answer o rid req r.action params))
        found.1.2 found.2
      (({ out.1.1.1 with headers := out.1.1.1.headers.add "Set-Cookie" cookie },
        { out.1.2 with registry := out.1.2.registry.update out.1.1.2 }), out.2) := by
  unfold dispatch
  -- the handlers that use a session share one branch of the match, taken for any such action
  generalize r.action = action at h ⊢
  split
  case h_1 | h_2 => simp [Action.usesSession] at h
  case h_3 =>
    rw [exec_bind, exec_get_bind]
    dsimp only
    split <;> rfl

theorem sessionFor_cases (o : Outside (StateM σ)) (req : Request) (svc : Service) (w : σ) :
    let found := exec (sessionFor o req) svc w
    (sessionOf svc req = some found.1.1 ∧ found.1.2 = svc) ∨
      (sessionOf svc req = none ∧ found.1.1.auth = Auth.State.initial ∧
        found.1.1.cred = CredentialStore.empty ∧ found.1.1.balance = Balance.Cache.initial ∧
        found.1.1.slot = Handoff.Slot.empty ∧
        found.1.2.registry = svc.registry.insert found.1.1) := by
  rcases h : sessionOf svc req with _ | s
  · rw [exec_sessionFor_fresh o h]
    exact .inr ⟨rfl, rfl, rfl, rfl, rfl, rfl⟩
  · rw [exec_sessionFor_found o h]
    exact .inl ⟨rfl, rfl⟩

theorem route_found_mem {table : List Route} {method : String} {path : List UInt8} {r : Route}
    {params : List (List UInt8)} (h : route table method path = .found r params) : r ∈ table := by
  unfold route at h
  split at h
  · cases h
  · dsimp only at h
    split at h
    · rename_i r' ps hfind
      cases h
      obtain ⟨r'', hmem, hmatch⟩ := List.mem_filterMap.mp (List.mem_of_find?_eq_some hfind)
      obtain ⟨_, -, hpair⟩ := Option.map_eq_some_iff.mp hmatch
      cases hpair
      exact hmem
    · split at h <;> cases h

end Vestibule.Front

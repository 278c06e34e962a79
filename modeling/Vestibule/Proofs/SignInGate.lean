import Vestibule.Proofs.ServiceSteps

/-!
The sign-in gate. The balance, the balance reset, the choice of a curator and the chat room are
served only to a signed-in browser: every other browser is answered `401` with the fixed
envelope, before any handler runs and so without a single call over the wire, and its session
is only stamped with the time it was seen.
-/

namespace Vestibule.Front

open Vestibule.Web

variable {σ : Type}

def guardedPatterns : List String :=
  ["/me/balance", "/me/balance/invalidate", "/curators/{curatorID}/chat", "/chat/{sessionID}"]

theorem needsSignIn_of_guarded {b : Bool} {r : Route} (hmem : r ∈ routes b)
    (hguard : r.pattern ∈ guardedPatterns) : r.action.needsSignIn = true := by
  have hall : ∀ r ∈ routes b, r.pattern ∈ guardedPatterns → r.action.needsSignIn = true := by
    cases b <;> decide
  exact hall r hmem hguard

theorem exec_dispatch_signedOut (o : Outside (StateM σ)) (rid : String) (now : Int) (req : Request)
    {r : Route} (params : List (List UInt8)) {svc : Service} (w : σ)
    (hneed : r.action.needsSignIn = true)
    (hout : ∀ s, sessionOf svc req = some s → s.auth.isAuthenticated = false) :
    let found := exec (sessionFor o req) svc w
    let s := { found.1.1 with lastSeen := now }
    exec (dispatch o rid now req r params) svc w =
      (({ Response.signInFirst with
          headers :=
            Response.signInFirst.headers.add "Set-Cookie" (found.1.2.settings.cookieLine s.id) },
        { found.1.2 with registry := found.1.2.registry.update s }), found.2) := by
  have huses : r.action.usesSession = true := by
    revert hneed
    cases r.action <;> decide
  -- a session the cookie names is signed out by assumption, and a new one is anonymous
  have hsigned : (exec (sessionFor o req) svc w).1.1.auth.isAuthenticated = false := by
    rcases sessionFor_cases o req svc w with ⟨hfound, -⟩ | ⟨-, hauth, -⟩
    · exact hout _ hfound
    · rw [hauth]
      rfl
  rw [exec_dispatch_session o rid now req r params svc w huses]
  simp only [hneed, hsigned, Bool.not_false, Bool.and_self, if_true]
  rfl

theorem exec_serve_signedOut (o : Outside (StateM σ)) (req : Request) (svc : Service) (w : σ)
    {r : Route} {params : List (List UInt8)}
    (hroute : route (routes svc.settings.metricsServed) req.method (routedPath req) = .found r params)
    (hneed : r.action.needsSignIn = true)
    (hout : ∀ s, sessionOf svc req = some s → s.auth.isAuthenticated = false) :
    let start := requestStart o req w
    let found := exec (sessionFor o req) svc start.2
    let s := { found.1.1 with lastSeen := start.1.2 }
    let cookie := found.1.2.settings.cookieLine s.id
    exec (serve o req) svc w =
      (({ Response.signInFirst with
          headers :=
            (Response.signInFirst.headers.add "Set-Cookie" cookie).set "X-Request-Id" start.1.1 },
        { found.1.2 with
          registry := found.1.2.registry.update s
          board := found.1.2.board.record (.request r.pattern req.method (statusClass 401)) }),
        found.2) := by
  rw [exec_serve_found o req svc w hroute]
  dsimp only
  rw [exec_dispatch_signedOut o _ _ req params _ hneed hout]
  rfl

theorem guarded_route_refuses_signed_out (o : Outside (StateM σ)) (req : Request) (svc : Service)
    (w : σ) {r : Route} {params : List (List UInt8)}
    (hroute : route (routes svc.settings.metricsServed) req.method (routedPath req) = .found r params)
    (hguard : r.pattern ∈ guardedPatterns)
    (hout : ∀ s, sessionOf svc req = some s → s.auth.isAuthenticated = false) :
    let out := exec (serve o req) svc w
    out.1.1.status = 401 ∧
      out.1.1.body = "\x7b\"error\":\"unauthorized\",\"error_description\":\"login required\"\x7d" ∧
      (∀ wire, exec (serve { o with wire := wire } req) svc w = out) ∧
      ∃ s t,
        (sessionOf svc req = some s ∧
          out.1.2.registry = svc.registry.update { s with lastSeen := t }) ∨
        (sessionOf svc req = none ∧ s.auth = Auth.State.initial ∧ s.cred = CredentialStore.empty ∧
          s.balance = Balance.Cache.initial ∧ s.slot = Handoff.Slot.empty ∧
          out.1.2.registry = (svc.registry.insert s).update { s with lastSeen := t }) := by
  have hneed := needsSignIn_of_guarded (route_found_mem hroute) hguard
  have hserve := exec_serve_signedOut o req svc w hroute hneed hout
  -- the answer does not read the wire: the other outside gives the same explicit run
  have hwire (wire : Wire (StateM σ)) :
      exec (serve { o with wire := wire } req) svc w = exec (serve o req) svc w := by
    rw [hserve, exec_serve_signedOut { o with wire := wire } req svc w hroute hneed hout]
    rfl
  dsimp only
  refine ⟨by rw [hserve]; rfl, by rw [hserve]; rfl, hwire, ?_⟩
  -- the session served is the one the cookie names, or a new one; either way only its
  -- last-seen time is written back
  let found := exec (sessionFor o req) svc (requestStart o req w).2
  refine ⟨found.1.1, (requestStart o req w).1.2, ?_⟩
  rcases sessionFor_cases o req svc (requestStart o req w).2 with
    ⟨hfound, hsvc⟩ | ⟨hnone, hauth, hcred, hbal, hslot, hreg⟩
  · refine .inl ⟨hfound, ?_⟩
    rw [hserve]
    dsimp only
    rw [hsvc]
  · refine .inr ⟨hnone, hauth, hcred, hbal, hslot, ?_⟩
    rw [hserve]
    dsimp only
    rw [hreg]

def openingService : Service :=
  ⟨⟨"http://api.test", Completion.Routes.standard, "/chat", 0, false, none, false⟩,
    Registry.empty 0, Metrics.Board.empty, none⟩

def fixedOutside : Outside (StateM Nat) :=
  ⟨⟨fun _ => pure (.error (.kind .unavailable)), pure 0⟩, pure 0, pure none, pure "req-1",
    pure "sid-1"⟩

def balanceRequest : Request :=
  ⟨"GET", { Url.empty with path := "/me/balance".toUTF8.toList }, Headers.empty, ""⟩

theorem balanceRequest_routed :
    route (routes false) "GET" (routedPath balanceRequest) =
      .found ⟨"/me/balance", some "GET", .balance⟩ [] := by
  have hpath : routedPath balanceRequest = [47, 109, 101, 47, 98, 97, 108, 97, 110, 99, 101] := by
    decide +kernel
  -- the router splits every pattern of its table at the slashes before it matches the path
  have h₁ : "/healthz".splitOn "/" = ["", "healthz"] := by
    simp +decide [String.splitOn, String.splitOnAux]
  have h₂ : "/auth/callback".splitOn "/" = ["", "auth", "callback"] := by
    simp +decide [String.splitOn, String.splitOnAux]
  have h₃ : "/auth/login".splitOn "/" = ["", "auth", "login"] := by
    simp +decide [String.splitOn, String.splitOnAux]
  have h₄ : "/auth/logout".splitOn "/" = ["", "auth", "logout"] := by
    simp +decide [String.splitOn, String.splitOnAux]
  have h₅ : "/auth/session".splitOn "/" = ["", "auth", "session"] := by
    simp +decide [String.splitOn, String.splitOnAux]
  have h₆ : "/signup".splitOn "/" = ["", "signup"] := by
    simp +decide [String.splitOn, String.splitOnAux]
  have h₇ : "/me/balance".splitOn "/" = ["", "me", "balance"] := by
    simp +decide [String.splitOn, String.splitOnAux]
  have h₈ : "/me/balance/invalidate".splitOn "/" = ["", "me", "balance", "invalidate"] := by
    simp +decide [String.splitOn, String.splitOnAux]
  have h₉ :
      "/curators/{curatorID}/chat".splitOn "/" = ["", "curators", "{curatorID}", "chat"] := by
    simp +decide [String.splitOn, String.splitOnAux]
  have h₁₀ : "/chat/{sessionID}".splitOn "/" = ["", "chat", "{sessionID}"] := by
    simp +decide [String.splitOn, String.splitOnAux]
  have hsegs : List.splitOn (47 : UInt8) [47, 109, 101, 47, 98, 97, 108, 97, 110, 99, 101] =
      [[], [109, 101], [98, 97, 108, 97, 110, 99, 101]] := by
    decide
  rw [hpath]
  simp only [route, routes, matchPattern, h₁, h₂, h₃, h₄, h₅, h₆, h₇, h₈, h₉, h₁₀, hsegs,
    List.filterMap_cons, List.filterMap_nil, List.cons_append, List.nil_append,
    Bool.false_eq_true, if_false]
  simp +decide [matchSegments, isParam]

theorem balance_refused_without_cookie :
    route (routes false) "GET" (routedPath balanceRequest) =
        .found ⟨"/me/balance", some "GET", .balance⟩ [] ∧
      sessionOf openingService balanceRequest = none ∧
      (exec (serve fixedOutside balanceRequest) openingService 0).1.1.status = 401 := by
  have hroute := balanceRequest_routed
  have hnone : sessionOf openingService balanceRequest = none := by rfl
  refine ⟨hroute, hnone, ?_⟩
  exact (guarded_route_refuses_signed_out fixedOutside balanceRequest openingService 0 hroute
    (by decide) (fun s h => by rw [hnone] at h; cases h)).1

end Vestibule.Front

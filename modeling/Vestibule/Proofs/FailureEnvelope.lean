import Vestibule.Proofs.DescribedFaults
import Vestibule.Proofs.SignInGate

/-!
What a browser is told when a request of its session fails. Every answer of the session's routes
at a status of `400` or above is the service's envelope: one of its own codes at the status of
that code, and at most one of its own descriptions, never beside `internal_error`. No text of the
remote service, of the transport or of a credential reaches the body, whatever the remote service
answers and however the transport fails.
-/

namespace Vestibule.Front

open Vestibule.Json Vestibule.Web

/-- A failure answer as the service writes it: the envelope of one of its own codes at the
status of that code, with a description only beside a code other than `internal_error`, and
then one of the service's own descriptions. -/
def Response.Enveloped (resp : Response) : Prop :=
  ∃ code desc,
    (resp.body = Style.body.line (Web.envelope code desc) ∨
      resp.body = Style.body.render (Web.envelope code desc)) ∧
    resp.status = statusFor code ∧ code ∈ shownCodes ∧
    (desc = "" ∨ code ≠ "internal_error" ∧ desc ∈ shownMessages)

theorem failure_enveloped {e : Fault} (he : e.Described) : (Response.failure e).Enveloped := by
  unfold Response.failure Fault.response Fault.envelope Fault.outerCode
  dsimp only
  rcases hfirst : e.firstCoded with _ | ⟨c, msg, cause⟩
  · -- nothing describes the failure: a bare internal error
    refine ⟨"internal_error", "", .inl rfl, rfl, by simp [shownCodes], .inl rfl⟩
  · obtain ⟨hc, hmsg⟩ := he c msg cause hfirst
    refine ⟨c, if c == "internal_error" then "" else msg, .inl rfl, rfl, hc, ?_⟩
    by_cases hint : c = "internal_error"
    · simp [hint]
    · simp [hint, hmsg]

theorem signInFirst_enveloped : Response.signInFirst.Enveloped :=
  ⟨"unauthorized", "login required", .inr rfl, rfl, by simp [shownCodes],
    .inr ⟨by decide, by simp [shownMessages]⟩⟩

variable {m : Type → Type} [Monad m] [LawfulMonad m]

/-- An outside whose failures are all undescribed: the wire's and the reason for giving up. -/
structure Outside.Quiet (o : Outside m) : Prop where
  wire : o.wire.Quiet
  gaveUp : SatisfiesM UncodedReason o.gaveUp

theorem reachOf_quiet {o : Outside m} (ho : o.Quiet) (rid : String) : (reachOf o rid).Quiet :=
  ⟨fun req => satisfiesM_stateT_lift (ho.wire req), satisfiesM_stateT_lift ho.gaveUp⟩

@[simp] theorem status_bare (status : Nat) : (Response.bare status).status = status := rfl

@[simp] theorem status_json (status : Nat) (v : Value) : (Response.json status v).status = status :=
  rfl

@[simp] theorem status_redirect (req : Request) (dest : String) (status : Nat) :
    (Response.redirect req dest status).status = status := rfl

def FailsEnveloped (resp : Response) : Prop := 400 ≤ resp.status → resp.Enveloped

theorem failsEnveloped_of_lt {resp : Response} (h : resp.status < 400) : FailsEnveloped resp :=
  fun hle => absurd hle (Nat.not_le.mpr h)

theorem failsEnveloped_failure {e : Fault} (he : e.Described) :
    FailsEnveloped (Response.failure e) :=
  fun _ => failure_enveloped he

theorem answer_failsEnveloped {o : Outside m} (ho : o.Quiet) (rid : String) (req : Request)
    {action : Action} (h : action.usesSession = true) (params : List (List UInt8)) :
    SatisfiesM FailsEnveloped (answer o rid req action params) := by
  have hr := reachOf_quiet ho rid
  unfold answer
  cases action
  case health | metrics => simp [Action.usesSession] at h
  case callback =>
    apply SatisfiesM.bind SatisfiesM.trivial
    intro result _
    split
    · exact SatisfiesM.pure (failsEnveloped_of_lt (by simp))
    · exact SatisfiesM.pure (failsEnveloped_of_lt (by simp))
  case login =>
    dsimp only
    split
    · exact SatisfiesM.pure (failsEnveloped_failure (by simp [badBody, shownCodes, shownMessages]))
    · apply SatisfiesM.bind (Session.login_described hr _ _)
      intro got hgot
      split
      · exact SatisfiesM.pure (failsEnveloped_of_lt (by simp))
      · exact SatisfiesM.pure (failsEnveloped_failure (hgot _ rfl))
  case logout =>
    apply SatisfiesM.bind SatisfiesM.trivial
    intro _ _
    exact SatisfiesM.pure (failsEnveloped_of_lt (by simp))
  case sessionInfo =>
    apply SatisfiesM.bind SatisfiesM.trivial
    intro _ _
    exact SatisfiesM.pure (failsEnveloped_of_lt (by simp))
  case signupForm =>
    apply SatisfiesM.bind SatisfiesM.trivial
    intro s _
    split
    · exact SatisfiesM.pure (failsEnveloped_failure (by simp [shownCodes, shownMessages]))
    · exact SatisfiesM.pure (failsEnveloped_of_lt (by simp))
  case signupSubmit =>
    dsimp only
    split
    · exact SatisfiesM.pure (failsEnveloped_failure (by simp [badBody, shownCodes, shownMessages]))
    · apply SatisfiesM.bind (Session.signup_described hr _)
      intro got hgot
      split
      · exact SatisfiesM.pure (failsEnveloped_of_lt (by simp))
      · exact SatisfiesM.pure (failsEnveloped_failure (hgot _ rfl))
  case balance =>
    apply SatisfiesM.bind (Session.readBalance_described hr)
    rintro ⟨got, rec⟩ hgot
    dsimp only
    split
    · exact SatisfiesM.pure (failsEnveloped_of_lt (by simp))
    · split
      · exact SatisfiesM.pure (failsEnveloped_failure (hgot _ rfl))
      · exact SatisfiesM.pure (failsEnveloped_of_lt (by simp))
  case invalidate =>
    apply SatisfiesM.bind SatisfiesM.trivial
    intro _ _
    exact SatisfiesM.pure (failsEnveloped_of_lt (by simp))
  case select =>
    dsimp only
    split
    · exact SatisfiesM.pure (failsEnveloped_failure (by simp [shownCodes, shownMessages]))
    · apply SatisfiesM.bind (Session.select_described hr _)
      intro got hgot
      split
      · exact SatisfiesM.pure (failsEnveloped_of_lt (by simp))
      · exact SatisfiesM.pure (failsEnveloped_failure (hgot _ rfl))
  case chat =>
    apply SatisfiesM.bind (Session.resolve_described hr _)
    intro got hgot
    split
    · exact SatisfiesM.pure (failsEnveloped_of_lt (by simp))
    · exact SatisfiesM.pure (failsEnveloped_failure (hgot _ rfl))

theorem failsEnveloped_headers (resp : Response) (h : Headers) :
    FailsEnveloped { resp with headers := h } ↔ FailsEnveloped resp := Iff.rfl

theorem withSession_satisfiesM {α : Type} {p : α → Prop} (s : Session)
    {act : StateT Session (Serving m) α} (h : SatisfiesM p act) :
    SatisfiesM (fun x => p x.1) (withSession s act) := by
  unfold withSession
  apply SatisfiesM.bind SatisfiesM.trivial
  intro svc _
  apply SatisfiesM.bind (SatisfiesM_StateT_eq.mp h _)
  rintro ⟨a, s'⟩ ha
  apply SatisfiesM.bind SatisfiesM.trivial
  intro _ _
  exact SatisfiesM.pure ha

theorem dispatch_failsEnveloped {o : Outside m} (ho : o.Quiet) (rid : String) (now : Int)
    (req : Request) {r : Route} (params : List (List UInt8)) (h : r.action.usesSession = true) :
    SatisfiesM FailsEnveloped (dispatch o rid now req r params) := by
  unfold dispatch
  generalize r.action = action at h ⊢
  split
  case h_1 | h_2 => simp [Action.usesSession] at h
  case h_3 =>
    apply SatisfiesM.bind SatisfiesM.trivial
    intro s _
    apply SatisfiesM.bind SatisfiesM.trivial
    intro svc _
    dsimp only
    -- a browser that may not pass is refused by the gate, any other is answered by its handler
    split
    · rw [pure_bind]
      apply SatisfiesM.bind SatisfiesM.trivial
      intro _ _
      exact SatisfiesM.pure ((failsEnveloped_headers _ _).mpr fun _ => signInFirst_enveloped)
    · apply SatisfiesM.bind (withSession_satisfiesM _ (answer_failsEnveloped ho rid req h params))
      rintro ⟨resp, s'⟩ hresp
      apply SatisfiesM.bind SatisfiesM.trivial
      intro _ _
      exact SatisfiesM.pure hresp

end Vestibule.Front

namespace Vestibule.Front

variable {σ : Type}

theorem satisfiesM_exec {α : Type} {p : α → Prop} {x : Serving (StateM σ) α}
    (h : SatisfiesM p x) (svc : Service) (w : σ) : p (exec x svc w).1.1 := by
  -- the service's state, then the world's, then the identity monad underneath
  have hrun := SatisfiesM_StateT_eq.mp (SatisfiesM_StateT_eq.mp h svc) w
  exact (SatisfiesM_Id_eq (p := fun x : (α × Service) × σ => p x.1.1)).mp hrun

theorem satisfiesM_of_run {α : Type} {p : α → Prop} {x : StateM σ α}
    (h : ∀ w, p (x.run w).1) : SatisfiesM p x :=
  SatisfiesM_StateT_eq.mpr fun w => SatisfiesM_Id_eq.mpr (h w)

theorem session_failures_enveloped (o : Outside (StateM σ))
    (hwire : ∀ req w e, ((o.wire.send req).run w).1 = .error e → e.firstCoded = none)
    (hgave : ∀ w e, (o.gaveUp.run w).1 = some e → e.firstCoded = none)
    (req : Request) (svc : Service) (w : σ) {r : Route} {params : List (List UInt8)}
    (hroute :
      route (routes svc.settings.metricsServed) req.method (routedPath req) = .found r params)
    (hsession : r.action.usesSession = true) :
    let resp := (exec (serve o req) svc w).1.1
    400 ≤ resp.status → resp.Enveloped := by
  have ho : o.Quiet :=
    ⟨fun req => satisfiesM_of_run fun w e he => hwire req w e he,
      satisfiesM_of_run fun w e he => hgave w e he⟩
  let start := requestStart o req w
  have hanswer :=
    satisfiesM_exec (dispatch_failsEnveloped ho start.1.1 start.1.2 req params hsession) svc start.2
  rw [exec_serve_found o req svc w hroute]
  dsimp only
  -- the service only stamps the request id on what the handler answered
  generalize exec (dispatch o _ _ req r params) svc _ = out at hanswer ⊢
  exact hanswer

theorem balance_refusal_enveloped :
    let resp := (exec (serve fixedOutside balanceRequest) openingService 0).1.1
    (∀ req w e, ((fixedOutside.wire.send req).run w).1 = .error e → e.firstCoded = none) ∧
      route (routes false) "GET" (routedPath balanceRequest) =
        .found ⟨"/me/balance", some "GET", .balance⟩ [] ∧
      (400 ≤ resp.status → resp.Enveloped) := by
  have hwire : ∀ req w e,
      ((fixedOutside.wire.send req).run w).1 = .error e → e.firstCoded = none := by
    intro req w e he
    cases he
    rfl
  refine ⟨hwire, balanceRequest_routed, ?_⟩
  exact session_failures_enveloped fixedOutside hwire (fun _ e he => by cases he) balanceRequest
    openingService 0 balanceRequest_routed rfl

end Vestibule.Front

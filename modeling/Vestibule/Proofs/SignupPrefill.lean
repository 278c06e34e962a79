import Mathlib.Data.List.Induction
import Vestibule.Proofs.CallbackPage
import Vestibule.Proofs.CallbackRun

/-!
The address the registration form is filled in with, over runs of calls of one browser session.

A sign-in callback that takes the registration path records the provider's identity as waiting to
register before it looks up the address the provider knows, and the session keeps the address
only once the callback ends as a registration. So the identity waiting to register is always one
a callback of the run recorded, and the suggested address is what that callback's lookup found,
unless the callback was given up during the lookup: the identity then waits next to the address
suggested for the identity before it.
-/

namespace Vestibule.Session

open Vestibule.Auth

variable {σ : Type}

/-- The e-mail address a registration suggests from the answer of the lookup: the address
trimmed, or nothing when the lookup failed. -/
def suggestion (email : Except Fault String) : String :=
  match email with
  | .ok e => Text.trim e
  | .error _ => ""

section Callback

variable (r : Reach (StateM σ))

/-- The e-mail lookup a callback makes from `s` at `w` once it recorded `i`: its answer and the
world it leaves. -/
def emailLookup (i : PendingIdentity) (s : Session) (w : σ) : Except Fault String × σ :=
  let out := exec (remote r fun c env => c.pendingEmail env) { s with auth := s.auth.awaitSignup i } w
  (out.1.1, out.2)

/-- The result of the registration path once it recorded `i`: a registration suggesting the
looked-up address, or abandoned when the mount was given up during the lookup. -/
def signupResult (routes : Completion.Routes) (i : PendingIdentity) (s : Session) (w : σ) :
    Completion.Result :=
  if (r.gaveUp.run (emailLookup r i s w).2).1.isNone then
    ⟨.signup, routes.signup, suggestion (emailLookup r i s w).1, ""⟩
  else Completion.abandon "mount closed during email lookup"

theorem completeSignup_records (routes : Completion.Routes) {info : String} {i : PendingIdentity}
    (hi : ProviderToken.decode info = .ok i) (s : Session) (w : σ) :
    let out := exec (Completion.completeSignup (completionEnv r) routes info).run s w
    out.1.1 = .ok (signupResult r routes i s w) ∧ out.1.2.auth = s.auth.awaitSignup i ∧
      out.1.2.signupEmail = s.signupEmail := by
  unfold Completion.completeSignup signupResult
  rw [hi]
  dsimp only
  rw [exec_run_bind, exec_awaitSignup]
  dsimp only
  rw [exec_run_bind, exec_pendingEmail]
  have hl : emailLookup r i s w = ((exec (remote r fun c env => c.pendingEmail env)
      { s with auth := s.auth.awaitSignup i } w).1.1,
      (exec (remote r fun c env => c.pendingEmail env) { s with auth := s.auth.awaitSignup i } w).2) :=
    rfl
  obtain ⟨c, hc⟩ : ∃ c, (exec (remote r fun c env => c.pendingEmail env)
      { s with auth := s.auth.awaitSignup i } w).1.2 =
      { s with auth := s.auth.awaitSignup i, client := c } := ⟨_, rfl⟩
  generalize exec (remote r fun c env => c.pendingEmail env)
    { s with auth := s.auth.awaitSignup i } w = call at hl hc
  obtain ⟨⟨got, s₁⟩, w₁⟩ := call
  dsimp only at hl hc ⊢
  subst hc
  rw [hl, exec_run_bind, exec_live]
  dsimp only
  cases (r.gaveUp.run w₁).1.isNone
  · simp
  · rcases got with e | e <;> simp [suggestion]


theorem exec_completionRun (routes : Completion.Routes) (signals : Completion.Signals)
    (s : Session) (w : σ) :
    exec (Completion.run (completionEnv r) routes signals) s w =
      let out := exec (Completion.flow (completionEnv r) routes signals).run s w
      ((match out.1.1 with
        | .ok res => res
        | .error why => Completion.failed routes ("panic: " ++ why), out.1.2), out.2) := by
  simp only [Completion.run, exec, StateT.run_bind]
  rcases ((Completion.flow (completionEnv r) routes signals).run.run s).run w with
    ⟨⟨_ | a, s'⟩, w'⟩ <;> rfl

theorem completeSuccess_standing (routes : Completion.Routes) (s : Session) (w : σ) :
    let out := exec (Completion.completeSuccess (completionEnv r) routes).run s w
    (∃ u, out.1.2.auth = s.auth.authenticate u) ∨
      out.1.2.auth = s.auth ∧ ∀ res, out.1.1 = .ok res → res.outcome ≠ .signup := by
  unfold Completion.completeSuccess
  rw [exec_run_bind, exec_refresh]
  obtain ⟨c, hc⟩ : ∃ c, (exec (remote r fun c env => c.refreshToken env) s w).1.2 =
      { s with client := c } := ⟨_, rfl⟩
  generalize exec (remote r fun c env => c.refreshToken env) s w = call at hc
  obtain ⟨⟨got, s₁⟩, w₁⟩ := call
  dsimp only at hc ⊢
  subst hc
  rw [exec_run_bind, exec_live]
  dsimp only
  cases (StateT.run r.gaveUp w₁).1.isNone
  · exact .inr ⟨rfl, by simp⟩
  rcases got with e | t
  · exact .inr ⟨rfl, by simp⟩
  cases hz : credentialIsZero t.accessToken
  · simp only [Bool.not_true, hz, Bool.false_eq_true, if_false]
    rw [exec_run_bind, exec_storeCredential, hz]
    simp only [Bool.false_eq_true, if_false]
    rw [exec_run_bind, exec_authenticate]
    exact .inl ⟨t.user, rfl⟩
  · simp only [Bool.not_true, hz, if_true]
    exact .inr ⟨rfl, by simp⟩

theorem exec_flow_continue (routes : Completion.Routes) {signals : Completion.Signals} (s : Session)
    {w : σ} (hl : (r.gaveUp.run w).1.isNone = true) (hc : signals.status = "continue") :
    exec (Completion.flow (completionEnv r) routes signals).run s w =
      exec (Completion.completeSignup (completionEnv r) routes (Text.trim signals.providerInfo)).run s
        (r.gaveUp.run w).2 := by
  have hne : ("continue" == "success") = false := by decide
  unfold Completion.flow
  rw [exec_run_bind, exec_live]
  simp only [hl, hc, hne, Bool.not_true, Bool.false_eq_true, if_false, beq_self_eq_true, if_true]

theorem flow_records (routes : Completion.Routes) (signals : Completion.Signals) (s : Session)
    (w : σ) :
    let out := exec (Completion.flow (completionEnv r) routes signals).run s w
    out.1.2.signupEmail = s.signupEmail ∧
      ((out.1.2.auth.pending? = s.auth.pending? ∧ ∀ res, out.1.1 = .ok res → res.outcome ≠ .signup) ∨
        out.1.2.auth.pending? = none ∨
        ∃ i, (r.gaveUp.run w).1.isNone ∧ signals.status = "continue" ∧
          ProviderToken.decode (Text.trim signals.providerInfo) = .ok i ∧
          out.1.2.auth.pending? = some i ∧
          out.1.1 = .ok (signupResult r routes i s (r.gaveUp.run w).2)) := by
  have hmail : (exec (Completion.flow (completionEnv r) routes signals).run s w).1.2.signupEmail =
      s.signupEmail := by
    have h := keeps_run r (f := Session.signupEmail) (fun _ _ => rfl) (fun _ _ => rfl)
      (fun _ _ => rfl) routes signals s w
    rwa [exec_completionRun] at h
  refine ⟨hmail, ?_⟩
  unfold Completion.flow
  rw [exec_run_bind, exec_live]
  dsimp only
  cases hl : (StateT.run r.gaveUp w).1.isNone
  · exact .inl ⟨rfl, by simp⟩
  by_cases h₁ : signals.status = "success"
  · simp only [h₁, Bool.not_true, Bool.false_eq_true, if_false, beq_self_eq_true, if_true]
    rcases completeSuccess_standing r routes s (StateT.run r.gaveUp w).2 with ⟨u, hu⟩ | ⟨ha, hres⟩
    · exact .inr (.inl (by rw [hu]; rfl))
    · exact .inl ⟨by rw [ha], hres⟩
  by_cases h₂ : signals.status = "continue"
  · have hne : ("continue" == "success") = false := by decide
    simp only [h₂, hne, Bool.not_true, Bool.false_eq_true, if_false, beq_self_eq_true, if_true]
    rcases hi : ProviderToken.decode (Text.trim signals.providerInfo) with e | i
    · left
      unfold Completion.completeSignup
      rw [hi]
      exact ⟨rfl, by simp⟩
    · obtain ⟨hres, ha, -⟩ := completeSignup_records r routes hi s (StateT.run r.gaveUp w).2
      refine .inr (.inr ⟨i, ?_, ?_, ?_, by rw [ha]; rfl, hres⟩) <;> trivial
  · simp [h₁, h₂]

theorem completeOAuth_runs (signals : Completion.Signals) (s : Session) (w : σ)
    (hk : keptResult s signals = none) :
    let out := exec (Completion.flow (completionEnv r) s.routes signals).run s w
    let res := (exec (completeOAuth r signals) s w).1.1
    (∀ a, out.1.1 = .ok a → res = a) ∧ (out.1.1.toOption = none → res.outcome = .failure) ∧
      (exec (completeOAuth r signals) s w).1.2.auth = out.1.2.auth ∧
      (exec (completeOAuth r signals) s w).1.2.signupEmail =
        (if res.outcome = .signup then res.email else s.signupEmail) := by
  have hmail := (flow_records r s.routes signals s w).1
  simp only [exec_completeOAuth, hk, exec_completionRun, settleRun_auth, settleRun_signupEmail]
  rw [hmail]
  rcases (exec (Completion.flow (completionEnv r) s.routes signals).run s w).1.1 with why | a
  all_goals refine ⟨?_, ?_, ?_, ?_⟩ <;> simp [Except.toOption]

end Callback

namespace Step

/-- The result of the callback a step makes from `s`, when it runs its flow. -/
def callbackResult (x : Step σ) (s : Session) : Option Completion.Result :=
  match x.call with
  | .completeOAuth signals =>
    if runsFlow x.reach signals s x.world then some (exec (completeOAuth x.reach signals) s x.world).1.1
    else none
  | _ => none

/-- A step served from `s` records `i` as waiting to register: it is a callback for `continue`
signals whose token names `i`, and it runs its flow on a live mount. -/
def Records (x : Step σ) (s : Session) (i : PendingIdentity) : Prop :=
  ∃ signals, x.call = .completeOAuth signals ∧ runsFlow x.reach signals s x.world = true ∧
    (x.reach.gaveUp.run x.world).1.isNone = true ∧ signals.status = "continue" ∧
    ProviderToken.decode (Text.trim signals.providerInfo) = .ok i

def lookupFor (x : Step σ) (s : Session) (i : PendingIdentity) : Except Fault String × σ :=
  emailLookup x.reach i s (x.reach.gaveUp.run x.world).2

/-- A step served from `s` records `i` and leaves `email` suggested: the address its lookup
found when it ends in a registration, or the suggestion of `s` when it was given up during the
lookup. -/
def RecordsWith (x : Step σ) (s : Session) (i : PendingIdentity) (email : String) : Prop :=
  x.Records s i ∧
    ((x.callbackResult s).map (·.outcome) = some .signup ∧ email = suggestion (x.lookupFor s i).1 ∨
      (x.callbackResult s).map (·.outcome) = some .abandoned ∧ email = s.signupEmail)

/-- How serving a step from `s` may move the pending identity and the suggested e-mail to `s'`:
both stay, the identity goes, or the step records an identity and leaves a suggestion as
`RecordsWith` says. -/
def PrefillMoves (x : Step σ) (s s' : Session) : Prop :=
  (s'.auth.pending? = s.auth.pending? ∧ s'.signupEmail = s.signupEmail) ∨ s'.auth.pending? = none ∨
    ∃ i, s'.auth.pending? = some i ∧ x.RecordsWith s i s'.signupEmail

theorem callback_prefillMoves (signals : Completion.Signals) (r : Reach (StateM σ)) (w : σ)
    (s : Session) : PrefillMoves ⟨.completeOAuth signals, r, w⟩ s
      (exec (completeOAuth r signals) s w).1.2 := by
  rcases hk : keptResult s signals with _ | kept
  · obtain ⟨hres, hfail, hauth, hmail⟩ := completeOAuth_runs r signals s w hk
    have hruns : runsFlow r signals s w = true := by rw [runsFlow_eq, hk]; rfl
    have hcb : callbackResult ⟨.completeOAuth signals, r, w⟩ s =
        some (exec (completeOAuth r signals) s w).1.1 := by
      simp [callbackResult, hruns]
    rcases (flow_records r s.routes signals s w).2 with ⟨hp, hnot⟩ | hnone | ⟨i, hl, hc, hi, hp, hout⟩
    · -- nothing recorded, and no registration to suggest from
      have hns : (exec (completeOAuth r signals) s w).1.1.outcome ≠ .signup := by
        rcases hflow : (exec (Completion.flow (completionEnv r) s.routes signals).run s w).1.1
          with why | a
        · rw [hfail (by rw [hflow]; rfl)]
          decide
        · rw [hres a hflow]
          exact hnot a hflow
      exact .inl ⟨by rw [hauth, hp], by rw [hmail, if_neg hns]⟩
    · exact .inr (.inl (by rw [hauth, hnone]))
    · -- the flow recorded `i`; it suggests what the lookup found unless it was given up
      have hrec : Records ⟨.completeOAuth signals, r, w⟩ s i := ⟨signals, rfl, hruns, hl, hc, hi⟩
      have hr := hres _ hout
      refine .inr (.inr ⟨i, by rw [hauth, hp], hrec, ?_⟩)
      rw [hcb, hmail, hr]
      unfold signupResult
      split
      · exact .inl ⟨rfl, rfl⟩
      · exact .inr ⟨rfl, rfl⟩
  · simp only [exec_completeOAuth, hk]
    exact .inl ⟨rfl, rfl⟩

theorem keep_prefillMoves {x : Step σ} {s s' : Session}
    (h : (s'.auth.pending?, s'.signupEmail) = (s.auth.pending?, s.signupEmail)) :
    PrefillMoves x s s' := by
  simp only [Prod.mk.injEq] at h
  exact .inl h

theorem serve_prefillMoves (x : Step σ) (s : Session) : x.PrefillMoves s (x.serve s) := by
  obtain ⟨c, r, w⟩ := x
  simp only [serve]
  cases c with
  | completeOAuth signals =>
    rw [Call.serve, exec_discard]
    exact callback_prefillMoves signals r w s
  | login email password =>
    rw [Call.serve, exec_discard]
    rcases exec_login_cases r email password s w with ⟨e, he, hs⟩ | ⟨t, ht, hs⟩ <;> rw [hs]
    · exact .inl ⟨rfl, rfl⟩
    · exact .inr (.inl rfl)
  | signup form =>
    rw [Call.serve, exec_discard]
    rcases exec_signup_cases r form s w with ⟨e, he, hs⟩ | ⟨t, ht, hs⟩
    · -- a failed registration records at most the agreements
      have ha := ((exec_signup r form s w).2 ⟨e, he⟩).2
      rw [hs]
      refine .inl ⟨?_, rfl⟩
      rcases ha with ha | ha
      · rw [ha]
      · rw [ha]
        rfl
    · obtain ⟨t', -, -, -, -, ha⟩ := (exec_signup r form s w).1 t.user ht
      exact .inr (.inl (by rw [ha]; rfl))
  | logout =>
    rw [Call.serve, exec_logout_state]
    exact .inr (.inl rfl)
  | balance =>
    rw [Call.serve, exec_discard, (exec_readBalance_cases r s w).1]
    exact .inl ⟨rfl, rfl⟩
  | invalidate => exact .inl ⟨rfl, rfl⟩
  | select id =>
    rw [Call.serve, exec_discard]
    exact keep_prefillMoves (keeps_select r (f := fun s => (s.auth.pending?, s.signupEmail)) (fun _ _ => rfl) (fun _ _ => rfl) id s w)
  | resolve sessionId =>
    rw [Call.serve, exec_discard]
    exact keep_prefillMoves (keeps_resolve r (f := fun s => (s.auth.pending?, s.signupEmail))
      (fun _ _ => rfl) (fun _ _ => rfl) sessionId s w)
  | close => exact .inl ⟨rfl, rfl⟩

end Step

theorem serveAll_prefill (s₀ : Session) (xs : List (Step σ)) :
    let s := serveAll s₀ xs
    (s.auth.pending? = s₀.auth.pending? ∧ s.signupEmail = s₀.signupEmail) ∨ s.auth.pending? = none ∨
      ∃ pre x post i, xs = pre ++ x :: post ∧ s.auth.pending? = some i ∧
        x.RecordsWith (serveAll s₀ pre) i s.signupEmail := by
  induction xs using List.reverseRecOn with
  | nil => exact .inl ⟨rfl, rfl⟩
  | append_singleton xs y ih =>
    simp only [serveAll_append]
    rcases y.serve_prefillMoves (serveAll s₀ xs) with ⟨hp, he⟩ | hnone | ⟨i, hp, hrec⟩
    · -- the last call kept both: whatever held before still holds
      rw [hp, he]
      rcases ih with h | h | ⟨pre, x, post, i, rfl, hi, hrec⟩
      · exact .inl h
      · exact .inr (.inl h)
      · exact .inr (.inr ⟨pre, x, post ++ [y], i, by simp, hi, hrec⟩)
    · exact .inr (.inl hnone)
    · exact .inr (.inr ⟨xs, y, [], i, rfl, hp, hrec⟩)


theorem pending_identity_recorded_with_prefill (id device : String) (now : Int)
    (client : Remote.Client) (routes : Completion.Routes) (chatRoute : String)
    (xs : List (Step σ)) (i : PendingIdentity) :
    let s₀ := Session.new id device now client routes chatRoute
    (serveAll s₀ xs).auth.pending? = some i →
      ∃ pre x post, xs = pre ++ x :: post ∧ x.RecordsWith (serveAll s₀ pre) i (serveAll s₀ xs).signupEmail := by
  intro s₀ hi
  rcases serveAll_prefill s₀ xs with ⟨hp, -⟩ | hnone | ⟨pre, x, post, j, hxs, hj, hrec⟩
  · -- a fresh session has no identity waiting
    rw [hp] at hi
    cases hi
  · rw [hnone] at hi
    cases hi
  · obtain rfl : j = i := Option.some.inj (hj.symm.trans hi)
    exact ⟨pre, x, post, hxs, hrec⟩

theorem givenUp_lookup_keeps_prefill (x : Step σ) (s : Session) {i : PendingIdentity}
    (hrec : x.Records s i) (hgone : (x.reach.gaveUp.run (x.lookupFor s i).2).1.isSome = true) :
    (x.serve s).auth.pending? = some i ∧ (x.serve s).signupEmail = s.signupEmail ∧
      x.callbackResult s = some (Completion.abandon "mount closed during email lookup") := by
  obtain ⟨c, r, w⟩ := x
  obtain ⟨signals, hcall, hruns, hl, hc, hi⟩ := hrec
  dsimp only at hcall hruns hl hgone
  subst hcall
  have hk : keptResult s signals = none := by
    rw [runsFlow_eq] at hruns
    exact Option.isNone_iff_eq_none.mp hruns
  obtain ⟨hres, -, hauth, hmail⟩ := completeOAuth_runs r signals s w hk
  obtain ⟨hout, ha, -⟩ := completeSignup_records r s.routes hi s (r.gaveUp.run w).2
  rw [← exec_flow_continue r s.routes s hl hc] at hout ha
  -- the mount was given up during the lookup, so the run is abandoned
  have habandon : signupResult r s.routes i s (r.gaveUp.run w).2 =
      Completion.abandon "mount closed during email lookup" := by
    have hnone : (r.gaveUp.run (emailLookup r i s (r.gaveUp.run w).2).2).1.isNone = false := by
      cases h : (r.gaveUp.run (emailLookup r i s (r.gaveUp.run w).2).2).1 with
      | none => simp [Step.lookupFor, h] at hgone
      | some _ => rfl
    unfold signupResult
    rw [hnone]
    rfl
  have hr := hres _ hout
  rw [habandon] at hr
  refine ⟨?_, ?_, ?_⟩
  · simp only [Step.serve, Call.serve, Step.exec_discard]
    rw [hauth, ha]
    rfl
  · simp only [Step.serve, Call.serve, Step.exec_discard]
    rw [hmail, hr]
    rfl
  · simp [Step.callbackResult, hruns, hr]


def giveUpLater : StateM Nat (Option Fault) := fun n => (if n = 0 then none else some (.kind .canceled), n + 1)

def quietReach : Reach (StateM Nat) :=
  ⟨⟨fun _ => pure (.error (.kind .unavailable)), pure 0⟩, pure 0, giveUpLater, "", fun _ => pure ()⟩

def openedBreaker : Breaker := ⟨Breaker.Config.standard "remote-api", .opened, 0, 0, 0⟩

/-- A session waiting for account `1` of `kakao` to register, suggesting `one@x`, whose client's
breaker is open. -/
def waitingSession : Session :=
  { Session.new "bs-1" "device" 0 (Remote.Client.new "http://api.test" (some openedBreaker))
      Completion.Routes.standard "/chat" with
    auth := State.initial.awaitSignup ⟨"kakao", "1"⟩, signupEmail := "one@x" }

theorem givenUp_lookup_keeps_other_prefill :
    let x : Step Nat := ⟨.completeOAuth ⟨"continue", Completion.sampleToken⟩, quietReach, 0⟩
    (x.serve waitingSession).auth.pending? = some ⟨"x", "y"⟩ ∧
      (x.serve waitingSession).signupEmail = "one@x" ∧
      x.callbackResult waitingSession = some (Completion.abandon "mount closed during email lookup") :=
  givenUp_lookup_keeps_prefill _ _
    ⟨_, rfl, by rw [runsFlow_eq]; rfl, rfl, rfl, Completion.decode_sampleToken⟩ (by decide)

end Vestibule.Session

import Mathlib.Data.List.Induction
import Vestibule.Proofs.SessionEffects
import Vestibule.Proofs.SignedInCredential

/-!
The sign-in callback page of a session over runs of calls. The open page is accounted for by the
calls alone: a callback that runs its flow opens a page for its signals holding its result, unless
the run was abandoned, and a logout or closing the page drops it. A callback runs its flow exactly
when no page is open or the open page is for other signals; one that does not run hands back the
open page's result and changes nothing, inside the session or outside it. One that runs starts
the balance afresh exactly when it succeeds and keeps the suggested e-mail exactly when it leads
to registration.
-/

namespace Vestibule.Session

open Vestibule.Auth

variable {σ : Type}

def heldPage (p : Completion.Signals × Completion.Result) : Completion.Mount := ⟨p.1, some p.2⟩

namespace Step

/-- The page open after serving `x` from `s` when `p` was open before, by the account of the
calls alone. -/
def nextPage (x : Step σ) (s : Session) (p : Option (Completion.Signals × Completion.Result)) :
    Option (Completion.Signals × Completion.Result) :=
  match x.call with
  | .completeOAuth signals =>
    if runsFlow x.reach signals s x.world then
      let result := (exec (completeOAuth x.reach signals) s x.world).1.1
      if result.outcome = .abandoned then none else some (signals, result)
    else p
  | .logout => none
  | .close => none
  | _ => p

theorem mount_serve (x : Step σ) (s : Session) (p : Option (Completion.Signals × Completion.Result))
    (h : s.mount = p.map heldPage) : (x.serve s).mount = (x.nextPage s p).map heldPage := by
  obtain ⟨c, r, w⟩ := x
  simp only [serve, nextPage]
  cases c with
  | completeOAuth signals =>
    dsimp only
    rw [Call.serve, exec_discard, runsFlow_eq]
    rcases hk : keptResult s signals with _ | kept
    · -- the flow ran on a fresh page, which is kept unless the run was abandoned
      simp only [exec_completeOAuth, hk, Option.isNone_none, if_true, settleRun_mount]
      split <;> rfl
    · simp [exec_completeOAuth, hk, h]
  | login email password =>
    rw [Call.serve, exec_discard]
    rcases exec_login_cases r email password s w with ⟨e, he, hs⟩ | ⟨t, ht, hs⟩ <;> rw [hs, h]
  | signup form =>
    rw [Call.serve, exec_discard]
    rcases exec_signup_cases r form s w with ⟨e, he, hs⟩ | ⟨t, ht, hs⟩ <;> rw [hs, h]
  | logout => rw [Call.serve, exec_logout_state]; rfl
  | balance =>
    rw [Call.serve, exec_discard, (exec_readBalance_cases r s w).1, h]
  | invalidate => exact h
  | select id =>
    rw [Call.serve, exec_discard, ← h]
    exact keeps_select r (fun _ _ => rfl) (fun _ _ => rfl) id s w
  | resolve sessionId =>
    rw [Call.serve, exec_discard, ← h]
    exact keeps_resolve r (fun _ _ => rfl) (fun _ _ => rfl) sessionId s w
  | close => rfl

end Step

def trackPage (s₀ : Session) (xs : List (Step σ)) :
    Session × Option (Completion.Signals × Completion.Result) :=
  xs.foldl (fun acc x => (x.serve acc.1, x.nextPage acc.1 acc.2)) (s₀, none)

def openPage (s₀ : Session) (xs : List (Step σ)) : Option (Completion.Signals × Completion.Result) :=
  (trackPage s₀ xs).2

theorem trackPage_append (s₀ : Session) (xs : List (Step σ)) (x : Step σ) :
    trackPage s₀ (xs ++ [x]) =
      (x.serve (trackPage s₀ xs).1, x.nextPage (trackPage s₀ xs).1 (trackPage s₀ xs).2) := by
  simp [trackPage]

theorem trackPage_fst (s₀ : Session) (xs : List (Step σ)) : (trackPage s₀ xs).1 = serveAll s₀ xs := by
  induction xs using List.reverseRecOn with
  | nil => rfl
  | append_singleton xs x ih => rw [trackPage_append, serveAll_append, ih]

theorem mount_serveAll (s₀ : Session) (h₀ : s₀.mount = none) (xs : List (Step σ)) :
    (serveAll s₀ xs).mount = (openPage s₀ xs).map heldPage := by
  induction xs using List.reverseRecOn with
  | nil => exact h₀
  | append_singleton xs x ih =>
    rw [openPage, trackPage_append, serveAll_append, ← trackPage_fst]
    rw [← trackPage_fst] at ih
    exact x.mount_serve _ _ ih

theorem keptResult_of_mount {s : Session} {page : Option (Completion.Signals × Completion.Result)}
    (h : s.mount = page.map heldPage) (signals : Completion.Signals) :
    keptResult s signals = page.bind fun p => if p.1 = signals then some p.2 else none := by
  unfold keptResult
  rw [h]
  rcases page with _ | p
  · rfl
  · by_cases hs : p.1 = signals <;> simp [heldPage, hs]

theorem completeOAuth_fresh_settles (r : Reach (StateM σ)) (signals : Completion.Signals)
    (s : Session) (w : σ) (hk : keptResult s signals = none) :
    let out := exec (completeOAuth r signals) s w
    out.1.2.balance = (if out.1.1.outcome = .success then s.balance.reset else s.balance) ∧
      out.1.2.signupEmail =
        (if out.1.1.outcome = .signup then out.1.1.email else s.signupEmail) := by
  simp only [exec_completeOAuth, hk, settleRun_balance, settleRun_signupEmail]
  -- the flow itself touches neither the balance nor the suggested e-mail
  have hb : (exec (Completion.run (completionEnv r) s.routes signals) s w).1.2.balance =
      s.balance := keeps_run r (fun _ _ => rfl) (fun _ _ => rfl) (fun _ _ => rfl) _ _ s w
  have he : (exec (Completion.run (completionEnv r) s.routes signals) s w).1.2.signupEmail =
      s.signupEmail := keeps_run r (fun _ _ => rfl) (fun _ _ => rfl) (fun _ _ => rfl) _ _ s w
  rw [hb, he]
  exact ⟨rfl, rfl⟩

/-- After any run from a fresh session, a sign-in callback for `signals` runs its flow exactly
when no page is open or the open page is for other signals. One that does not run hands back the
open page's result and changes nothing, in the session or outside; one that runs starts the
balance afresh exactly when it succeeds and keeps the suggested e-mail exactly when it leads to
registration. -/
theorem callback_runs_iff_page_differs (id device : String) (now : Int) (client : Remote.Client)
    (routes : Completion.Routes) (chatRoute : String) (pre : List (Step σ))
    (r : Reach (StateM σ)) (signals : Completion.Signals) (w : σ) :
    let s₀ := Session.new id device now client routes chatRoute
    let s := serveAll s₀ pre
    let page := openPage s₀ pre
    let out := exec (completeOAuth r signals) s w
    (runsFlow r signals s w = true ↔ page = none ∨ ∃ p, page = some p ∧ p.1 ≠ signals) ∧
      (runsFlow r signals s w = false → ∃ p, page = some p ∧ out = ((p.2, s), w)) ∧
      (runsFlow r signals s w = true →
        out.1.2.balance = (if out.1.1.outcome = .success then s.balance.reset else s.balance) ∧
        out.1.2.signupEmail =
          (if out.1.1.outcome = .signup then out.1.1.email else s.signupEmail)) := by
  intro s₀ s page out
  have hk : keptResult s signals = page.bind fun p => if p.1 = signals then some p.2 else none :=
    keptResult_of_mount (mount_serveAll s₀ rfl pre) signals
  have hruns := runsFlow_eq r signals s w
  clear_value page
  refine ⟨?_, fun hno => ?_, fun hyes => ?_⟩
  · rw [hruns, hk]
    rcases page with _ | p
    · simp
    · by_cases hs : p.1 = signals <;> simp [hs]
  · -- a page for the same signals is open and kept its result
    rw [hruns, hk] at hno
    rcases page with _ | p
    · simp at hno
    by_cases hs : p.1 = signals
    · have hkept : keptResult s signals = some p.2 := by simp [hk, hs]
      exact ⟨p, rfl, by simp [out, exec_completeOAuth, hkept]⟩
    · simp [hs] at hno
  · rw [hruns] at hyes
    exact completeOAuth_fresh_settles r signals s w (Option.isNone_iff_eq_none.mp hyes)

end Vestibule.Session

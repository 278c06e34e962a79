import Vestibule.Proofs.SessionEffects

/-!
Signing out, from any session and whatever the service answers: the service is told exactly when
someone was signed in, and the session is left as a fresh one, with nobody signed in, no
credential, a balance of zero that needs a refresh, an empty hand-off slot, no suggested e-mail,
and no callback page, so that the next sign-in callback runs its flow afresh.
-/

namespace Vestibule.Session

open Vestibule.Auth

variable {σ : Type}

theorem status_eq_authenticated_iff (a : Auth.State) :
    a.status = "authenticated" ↔ a.isAuthenticated = true := by
  unfold State.status State.isAuthenticated State.user?
  rcases a.standing <;> simp

theorem get_empty : CredentialStore.empty.get = none := by
  simp [CredentialStore.get, CredentialStore.empty, credentialIsZero, Text.isBlankText_iff]

theorem exec_logout_outside (r : Reach (StateM σ)) (s : Session) (w : σ) :
    let call := exec (remote r fun c env => c.logout env) s w
    let told := if s.auth.status = "authenticated" then call.2 else w
    (exec (logout r) s w).2 = ((r.note .logout).run told).2 ∧
      (exec (logout r) s w).1.2.client =
        if s.auth.status = "authenticated" then call.1.2.client else s.client := by
  unfold logout
  rw [exec_get_bind]
  cases h : s.auth.isAuthenticated
  · have hs : s.auth.status ≠ "authenticated" := by simp [status_eq_authenticated_iff, h]
    simp only [hs, if_false]
    exact ⟨rfl, rfl⟩
  · have hs : s.auth.status = "authenticated" := (status_eq_authenticated_iff _).mpr h
    simp only [hs, if_true]
    exact ⟨rfl, rfl⟩

/-- After a logout the session is a fresh one: nobody signed in and nothing chosen, no
credential, a zero balance that needs a refresh, an empty slot, no suggested e-mail, and a
sign-in callback for any signals runs its flow on a fresh page. -/
theorem logout_resets_session (r : Reach (StateM σ)) (s : Session) (w : σ) :
    let call := exec (remote r fun c env => c.logout env) s w
    let told := if s.auth.status = "authenticated" then call.2 else w
    let s' := (exec (logout r) s w).1.2
    let fresh := Session.new s.id s.device s.lastSeen s'.client s.routes s.chatRoute
    ((exec (logout r) s w).2 = ((r.note .logout).run told).2 ∧
      s'.client = if s.auth.status = "authenticated" then call.1.2.client else s.client) ∧
    s'.auth = fresh.auth ∧
    s'.auth.toValue = .object [("isAuthenticated", .bool false), ("consent", .array [])] ∧
    s'.cred.get = none ∧
    s'.balance.snapshot = ⟨0, true⟩ ∧
    s'.slot = fresh.slot ∧
    s'.signupEmail = fresh.signupEmail ∧
    ∀ (r' : Reach (StateM σ)) (signals : Completion.Signals) (w' : σ),
      pageFor s' signals = Completion.Mount.fresh signals ∧ runsFlow r' signals s' w' = true := by
  intro call told s' fresh
  have hs' : s' = _ := exec_logout_state r s w
  refine ⟨exec_logout_outside r s w, ?_, ?_, ?_, ?_, ?_, ?_, fun r' signals w' => ?_⟩
  · rw [hs']
    rfl
  · rw [hs']
    rfl
  · rw [hs']
    exact get_empty
  · rw [hs']
    rfl
  · rw [hs']
    rfl
  · rw [hs']
    rfl
  -- with no page open, every callback gets a fresh page, which has kept nothing
  have hpage : pageFor s' signals = Completion.Mount.fresh signals := by
    rw [hs']
    rfl
  refine ⟨hpage, ?_⟩
  rw [runsFlow_eq, ← pageFor_result, hpage]
  rfl

end Vestibule.Session

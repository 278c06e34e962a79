import Mathlib.Data.List.Induction
import Vestibule.Proofs.SessionEffects
import Vestibule.Proofs.SignedInCredential

/-!
The balance a browser session holds, over runs of calls served against whatever the outside
answers. The balance is never negative, and a balance that needs no refresh is the value the
service answered to a balance request made after the latest call that started the balance
afresh: a login or a registration that succeeded, a sign-in callback that ran and succeeded, a
logout, or marking the balance stale. That request went out with the credential the session
still holds.
-/

namespace Vestibule.Session

open Vestibule.Auth

variable {σ : Type}

namespace Step

/-- Whether serving `x` from `s` starts the balance afresh: a login or a registration that
succeeds, a sign-in callback that runs its flow and succeeds, a logout, or marking the balance
stale. -/
def Renews (x : Step σ) (s : Session) : Prop :=
  match x.call with
  | .login email password => ∃ u, (exec (login x.reach email password) s x.world).1.1 = .ok u
  | .signup form => ∃ u, (exec (signup x.reach form) s x.world).1.1 = .ok u
  | .completeOAuth signals => runsFlow x.reach signals s x.world = true ∧
      (exec (completeOAuth x.reach signals) s x.world).1.1.outcome = .success
  | .logout => True
  | .invalidate => True
  | _ => False

/-- The answer to the balance request `x` sends from `s`, when it sends one: a balance read by a
signed-in session whose balance is stale. -/
def fetched (x : Step σ) (s : Session) : Option (Except Fault Int) :=
  match x.call with
  | .balance =>
    if s.auth.isAuthenticated && s.balance.dirty then some (balanceAnswer x.reach s x.world) else none
  | _ => none

/-- How one call moves the balance: a renewing call resets it or marks it stale; any other call
keeps the credential, and keeps the balance unless it fetched a value, which is then held clean. -/
def MovesBalance (x : Step σ) (s s' : Session) : Prop :=
  (x.Renews s → s'.balance = s.balance.reset ∨ s'.balance = s.balance.markDirty) ∧
    (¬ x.Renews s → s'.cred = s.cred ∧
      (s'.balance = s.balance ∨
        ∃ v, x.fetched s = some (.ok v) ∧ 0 ≤ v ∧
          s'.balance = { s.balance with value := v, dirty := false }))

theorem MovesBalance.of_renews {x : Step σ} {s s' : Session} (hr : x.Renews s)
    (h : s'.balance = s.balance.reset ∨ s'.balance = s.balance.markDirty) : x.MovesBalance s s' :=
  ⟨fun _ => h, fun hn => absurd hr hn⟩

theorem MovesBalance.of_keeps {x : Step σ} {s s' : Session} (hn : ¬ x.Renews s)
    (hc : s'.cred = s.cred) (hb : s'.balance = s.balance) : x.MovesBalance s s' :=
  ⟨fun hr => absurd hr hn, fun _ => ⟨hc, .inl hb⟩⟩

theorem serve_movesBalance (x : Step σ) (s : Session) : x.MovesBalance s (x.serve s) := by
  obtain ⟨c, r, w⟩ := x
  simp only [serve]
  cases c with
  | completeOAuth signals =>
    rw [Call.serve, exec_discard, exec_completeOAuth]
    have hruns := runsFlow_eq r signals s w
    rcases hk : keptResult s signals with _ | kept
    · -- the flow ran: the call renews exactly when it succeeded
      dsimp only
      have hbal : (exec (Completion.run (completionEnv r) s.routes signals) s w).1.2.balance =
          s.balance := keeps_run r (fun _ _ => rfl) (fun _ _ => rfl) (fun _ _ => rfl) _ _ s w
      by_cases hs : (exec (Completion.run (completionEnv r) s.routes signals) s w).1.1.outcome =
          .success
      · refine MovesBalance.of_renews ?_ (.inl (by rw [settleRun_balance, if_pos hs, hbal]))
        refine ⟨by simp [hruns, hk], ?_⟩
        simpa [exec_completeOAuth, hk] using hs
      · refine MovesBalance.of_keeps ?_ ?_ (by rw [settleRun_balance, if_neg hs, hbal])
        · rintro ⟨-, hr⟩
          simp [exec_completeOAuth, hk] at hr
          exact hs hr
        · rw [settleRun_cred]
          exact (run_succeeds_or_keeps_cred r s.routes signals s w).resolve_left hs
    · -- the page kept its result: nothing ran and nothing changed
      refine MovesBalance.of_keeps ?_ rfl rfl
      rintro ⟨hr, -⟩
      simp [hruns, hk] at hr
  | login email password =>
    rw [Call.serve, exec_discard]
    rcases exec_login_cases r email password s w with ⟨e, he, hs⟩ | ⟨t, ht, hs⟩
    · refine MovesBalance.of_keeps ?_ (by rw [hs]) (by rw [hs])
      rintro ⟨u, hu⟩
      simp [he] at hu
    · -- unfolding the renewal first keeps Lean from running the login to compare answers
      have hr : Renews ⟨.login email password, r, w⟩ s := by
        dsimp only [Renews]
        exact ⟨t.user, ht⟩
      exact MovesBalance.of_renews hr (.inl (by rw [hs]))
  | signup form =>
    rw [Call.serve, exec_discard]
    rcases exec_signup_cases r form s w with ⟨e, he, hs⟩ | ⟨t, ht, hs⟩
    · refine MovesBalance.of_keeps ?_ (by rw [hs]) (by rw [hs])
      rintro ⟨u, hu⟩
      simp [he] at hu
    · -- unfolding the renewal first keeps Lean from running the signup to compare answers
      have hr : Renews ⟨.signup form, r, w⟩ s := by
        dsimp only [Renews]
        exact ⟨t.user, ht⟩
      exact MovesBalance.of_renews hr (.inl (by rw [hs]))
  | logout => exact MovesBalance.of_renews trivial (.inl (by rw [Call.serve, exec_logout_state]))
  | balance =>
    rw [Call.serve, exec_discard]
    obtain ⟨hs, hb⟩ := exec_readBalance_cases r s w
    refine ⟨fun hr => hr.elim, fun _ => ⟨by rw [hs], ?_⟩⟩
    rcases hb with hb | ⟨ha, hd, v, hv, hpos, hb⟩
    · exact .inl hb
    · exact .inr ⟨v, by simp [fetched, ha, hd, hv], hpos, hb⟩
  | invalidate => exact MovesBalance.of_renews trivial (.inr rfl)
  | select id =>
    rw [Call.serve, exec_discard]
    have hc : (exec (select r id) s w).1.2.cred = s.cred :=
      keeps_select r (fun _ _ => rfl) (fun _ _ => rfl) id s w
    have hb : (exec (select r id) s w).1.2.balance = s.balance :=
      keeps_select r (fun _ _ => rfl) (fun _ _ => rfl) id s w
    exact MovesBalance.of_keeps (fun hr => hr.elim) hc hb
  | resolve sessionId =>
    rw [Call.serve, exec_discard]
    have hc : (exec (resolve r sessionId) s w).1.2.cred = s.cred :=
      keeps_resolve r (fun _ _ => rfl) (fun _ _ => rfl) sessionId s w
    have hb : (exec (resolve r sessionId) s w).1.2.balance = s.balance :=
      keeps_resolve r (fun _ _ => rfl) (fun _ _ => rfl) sessionId s w
    exact MovesBalance.of_keeps (fun hr => hr.elim) hc hb
  | close => exact MovesBalance.of_keeps (fun hr => hr.elim) rfl rfl

end Step

theorem serveAll_balance (s₀ : Session) (h₀ : 0 ≤ s₀.balance.value) (hd₀ : s₀.balance.dirty = true)
    (xs : List (Step σ)) :
    0 ≤ (serveAll s₀ xs).balance.value ∧
      ((serveAll s₀ xs).balance.dirty = false →
        ∃ pre x post, xs = pre ++ x :: post ∧
          x.fetched (serveAll s₀ pre) = some (.ok (serveAll s₀ xs).balance.value) ∧
          (∀ ys y, ys ++ [y] <+: post → ¬ y.Renews (serveAll s₀ (pre ++ x :: ys))) ∧
          (serveAll s₀ xs).cred = (serveAll s₀ pre).cred) := by
  induction xs using List.reverseRecOn with
  | nil => exact ⟨h₀, fun hd => absurd hd₀ (by simp_all [serveAll])⟩
  | append_singleton xs y ih =>
    obtain ⟨hpos, hclean⟩ := ih
    obtain ⟨hren, hkeep⟩ := y.serve_movesBalance (serveAll s₀ xs)
    rw [serveAll_append]
    by_cases hr : y.Renews (serveAll s₀ xs)
    · -- a renewing call leaves the balance stale, and not negative
      rcases hren hr with h | h <;> rw [h]
      · exact ⟨Int.le_refl 0, fun hd => Bool.noConfusion hd⟩
      · exact ⟨hpos, fun hd => Bool.noConfusion hd⟩
    obtain ⟨hc, hb | ⟨v, hv, hvpos, hb⟩⟩ := hkeep hr
    · -- the balance is kept: the fetch that made it clean is still the latest
      rw [hb]
      refine ⟨hpos, fun hd => ?_⟩
      obtain ⟨pre, x, post, rfl, hf, hnone, hcred⟩ := hclean hd
      refine ⟨pre, x, post ++ [y], by simp, hf, fun ys z hys => ?_, hc.trans hcred⟩
      rcases List.prefix_concat_iff.mp hys with heq | hys
      · obtain ⟨rfl, hz⟩ := List.append_inj' heq rfl
        obtain rfl := List.singleton_inj.mp hz
        simpa using hr
      · exact hnone ys z hys
    · -- the call fetched the balance now held, and no call came after it
      rw [hb]
      refine ⟨hvpos, fun _ => ⟨xs, y, [], rfl, hv, fun ys z hys => ?_, hc⟩⟩
      simp at hys

/-- The balance a session holds is never negative, and when it needs no refresh it is the value
the service answered to a balance request sent after the latest successful login, sign-in
callback or registration, logout and marking stale, with the credential the session holds. -/
theorem balance_nonneg_and_fetched_since_renewal (id device : String) (now : Int)
    (client : Remote.Client) (routes : Completion.Routes) (chatRoute : String)
    (xs : List (Step σ)) :
    let s₀ := Session.new id device now client routes chatRoute
    let s := serveAll s₀ xs
    0 ≤ s.balance.snapshot.value ∧
      (s.balance.snapshot.needsRefresh = false →
        ∃ pre x post, xs = pre ++ x :: post ∧
          x.fetched (serveAll s₀ pre) = some (.ok s.balance.snapshot.value) ∧
          (∀ ys y, ys ++ [y] <+: post → ¬ y.Renews (serveAll s₀ (pre ++ x :: ys))) ∧
          s.cred = (serveAll s₀ pre).cred) :=
  serveAll_balance _ (Int.le_refl 0) rfl xs

end Vestibule.Session

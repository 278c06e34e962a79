import Mathlib.Data.List.Induction
import Vestibule.Proofs.SessionSteps

/-!
Runs of calls on one browser session, each served against whatever the outside answers. Whoever
is signed in at the end of a run was signed in by one call of it, with a token result the service
granted that call: the call stored the token's credential, and no later call changed the user or
the credential.
-/

namespace Vestibule.Session

open Vestibule.Auth

variable {σ : Type}

inductive Call where
  | completeOAuth (signals : Completion.Signals)
  | login (email password : String)
  | signup (form : Form)
  | logout
  | balance
  | invalidate
  | select (id : Int)
  | resolve (sessionId : List UInt8)
  | close

namespace Call

def serve (r : Reach (StateM σ)) : Call → StateT Session (StateM σ) Unit
  | completeOAuth signals => discard (Session.completeOAuth r signals)
  | login email password => discard (Session.login r email password)
  | signup form => discard (Session.signup r form)
  | logout => Session.logout r
  | balance => discard (readBalance r)
  | invalidate => modify Session.invalidate
  | select id => discard (Session.select r id)
  | resolve sessionId => discard (Session.resolve r sessionId)
  | close => modify Session.close

/-- The answer the service gives to the credential request a call makes from `s` at `w`: the
token refresh of a sign-in callback, a login or a registration. None for the other calls, and
for a call that does not get as far as asking. -/
def grant (r : Reach (StateM σ)) : Call → Session → σ → Option (Except Fault TokenResult)
  | completeOAuth signals => callbackGrant r signals
  | login email password => loginGrant r email password
  | signup form => signupGrant r form
  | _ => fun _ _ => none

end Call

/-- A call served with its own reach of the outside and at its own world, which make the
service's answers, the clock and the browser's giving up whatever they are. -/
structure Step (σ : Type) where
  call : Call
  reach : Reach (StateM σ)
  world : σ

namespace Step

def serve (x : Step σ) (s : Session) : Session := (exec (x.call.serve x.reach) s x.world).1.2

def grant (x : Step σ) (s : Session) : Option (Except Fault TokenResult) :=
  x.call.grant x.reach s x.world

theorem exec_discard {α : Type} (x : StateT Session (StateM σ) α) (s : Session) (w : σ) :
    (exec (discard x) s w).1.2 = (exec x s w).1.2 := rfl

theorem serve_moves (x : Step σ) (s : Session) : Moves s (x.serve s) (x.grant s) := by
  obtain ⟨c, r, w⟩ := x
  simp only [serve, grant]
  cases c with
  | completeOAuth signals =>
    rw [Call.serve, exec_discard]
    exact completeOAuth_moves r signals s w
  | login email password =>
    rw [Call.serve, exec_discard]
    exact login_moves r email password s w
  | signup form =>
    rw [Call.serve, exec_discard]
    exact signup_moves r form s w
  | logout => exact logout_moves r s w _
  | balance =>
    rw [Call.serve, exec_discard]
    exact Moves.of_settled (steady_readBalance r s w)
  | invalidate => exact Moves.of_settled (steady_invalidate s w)
  | select id =>
    rw [Call.serve, exec_discard]
    exact Moves.of_settled (steady_select r id s w)
  | resolve sessionId =>
    rw [Call.serve, exec_discard]
    exact Moves.of_settled (steady_resolve r sessionId s w)
  | close => exact Moves.of_settled (steady_close s w)

end Step

def serveAll (s : Session) (xs : List (Step σ)) : Session := xs.foldl (fun s x => x.serve s) s

theorem serveAll_append (s : Session) (xs : List (Step σ)) (x : Step σ) :
    serveAll s (xs ++ [x]) = x.serve (serveAll s xs) := by
  simp [serveAll]

theorem serveAll_moves (s : Session) (xs : List (Step σ)) :
    (serveAll s xs).signIn = s.signIn ∨ (serveAll s xs).auth.user? = none ∨
      ∃ pre x post t, xs = pre ++ x :: post ∧ x.grant (serveAll s pre) = some (.ok t) ∧
        credentialIsZero t.accessToken = false ∧
        ∀ ys, ys <+: post → (serveAll s (pre ++ x :: ys)).signIn = (some t.user, ⟨t.accessToken⟩) := by
  induction xs using List.reverseRecOn with
  | nil => exact .inl rfl
  | append_singleton xs x ih =>
    rw [serveAll_append]
    rcases x.serve_moves (serveAll s xs) with hkeep | hout | ⟨t, hg, hz, hs⟩
    · -- the last step kept the sign-in: whatever held before still holds
      rcases ih with h | h | ⟨pre, y, post, t, rfl, hg, hz, hkept⟩
      · exact .inl (hkeep.trans h)
      · exact .inr (.inl (by simpa [signIn, h] using congrArg Prod.fst hkeep))
      refine .inr (.inr ⟨pre, y, post ++ [x], t, by simp, hg, hz, fun ys hys => ?_⟩)
      rcases List.prefix_concat_iff.mp hys with rfl | hys
      · have hsplit : pre ++ y :: (post ++ [x]) = (pre ++ y :: post) ++ [x] := by simp
        rw [hsplit, serveAll_append, hkeep, hkept post List.prefix_rfl]
      · exact hkept ys hys
    · exact .inr (.inl hout)
    · -- the last step signed in anew
      refine .inr (.inr ⟨xs, x, [], t, rfl, hg, hz, fun ys hys => ?_⟩)
      rw [List.prefix_nil.mp hys, serveAll_append]
      exact hs

theorem user_signIn {s : Session} {u : User} {c : CredentialStore} (h : s.signIn = (some u, c)) :
    s.auth.user? = some u ∧ s.cred = c := by
  simpa [signIn] using h

theorem get_of_nonblank {v : String} (hz : credentialIsZero v = false) :
    (⟨v⟩ : CredentialStore).get = some v := by
  simp [CredentialStore.get, hz]

theorem status_of_user {a : Auth.State} {u : User} (h : a.user? = some u) :
    a.status = "authenticated" := by
  unfold State.user? at h
  unfold State.status
  split at h <;> simp_all

theorem signed_in_holds_granted_credential (id device : String) (now : Int)
    (client : Remote.Client) (routes : Completion.Routes) (chatRoute : String)
    (xs : List (Step σ)) :
    let s₀ := Session.new id device now client routes chatRoute
    let s := serveAll s₀ xs
    (∀ (x : Step σ) (s : Session) (u : User), (x.serve s).auth.user? = some u →
      (x.serve s).signIn = s.signIn ∨
        ∃ t, x.grant s = some (.ok t) ∧ t.user = u ∧ (x.serve s).cred = ⟨t.accessToken⟩ ∧
          (x.serve s).cred.get = some t.accessToken) ∧
    (s.auth.user? = none ∨
      ∃ pre x post t, xs = pre ++ x :: post ∧ x.grant (serveAll s₀ pre) = some (.ok t) ∧
        s.auth.status = "authenticated" ∧ s.auth.user? = some t.user ∧
        s.cred.get = some t.accessToken ∧
        ∀ ys, ys <+: post →
          (serveAll s₀ (pre ++ x :: ys)).signIn = (some t.user, ⟨t.accessToken⟩)) := by
  intro s₀ s
  refine ⟨fun x s u hu => ?_, ?_⟩
  · rcases x.serve_moves s with hkeep | hout | ⟨t, hg, hz, hs⟩
    · exact .inl hkeep
    · simp [hout] at hu
    · obtain ⟨hu', hc⟩ := user_signIn hs
      refine .inr ⟨t, hg, Option.some.inj (hu'.symm.trans hu), hc, ?_⟩
      rw [hc]
      exact get_of_nonblank hz
  rcases serveAll_moves s₀ xs with hkeep | hout | ⟨pre, x, post, t, hxs, hg, hz, hkept⟩
  · -- a fresh session has nobody signed in
    exact .inl (congrArg Prod.fst hkeep)
  · exact .inl hout
  obtain ⟨hu, hc⟩ := user_signIn (hxs ▸ hkept post List.prefix_rfl : s.signIn = _)
  exact .inr ⟨pre, x, post, t, hxs, hg, status_of_user hu, hu, hc ▸ get_of_nonblank hz, hkept⟩

end Vestibule.Session

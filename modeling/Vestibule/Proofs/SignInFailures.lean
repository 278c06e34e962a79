import Vestibule.Proofs.SessionSteps

/-!
Sign-ins that fail leave the session as they found it.

A login and a registration each check their input first, and a refused input is answered with
no remote call at all. Past the checks each makes exactly one remote call, and what it does with
the answer touches nothing outside the session: a grant with a credential is stored and signs
its user in, and every other answer fails with the session as it was, but for the client the call
went through. A registration records the chosen agreements once its identity and fields pass, so
a failure after that point leaves them recorded. The statements hold in every lawful monad, so
for every world the call is made in and every answer it gets.
-/

namespace Vestibule.Session

open Vestibule.Auth

/-- What a sign-in does once the service answered `got`: a credential that is not blank is
stored and its user signed in, the balance started afresh and `finish` applied; any other answer
fails as `fail` says, with the session as it was. -/
def settleGrant (fail : Fault → Fault) (finish : Session → Session)
    (got : Except Fault TokenResult) (s : Session) : Except Fault User × Session :=
  match got with
  | .error e => (.error (fail e), s)
  | .ok t =>
    if credentialIsZero t.accessToken then
      (.error (Fault.fresh "unavailable" "remote returned no credential"), s)
    else
      let signedIn :=
        { s with cred := ⟨t.accessToken⟩, auth := s.auth.authenticate t.user, balance := s.balance.reset }
      (.ok t.user, finish signedIn)

theorem settleGrant_error {fail : Fault → Fault} {finish : Session → Session}
    {got : Except Fault TokenResult} {s : Session} {e : Fault}
    (h : (settleGrant fail finish got s).1 = .error e) : (settleGrant fail finish got s).2 = s := by
  unfold settleGrant at h ⊢
  rcases got with e' | t
  · rfl
  · dsimp only at h ⊢
    split
    · rfl
    · rw [if_neg ‹_›] at h
      cases h

def loginFailure (e : Fault) : Fault :=
  if e.isKind .unauthorized then .coded "unauthorized" "invalid email or password" (some e)
  else remoteError e "login failed"

variable {m : Type → Type} [Monad m] [LawfulMonad m] (r : Reach m)

theorem run_remote {α : Type}
    (call : Remote.Client → Remote.Env m → m (Except Fault α × Remote.Client)) (s : Session) :
    (remote r call).run s =
      (fun got => (got.1, { s with client := got.2 })) <$> call s.client (remoteEnv r s r.gaveUp) := by
  simp [remote, bind_pure_comp]

theorem run_commitCredential (t : TokenResult) (s : Session) :
    (commitCredential t : StateT Session m _).run s =
      pure (if credentialIsZero t.accessToken then
          (.error (Fault.fresh "unavailable" "remote returned no credential"), s)
        else (.ok (), { s with cred := ⟨t.accessToken⟩ })) := by
  unfold commitCredential
  cases h : credentialIsZero t.accessToken
  · simp [h, CredentialStore.set]
  · simp

theorem run_login (email password : String) (s : Session) :
    (login r email password).run s =
      if (Text.trim email).isEmpty || password.isEmpty then
        pure (.error (Fault.fresh "invalid_input" "email and password are required"), s)
      else (fun got => settleGrant loginFailure (fun s => s) got.1 { s with client := got.2 }) <$>
        s.client.login (remoteEnv r s r.gaveUp) (Text.trim email) password := by
  unfold login
  dsimp only
  split
  · simp
  · rw [StateT.run_bind, run_remote, bind_map_left, map_eq_pure_bind]
    congr 1
    funext got
    rcases got with ⟨e | t, c⟩
    · simp [settleGrant, loginFailure]
      split <;> simp
    · cases hz : credentialIsZero t.accessToken <;>
        simp [StateT.run_bind, run_commitCredential, settleGrant, hz]

def withConsent (s : Session) (form : Form) : Session :=
  { s with auth := s.auth.recordConsent form.agreements }

theorem run_signup (form : Form) (s : Session) :
    (signup r form).run s =
      match s.auth.pending? with
      | none => pure (.error (Fault.fresh "invalid_state" "no pending sign-up"), s)
      | some i =>
        if (Text.trim form.email).isEmpty || (Text.trim form.displayName).isEmpty then
          pure (.error (Fault.fresh "invalid_input" "email and display name are required"), s)
        else if (Text.normalSet form.agreements).isEmpty then
          pure (.error (Fault.fresh "missing_consent" "agreements are required"), withConsent s form)
        else
          (fun got => settleGrant (remoteError · "sign-up failed") (fun s => { s with signupEmail := "" })
              got.1 { withConsent s form with client := got.2 }) <$>
            s.client.signup (remoteEnv r (withConsent s form) r.gaveUp) (signupRequest i form) := by
  unfold signup
  simp only [StateT.run_bind, StateT.run_get, pure_bind]
  rcases hp : s.auth.pending? with _ | i
  · simp
  dsimp only
  split
  · simp
  simp only [StateT.run_bind, StateT.run_modify, StateT.run_get, pure_bind]
  -- the consent checked is the one just recorded, and it is what the request carries
  have hconsent : (State.recordConsent form.agreements s.auth).consent =
      Text.normalSet form.agreements := rfl
  have hreq : (⟨i.provider, i.providerId, Text.trim form.email, Text.trim form.displayName,
      some (Text.normalSet form.agreements)⟩ : Remote.SignupForm) = signupRequest i form := rfl
  rw [hconsent, hreq]
  by_cases hc : (Text.normalSet form.agreements).isEmpty = true
  · simp [hc, withConsent]
  rw [if_neg hc, if_neg hc, StateT.run_bind, run_remote, bind_map_left, map_eq_pure_bind]
  congr 1
  funext got
  rcases got with ⟨e | t, c⟩
  · simp [settleGrant, withConsent]
  · cases hz : credentialIsZero t.accessToken <;>
      simp [StateT.run_bind, run_commitCredential, settleGrant, hz, withConsent]

theorem either_empty_iff (a b : String) : (a.isEmpty || b.isEmpty) = true ↔ a = "" ∨ b = "" := by
  simp [String.isEmpty_iff]

/-- A failed sign-in leaves the session as it was. A login with a blank trimmed e-mail or an
empty password, and a registration without a pending identity or with a blank trimmed e-mail or
display name, are refused with no remote call and the session untouched. Past those checks a
registration records the agreements, and with none left after normalising it is refused with no
remote call. Otherwise each makes one remote call and settles on its answer alone; whenever it
fails, the session is as it was before the call, but for the client the call went through. -/
theorem failed_sign_in_keeps_session (s : Session) (email password : String) (form : Form) :
    (Text.trim email = "" ∨ password = "" →
      (login r email password).run s =
        pure (.error (Fault.fresh "invalid_input" "email and password are required"), s)) ∧
    (Text.trim email ≠ "" → password ≠ "" →
      ∃ settle : Except Fault TokenResult × Remote.Client → Except Fault User × Session,
        (login r email password).run s =
          settle <$> s.client.login (remoteEnv r s r.gaveUp) (Text.trim email) password ∧
        ∀ got e, (settle got).1 = .error e → (settle got).2 = { s with client := got.2 }) ∧
    (s.auth.pending? = none →
      (signup r form).run s = pure (.error (Fault.fresh "invalid_state" "no pending sign-up"), s)) ∧
    ∀ i, s.auth.pending? = some i →
      (Text.trim form.email = "" ∨ Text.trim form.displayName = "" →
        (signup r form).run s =
          pure (.error (Fault.fresh "invalid_input" "email and display name are required"), s)) ∧
      (Text.trim form.email ≠ "" → Text.trim form.displayName ≠ "" →
        (Text.normalSet form.agreements = [] →
          (signup r form).run s = pure (.error (Fault.fresh "missing_consent" "agreements are required"),
            { s with auth := s.auth.recordConsent form.agreements })) ∧
        (Text.normalSet form.agreements ≠ [] →
          ∃ settle : Except Fault TokenResult × Remote.Client → Except Fault User × Session,
            (signup r form).run s =
              settle <$> s.client.signup (remoteEnv r s r.gaveUp) (signupRequest i form) ∧
            ∀ got e, (settle got).1 = .error e →
              (settle got).2 = { s with auth := s.auth.recordConsent form.agreements, client := got.2 })) := by
  refine ⟨fun hbad => ?_, fun he hp => ?_, fun hnone => ?_, fun i hi => ⟨fun hbad => ?_, fun he hn => ?_⟩⟩
  · rw [run_login, if_pos ((either_empty_iff _ _).mpr hbad)]
  · have hcheck : ¬ ((Text.trim email).isEmpty || password.isEmpty) = true :=
      fun h => ((either_empty_iff _ _).mp h).elim he hp
    rw [run_login, if_neg hcheck]
    exact ⟨_, rfl, fun got _ h => settleGrant_error h⟩
  · rw [run_signup, hnone]
  · rw [run_signup, hi]
    exact if_pos ((either_empty_iff _ _).mpr hbad)
  · have hcheck : ¬ ((Text.trim form.email).isEmpty || (Text.trim form.displayName).isEmpty) = true :=
      fun h => ((either_empty_iff _ _).mp h).elim he hn
    rw [run_signup, hi]
    dsimp only
    rw [if_neg hcheck]
    refine ⟨fun hnil => ?_, fun hne => ?_⟩
    · rw [if_pos (by simp [hnil])]
      rfl
    · rw [if_neg (by simpa using hne)]
      exact ⟨_, rfl, fun got _ h => settleGrant_error h⟩

def unreachable : Reach Id :=
  ⟨⟨fun _ => pure (.error (.kind .unavailable)), pure 0⟩, pure 0, pure none, "", fun _ => pure ()⟩

theorem login_failures_keep_session :
    let s := Session.new "bs-1" "" 0 (Remote.Client.new "http://api.test" none) .standard "/chat"
    let out := (login unreachable "a@b" "secret").run s
    (login unreachable " " "secret").run s =
        pure (.error (Fault.fresh "invalid_input" "email and password are required"), s) ∧
      out.1.isOk = false ∧ out.2 = { s with client := out.2.client } := by
  intro s out
  refine ⟨(failed_sign_in_keeps_session unreachable s " " "secret" ⟨"", "", []⟩).1
    (Or.inl (by decide)), ?_⟩
  obtain ⟨settle, hrun, hkeep⟩ :=
    (failed_sign_in_keeps_session unreachable s "a@b" "secret" ⟨"", "", []⟩).2.1
      (by decide) (by decide)
  -- the service cannot be reached, so the login past the checks fails
  have hfail : out.1.isOk = false := by decide
  obtain ⟨e, he⟩ : ∃ e, out.1 = .error e := by
    cases h : out.1 with
    | error e => exact ⟨e, rfl⟩
    | ok u =>
      rw [h] at hfail
      cases hfail
  have hout : out = settle (s.client.login (remoteEnv unreachable s unreachable.gaveUp) "a@b" "secret") :=
    hrun
  refine ⟨hfail, ?_⟩
  rw [hout] at he ⊢
  rw [hkeep _ e he]

end Vestibule.Session

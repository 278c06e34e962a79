import Mathlib.Data.List.Induction
import Vestibule.Auth.State

/-!
Histories of sign-in transitions. The standing a history leaves is the one named by its last
transition other than a consent, and the consent items are those of its last consent after its
last sign-out: each transition overwrites what it names and keeps the rest.
-/

namespace Vestibule.Auth

open Vestibule.Json

inductive Transition where
  | oauthSuccess (u : User)
  | login (u : User)
  | signupComplete (u : User)
  | oauthContinue (p : PendingIdentity)
  | consent (items : List String)
  | logout
  deriving DecidableEq

namespace Transition

def apply : Transition → State → State
  | oauthSuccess u, s => s.authenticate u
  | login u, s => s.authenticate u
  | signupComplete u, s => s.authenticate u
  | oauthContinue p, s => s.awaitSignup p
  | consent items, s => s.recordConsent items
  | logout, s => s.logout

def isConsent : Transition → Bool
  | consent _ => true
  | _ => false

def items? : Transition → Option (List String)
  | consent items => some items
  | _ => none

/-- The signed-in flag, user and pending identity that a transition other than a consent
leaves; no transition at all leaves the anonymous ones. -/
def view : Option Transition → Bool × Option User × Option PendingIdentity
  | some (oauthSuccess u) => (true, some u, none)
  | some (login u) => (true, some u, none)
  | some (signupComplete u) => (true, some u, none)
  | some (oauthContinue p) => (false, none, some p)
  | _ => (false, none, none)

end Transition

def replay (ts : List Transition) : State := ts.foldl (fun s t => t.apply s) State.initial

def lastStanding (ts : List Transition) : Option Transition :=
  ts.reverse.find? (!·.isConsent)

def lastConsent (ts : List Transition) : Option (List String) :=
  (ts.reverse.takeWhile (· ≠ .logout)).findSome? Transition.items?

namespace State

def view (s : State) : Bool × Option User × Option PendingIdentity :=
  (s.isAuthenticated, s.user?, s.pending?)

@[simp] theorem view_authenticate (u : User) (s : State) :
    (s.authenticate u).view = (true, some u, none) := rfl

@[simp] theorem view_awaitSignup (p : PendingIdentity) (s : State) :
    (s.awaitSignup p).view = (false, none, some p) := rfl

@[simp] theorem view_recordConsent (items : List String) (s : State) :
    (s.recordConsent items).view = s.view := rfl

@[simp] theorem view_logout (s : State) : s.logout.view = (false, none, none) := rfl

@[simp] theorem view_initial : initial.view = (false, none, none) := rfl

@[simp] theorem consent_authenticate (u : User) (s : State) :
    (s.authenticate u).consent = s.consent := rfl

@[simp] theorem consent_awaitSignup (p : PendingIdentity) (s : State) :
    (s.awaitSignup p).consent = s.consent := rfl

@[simp] theorem consent_recordConsent (items : List String) (s : State) :
    (s.recordConsent items).consent = Text.normalSet items := rfl

@[simp] theorem consent_logout (s : State) : s.logout.consent = [] := rfl

end State

theorem replay_concat (ts : List Transition) (t : Transition) :
    replay (ts ++ [t]) = t.apply (replay ts) := by
  simp [replay]

theorem lastStanding_concat (ts : List Transition) (t : Transition) :
    lastStanding (ts ++ [t]) = if t.isConsent then lastStanding ts else some t := by
  cases h : t.isConsent <;> simp [lastStanding, h]

theorem lastConsent_concat (ts : List Transition) (t : Transition) :
    lastConsent (ts ++ [t]) =
      if t = .logout then none else (t.items?).or (lastConsent ts) := by
  by_cases h : t = .logout
  · simp [lastConsent, h]
  · simp [lastConsent, h, List.findSome?_cons]
    cases t.items? <;> rfl

theorem view_apply (t : Transition) (s : State) :
    (t.apply s).view = if t.isConsent then s.view else Transition.view (some t) := by
  cases t <;> rfl

theorem consent_apply (t : Transition) (s : State) :
    (t.apply s).consent =
      if t = .logout then [] else ((t.items?).map Text.normalSet).getD s.consent := by
  cases t <;> simp [Transition.apply, Transition.items?]

theorem view_replay (ts : List Transition) :
    (replay ts).view = Transition.view (lastStanding ts) := by
  induction ts using List.reverseRecOn with
  | nil => rfl
  | append_singleton ts t ih =>
    rw [replay_concat, view_apply, lastStanding_concat, ih]
    split <;> rfl

theorem consent_replay (ts : List Transition) :
    (replay ts).consent = ((lastConsent ts).map Text.normalSet).getD [] := by
  induction ts using List.reverseRecOn with
  | nil => rfl
  | append_singleton ts t ih =>
    rw [replay_concat, consent_apply, lastConsent_concat, ih]
    split
    · rfl
    · cases t.items? <;> rfl

theorem apply_idem (t : Transition) (s : State) : t.apply (t.apply s) = t.apply s := by
  cases t <;> rfl

theorem lastStanding_isConsent {ts : List Transition} {t : Transition}
    (h : lastStanding ts = some t) : t.isConsent = false := by
  simpa using List.find?_some h

theorem status_eq_of_view {s : State} {b : Bool} {u : Option User} {p : Option PendingIdentity}
    (h : s.view = (b, u, p)) :
    s.status = if b then "authenticated" else if p.isSome then "pending_signup" else "anonymous" := by
  obtain ⟨standing, consent⟩ := s
  cases standing <;> simp only [State.view, State.isAuthenticated, State.user?, State.pending?,
    Option.isSome_some, Option.isSome_none, Prod.mk.injEq] at h <;>
    obtain ⟨rfl, rfl, rfl⟩ := h <;> rfl

theorem standing_facts {s : State} {o : Option Transition} (h : s.view = Transition.view o)
    (ho : ∀ t ∈ o, t.isConsent = false) :
    (s.isAuthenticated = true ↔ s.user?.isSome) ∧
      (s.pending?.isSome → s.isAuthenticated = false) ∧
      (s.status = "authenticated" ↔
        ∃ u, o ∈ [some (.oauthSuccess u), some (.login u), some (.signupComplete u)]) ∧
      (s.status = "pending_signup" ↔ ∃ p, o = some (.oauthContinue p)) ∧
      (s.status = "anonymous" ↔ o = none ∨ o = some .logout) := by
  rw [status_eq_of_view h]
  rcases o with _ | t
  · simp only [Transition.view, State.view, Prod.mk.injEq] at h
    simp [h.1, h.2.1, h.2.2]
  · have hc := ho t rfl
    cases t <;> simp only [Transition.view, State.view, Prod.mk.injEq] at h <;>
      simp_all [Transition.isConsent]

theorem consent_member (s : State) :
    s.members.lookup "consent" = some (.array (s.consent.map .string)) := by
  unfold State.members
  cases s.user? <;> cases s.pending? <;> simp [List.lookup_cons]

theorem replay_last_writer_wins (ts : List Transition) :
    (replay ts).view = Transition.view (lastStanding ts) ∧
      (replay ts).consent = ((lastConsent ts).map Text.normalSet).getD [] ∧
      ((replay ts).isAuthenticated = true ↔ (replay ts).user?.isSome) ∧
      ((replay ts).pending?.isSome → (replay ts).isAuthenticated = false) ∧
      ((replay ts).status = "authenticated" ↔ ∃ u, lastStanding ts ∈
        [some (.oauthSuccess u), some (.login u), some (.signupComplete u)]) ∧
      ((replay ts).status = "pending_signup" ↔ ∃ p, lastStanding ts = some (.oauthContinue p)) ∧
      ((replay ts).status = "anonymous" ↔ lastStanding ts = none ∨ lastStanding ts = some .logout) ∧
      (replay ts).members.lookup "consent" = some (.array ((replay ts).consent.map .string)) ∧
      ∀ (t : Transition) (s : State), t.apply (t.apply s) = t.apply s := by
  have hv := view_replay ts
  obtain ⟨hauth, hpend, hsa, hsp, hsn⟩ :=
    standing_facts hv (fun _ ht => lastStanding_isConsent ht)
  exact ⟨hv, consent_replay ts, hauth, hpend, hsa, hsp, hsn, consent_member _, apply_idem⟩

end Vestibule.Auth

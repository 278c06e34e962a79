import Vestibule.Proofs.QuietRemote

/-!
The kind of every remote failure.

Five kinds tell remote failures apart: a missing thing, a missing sign-in, an unavailable service,
an unreadable answer and a refused state. A call is split into what became of it, its outcome,
and the settlement of that outcome into a failure or a value. Each outcome gives its failure a
kind: an open breaker and a failed transfer an unavailable service, a missing credential a
missing sign-in, an answer outside success the kind its status stands for, with the status, and
an unreadable successful answer, or a balance without a value, an unreadable answer. A transfer
the caller gave up on fails with the caller's reason alone under the call's name.

In a world whose wire fails plainly, whose callers give up for plain reasons and whose credential
store can always be read, every call to an address that can be built has one of these outcomes,
so each of its failures is of the kind its cause gives it.
-/

namespace Vestibule

def Kind.classifying : List Kind := [.notFound, .unauthorized, .unavailable, .malformed, .invalidState]

def Fault.classes (e : Fault) : List Kind := Kind.classifying.filter e.isKind

/-- A failure of no classifying kind that carries no status: how the wire fails, and why a
caller gives up. -/
def Fault.Plain (e : Fault) : Prop := e.classes = [] ∧ e.remoteStatus = none

namespace Fault

@[simp] theorem classes_wrap (c : String) (e : Fault) : (wrap c e).classes = e.classes := rfl

@[simp] theorem classes_status (n : Nat) (msg : String) (k : Kind) :
    (status n msg k).classes = (kind k).classes := rfl

theorem classes_kind {k : Kind} (hk : k ∈ Kind.classifying) : (kind k).classes = [k] := by
  simp only [Kind.classifying, List.mem_cons, List.not_mem_nil, or_false] at hk
  rcases hk with rfl | rfl | rfl | rfl | rfl <;> rfl

theorem classes_wrapBoth_of_plain (c : String) (a : Fault) {b : Fault} (hb : b.classes = []) :
    (wrapBoth c a b).classes = a.classes := by
  have hnone : ∀ j ∈ Kind.classifying, b.isKind j = false := by
    intro j hj
    simpa using List.filter_eq_nil_iff.mp hb j hj
  simp only [classes, isKind]
  apply List.filter_congr
  intro j hj
  simp [hnone j hj]

@[simp] theorem plain_text (msg : String) : (text msg).Plain := ⟨rfl, rfl⟩

end Fault

end Vestibule

namespace Vestibule.Remote

open Vestibule.Json Vestibule.Web

theorem statusKind_classifying (n : Nat) : statusKind n ∈ Kind.classifying := by
  unfold statusKind
  split_ifs <;> simp [Kind.classifying]

/-- What became of one call: refused by the open breaker of that name, stopped before it was
sent, failed on its way (with the caller's reason if it had given up), or answered after the
redirects the client followed. -/
inductive Outcome where
  | refused (breaker : String)
  | unbuildable (msg : String)
  | noSource
  | unreadable (e : Fault)
  | noCredential
  | failed (transfer : Fault) (gaveUp : Option Fault)
  | answered (resp : Response)

def balanceEndpoint : Endpoint := ⟨"GET", "/points/balance", none, true⟩

namespace Outcome

/-- How a call to `ep` ends on an outcome: with the failure the client gives it, or with what
`read` makes of a successful answer. -/
def settle {α : Type} (o : Outcome) (ep : Endpoint) (read : List UInt8 → Except String α) :
    Except Fault α :=
  let name := ep.method ++ " " ++ ep.path
  match o with
  | .refused b => .error (.wrap (name ++ ": circuit " ++ b ++ " open") (.kind .unavailable))
  | .unbuildable msg => .error (.wrap ("build " ++ name) (.text msg))
  | .noSource => .error (.wrap "no credential source" (.kind .unauthorized))
  | .unreadable e => .error (.wrap "read credential" e)
  | .noCredential => .error (.wrap "no credential" (.kind .unauthorized))
  | .failed _ (some why) => .error (.wrap name why)
  | .failed e none => .error (.wrapBoth name (.kind .unavailable) e)
  | .answered resp =>
    let body := Text.Utf8.encode resp.body
    if resp.status < 200 || resp.status ≥ 300 then
      .error (.wrap name (.status resp.status (errorMessage body) (statusKind resp.status)))
    else
      match read body with
      | .ok x => .ok x
      | .error msg => .error (.wrapBoth ("decode " ++ name) (.kind .malformed) (.text msg))

/-- How the balance call ends on an outcome. -/
def balance (o : Outcome) : Except Fault Int :=
  match o.settle balanceEndpoint (decodeInto balanceLayout none) with
  | .error e => .error e
  | .ok none => .error missingBalance
  | .ok (some v) => .ok v

/-- An outcome a plain world gives a call whose address can be built: the address is built, the
credential store is read, and a failed transfer fails, and is given up on, plainly. -/
def Plain : Outcome → Prop
  | .unbuildable _ | .unreadable _ => False
  | .failed t why => t.Plain ∧ ∀ e, why = some e → e.Plain
  | .refused _ | .noSource | .noCredential | .answered _ => True

/-- The failure each outcome of a call to `ep` stands for: an open breaker or a failed transfer
is an unavailable service, a missing credential a missing sign-in, an answer outside success the
kind its status stands for, with that status and the service's message, and any other answer an
unreadable one. A transfer the caller gave up on fails with the caller's reason alone. -/
def Classified (ep : Endpoint) : Outcome → Fault → Prop
  | .refused _, e | .failed _ none, e => e.classes = [.unavailable] ∧ e.remoteStatus = none
  | .noSource, e | .noCredential, e => e.classes = [.unauthorized] ∧ e.remoteStatus = none
  | .failed _ (some why), e =>
    e = .wrap (ep.method ++ " " ++ ep.path) why ∧ e.classes = [] ∧ e.remoteStatus = none
  | .answered resp, e =>
    if resp.status < 200 ∨ 300 ≤ resp.status then
      e.classes = [statusKind resp.status] ∧
        e.remoteStatus = some (resp.status, errorMessage (Text.Utf8.encode resp.body))
    else e.classes = [.malformed] ∧ e.remoteStatus = none
  | .unbuildable _, _ | .unreadable _, _ => False

theorem settle_classified {α : Type} (ep : Endpoint) (read : List UInt8 → Except String α)
    {o : Outcome} (ho : o.Plain) : FailsWith (o.Classified ep) (o.settle ep read) := by
  cases o with
  | refused b | noSource | noCredential =>
    simp only [settle, Classified, failsWith_error, Fault.classes_wrap]
    exact ⟨by decide, rfl⟩
  | unbuildable msg | unreadable e => exact ho.elim
  | failed t why =>
    cases why with
    | some why =>
      -- the caller's reason is plain, so the failure is of no kind and carries no status
      simp only [settle, Classified, failsWith_error, Fault.classes_wrap, true_and]
      exact ho.2 why rfl
    | none =>
      simp only [settle, Classified, failsWith_error]
      refine ⟨?_, by simp [Fault.remoteStatus, ho.1.2]⟩
      rw [Fault.classes_wrapBoth_of_plain _ _ ho.1.1]
      decide
  | answered resp =>
    simp only [settle, Bool.or_eq_true, decide_eq_true_eq, ge_iff_le]
    by_cases hs : resp.status < 200 ∨ 300 ≤ resp.status
    · simp only [hs, if_true, failsWith_error, Classified]
      rw [Fault.classes_wrap, Fault.classes_status, Fault.classes_kind (statusKind_classifying _)]
      exact ⟨rfl, rfl⟩
    · simp only [hs, if_false]
      split
      · exact failsWith_ok _ _
      · simp only [failsWith_error, Classified, hs, if_false]
        rw [Fault.classes_wrapBoth_of_plain _ _ rfl]
        exact ⟨by decide, rfl⟩

theorem eq_answered_of_settle_eq_ok {α : Type} {ep : Endpoint}
    {read : List UInt8 → Except String α} {o : Outcome} {x : α} (h : o.settle ep read = .ok x) :
    ∃ resp, o = .answered resp ∧ ¬(resp.status < 200 ∨ 300 ≤ resp.status) ∧
      read (Text.Utf8.encode resp.body) = .ok x := by
  cases o with
  | failed t why => cases why <;> simp [settle] at h
  | answered resp =>
    simp only [settle] at h
    split_ifs at h with hb
    refine ⟨resp, rfl, by simpa using hb, ?_⟩
    split at h <;> simp_all
  | _ => simp [settle] at h

theorem balance_classified {o : Outcome} (ho : o.Plain) :
    FailsWith (o.Classified balanceEndpoint) o.balance := by
  have hsettle := settle_classified balanceEndpoint (decodeInto balanceLayout none) ho
  unfold balance
  split
  · rename_i e he
    exact (failsWith_error _ _).mpr (hsettle e he)
  · rename_i hnone
    -- a read answer is a success, and one without a value is unreadable
    obtain ⟨resp, rfl, hs, -⟩ := eq_answered_of_settle_eq_ok hnone
    simp only [failsWith_error, Classified, if_neg hs, missingBalance, Fault.classes_wrap]
    exact ⟨by decide, rfl⟩
  · exact failsWith_ok _ _

end Outcome

variable {m : Type → Type} [Monad m]

/-- What becomes of a call sent without the breaker, and the client after it: the effects of
`Client.send`, whose result is this outcome settled. -/
def Client.observe (c : Client) (env : Env m) (ep : Endpoint) : m (Outcome × Client) := do
  match Url.read (ascii (c.base ++ ep.path)) with
  | .error msg => return (.unbuildable msg, c)
  | .ok url =>
    let req : Request := ⟨ep.method, dropEmptyPort url, ep.headers env.requestId,
      ep.body.map Style.body.render⟩
    let authorized ← if !ep.guarded then pure (Except.ok req) else
      match env.credential with
      | none => pure (.error .noSource)
      | some readCredential => do
        match ← readCredential with
        | .error e => pure (.error (.unreadable e))
        | .ok none => pure (.error .noCredential)
        | .ok (some cred) =>
          pure (.ok { req with headers := req.headers.set "Authorization" ("Bearer " ++ cred) })
    match authorized with
    | .error o => return (o, c)
    | .ok req =>
      let (got, jar) ← fetch env.wire c.jar req
      let c := { c with jar := jar }
      match got with
      | .error e => return (.failed e (← env.gaveUp), c)
      | .ok resp => return (.answered resp, c)

/-- What becomes of a call through the breaker, if there is one, and the client after it: the
effects of `Client.call`, whose result is this outcome settled. -/
def Client.callOutcome {α : Type} (c : Client) (env : Env m) (ep : Endpoint)
    (read : List UInt8 → Except String α) : m (Outcome × Client) := do
  match c.breaker with
  | none => c.observe env ep
  | some b =>
    let now ← env.clock
    let (ok, b) := b.allow now
    let c := { c with breaker := some b }
    if !ok then
      return (.refused b.config.name, c)
    let (o, c) ← c.observe env ep
    let b := c.breaker.getD b
    let now ← env.clock
    let b ← match o.settle ep read with
      | .ok _ => pure b.recordSuccess.2
      | .error e =>
        if e.isKind .unavailable then pure (b.recordFailure now).2
        else do
          match ← env.gaveUp with
          | none => pure b.recordSuccess.2
          | some _ => pure b
    return (o, { c with breaker := some b })

variable [LawfulMonad m] {α : Type}

theorem send_eq_observe (c : Client) (env : Env m) (ep : Endpoint)
    (read : List UInt8 → Except String α) :
    c.send env ep read = (fun p => (p.1.settle ep read, p.2)) <$> c.observe env ep := by
  unfold Client.send Client.observe
  cases Url.read (ascii (c.base ++ ep.path)) with
  | error msg => simp [Outcome.settle]
  | ok url =>
    dsimp only
    -- split on how the request is authorized; the cases that send it share the transfer
    cases hg : ep.guarded
    case' true =>
      cases env.credential
      case' none => simp [Outcome.settle]
      case' some readCredential =>
        simp only [Bool.not_true, Bool.false_eq_true, if_false, map_bind]
        refine bind_congr fun got => ?_
        rcases got with e | _ | cred
        case' error => simp [Outcome.settle]
        case' ok.none => simp [Outcome.settle]
    all_goals
      simp only [Bool.not_false, if_true, pure_bind, map_bind]
      refine bind_congr fun got => ?_
      rcases got with ⟨e | resp, jar⟩
      · simp only [map_bind, map_pure]
        refine bind_congr fun why => ?_
        cases why <;> rfl
      · simp only [map_pure, Outcome.settle]
        split_ifs
        · rfl
        · cases read (Text.Utf8.encode resp.body) <;> rfl

theorem call_eq_callOutcome (c : Client) (env : Env m) (ep : Endpoint)
    (read : List UInt8 → Except String α) :
    c.call env ep read = (fun p => (p.1.settle ep read, p.2)) <$> c.callOutcome env ep read := by
  unfold Client.call Client.callOutcome
  obtain ⟨base, _ | b, jar⟩ := c
  · exact send_eq_observe _ env ep read
  simp only [map_bind]
  refine bind_congr fun now => ?_
  split
  · simp [Outcome.settle]
  -- the breaker's bookkeeping reads the settled outcome, exactly as it reads the call's result
  rw [send_eq_observe, bind_map_left, map_bind]
  refine bind_congr fun p => ?_
  simp only [map_bind]
  refine bind_congr fun now' => ?_
  cases hs : p.1.settle ep read with
  | ok x => simp [hs]
  | error e =>
    dsimp only
    split_ifs
    · simp [hs]
    simp only [map_bind]
    refine bind_congr fun why => ?_
    cases why <;> simp [hs]

theorem balance_eq_callOutcome (c : Client) (env : Env m) :
    c.balance env = (fun p => (p.1.balance, p.2)) <$>
      c.callOutcome env balanceEndpoint (decodeInto balanceLayout none) := by
  unfold Client.balance
  rw [call_eq_callOutcome, bind_map_left, map_eq_bind_pure_comp]
  refine bind_congr fun p => ?_
  simp only [Function.comp, Outcome.balance, balanceEndpoint]
  rcases p.1.settle ⟨"GET", "/points/balance", none, true⟩ (decodeInto balanceLayout none)
    with e | _ | v <;> rfl

/-- An outside whose own failures are plain: the wire fails plainly, a caller gives up for plain
reasons, and the credential can always be read. -/
structure Env.Plain (env : Env m) : Prop where
  wire : ∀ req, SatisfiesM (FailsWith Fault.Plain) (env.wire.send req)
  gaveUp : SatisfiesM (fun r => ∀ e, r = some e → e.Plain) env.gaveUp
  credential : ∀ read ∈ env.credential, SatisfiesM (fun r => ∃ x, r = .ok x) read

def Client.Builds (c : Client) (path : String) : Prop := (Url.read (ascii (c.base ++ path))).isOk = true

theorem plain_carried : Carried Fault.Plain := ⟨Fault.plain_text, fun _ _ _ h => h⟩

variable {env : Env m}

theorem observe_plain (henv : env.Plain) (c : Client) (ep : Endpoint) (hurl : c.Builds ep.path) :
    SatisfiesM (fun p => p.1.Plain) (c.observe env ep) := by
  unfold Client.observe
  cases hu : Url.read (ascii (c.base ++ ep.path)) with
  | error msg =>
    rw [Client.Builds, hu] at hurl
    cases hurl
  | ok u => ?_
  dsimp only
  simp only [pure_bind]
  split
  case' isFalse =>
    split
    case' h_1 => exact SatisfiesM.pure trivial
    case' h_2 readCredential hcr =>
      apply SatisfiesM.bind (henv.credential readCredential (by simp [hcr]))
      rintro got ⟨x, rfl⟩
      cases x
      case' none => exact SatisfiesM.pure trivial
      dsimp only
  -- however it was authorized, the request is carried the same way
  all_goals
    apply SatisfiesM.bind (fetch_failsWith plain_carried henv.wire _ _)
    intro got hgot
    split
    · rename_i e he
      apply SatisfiesM.bind henv.gaveUp
      intro why hwhy
      exact SatisfiesM.pure ⟨hgot e he, hwhy⟩
    · exact SatisfiesM.pure trivial

theorem callOutcome_plain (henv : env.Plain) (c : Client) (ep : Endpoint)
    (read : List UInt8 → Except String α) (hurl : c.Builds ep.path) :
    SatisfiesM (fun p => p.1.Plain) (c.callOutcome env ep read) := by
  unfold Client.callOutcome
  split
  · exact observe_plain henv c ep hurl
  -- the breaker either refuses the call or passes its outcome on, whatever it records
  apply SatisfiesM.bind SatisfiesM.trivial
  intro now _
  dsimp only
  split
  · exact SatisfiesM.pure trivial
  apply SatisfiesM.bind (observe_plain henv _ ep (by exact hurl))
  rintro ⟨o, c⟩ ho
  apply SatisfiesM.bind SatisfiesM.trivial
  intro now' _
  simp only [pure_bind]
  split
  · exact SatisfiesM.pure ho
  split
  · exact SatisfiesM.pure ho
  apply SatisfiesM.bind SatisfiesM.trivial
  intro why _
  split <;> exact SatisfiesM.pure ho

/-- Every failure of a remote call is of the kind its cause gives it. A call is its outcome
settled; in a plain world every outcome of a call to an address that can be built classifies
the failure it settles into, and so does the balance's, whose answer without a value is
unreadable. -/
theorem remote_failures_classified (henv : env.Plain) (c : Client) :
    (∀ {α : Type} (ep : Endpoint) (read : List UInt8 → Except String α),
      c.call env ep read = (fun p => (p.1.settle ep read, p.2)) <$> c.callOutcome env ep read ∧
      (c.Builds ep.path → SatisfiesM (fun p => FailsWith (p.1.Classified ep) (p.1.settle ep read))
        (c.callOutcome env ep read))) ∧
    c.balance env = (fun p => (p.1.balance, p.2)) <$>
      c.callOutcome env balanceEndpoint (decodeInto balanceLayout none) ∧
    (c.Builds balanceEndpoint.path →
      SatisfiesM (fun p => FailsWith (p.1.Classified balanceEndpoint) p.1.balance)
        (c.callOutcome env balanceEndpoint (decodeInto balanceLayout none))) := by
  refine ⟨fun ep read => ⟨call_eq_callOutcome c env ep read, fun hurl => ?_⟩,
    balance_eq_callOutcome c env, fun hurl => ?_⟩
  · exact (callOutcome_plain henv c ep read hurl).imp (Outcome.settle_classified ep read)
  · exact (callOutcome_plain henv c _ _ hurl).imp Outcome.balance_classified

def cancelledEnv : Env Id :=
  ⟨⟨fun _ => pure (.error (.kind .canceled)), pure 0⟩, pure 0, pure (some (.kind .canceled)),
    some (pure (.ok (some "tok"))), ""⟩

theorem cancelledEnv_plain : cancelledEnv.Plain where
  wire _ := SatisfiesM.pure ((failsWith_error _ _).mpr ⟨rfl, rfl⟩)
  gaveUp := SatisfiesM.pure (by rintro e ⟨⟩; exact ⟨rfl, rfl⟩)
  credential _ h := by
    cases h
    exact SatisfiesM.pure ⟨_, rfl⟩

theorem cancelled_balance_classified :
    SatisfiesM (fun p => FailsWith (p.1.Classified balanceEndpoint) p.1.balance)
      ((⟨"http://api.test", none, Jar.empty⟩ : Client).callOutcome cancelledEnv balanceEndpoint
        (decodeInto balanceLayout none)) :=
  (remote_failures_classified cancelledEnv_plain ⟨"http://api.test", none, Jar.empty⟩).2.2
    (by unfold Client.Builds; decide)

end Vestibule.Remote

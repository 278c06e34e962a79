import Vestibule.Proofs.HandoffReturn

/-!
The hand-off slot serves one page. A page that asks for a room by a blank id is refused before
the slot or the chat service is touched. Any other request empties the slot, whatever it held:
the room comes from the slot, with no call at all, exactly when the slot held that very room, and
otherwise the chat service is asked once, for the trimmed id. Opening a room asks the chat
service only for a positive counterpart and fills the slot exactly when it answers with the
room's page; every failure leaves the slot as it was.

The flows run here against a chat service that answers as scripted and notes each call it
receives, so the statements speak of the calls made, in order. Each flow makes at most one call,
so every answer the service may give is a script.
-/

namespace Vestibule.Handoff

/-- A call of the chat service. -/
inductive Call where
  | createSession (counterpart : Int)
  | chatSession (id : List UInt8)
  deriving DecidableEq

/-- A chat service answering as scripted, noting each call it receives. -/
def Api.scripted (created : Int → Except Fault Record) (loaded : List UInt8 → Except Fault Record) :
    Api (StateM (List Call)) where
  createSession n := do
    modify (· ++ [.createSession n])
    return created n
  chatSession id := do
    modify (· ++ [.chatSession id])
    return loaded id

def Api.runScripted {α : Type} (x : StateM (List Call) α) : α × List Call := (x.run []).run

def loadedAnswer (got : Except Fault Record) : Except Fault (Record × Source) :=
  match got with
  | .error e => .error (translate e "failed to load chat session")
  | .ok r => .ok (r, .remote)

section Resolve

variable {m : Type → Type} [Monad m] (api : Api m) {p : List UInt8}

theorem resolve_blank (slot : Slot) (h : Text.trimOctets p = []) :
    resolve api p slot = pure (.error (Fault.fresh "invalid_input" "session id required"), slot) := by
  simp [resolve, h]

theorem resolve_empty (hp : Text.trimOctets p ≠ []) :
    resolve api p ⟨none⟩ = resolve.fetch api (Text.trimOctets p) Slot.empty := by
  have hne : (Text.trimOctets p).isEmpty = false := List.isEmpty_eq_false_iff.mpr hp
  simp [resolve, hne, Slot.take]

theorem resolve_nonblank (slot : Slot) (hp : Text.trimOctets p ≠ []) :
    resolve api p slot =
      match slot.held with
      | some r =>
        if Text.Utf8.encode r.sessionId = Text.trimOctets p then pure (.ok (r, .handoff), Slot.empty)
        else resolve.fetch api (Text.trimOctets p) Slot.empty
      | none => resolve.fetch api (Text.trimOctets p) Slot.empty := by
  rcases slot with ⟨_ | r⟩
  · exact resolve_empty api hp
  · exact resolve_written api r ⟨none⟩ hp

end Resolve

section Scripted

variable (created : Int → Except Fault Record) (loaded : List UInt8 → Except Fault Record)

theorem run_fetch (id : List UInt8) (slot : Slot) (calls : List Call) :
    (resolve.fetch (Api.scripted created loaded) id slot).run calls =
      ((loadedAnswer (loaded id), slot), calls ++ [.chatSession id]) := by
  simp only [resolve.fetch, Api.scripted, bind_assoc, pure_bind]
  cases loaded id <;> rfl

theorem run_createSession {α : Type} (x : Except Fault Record → StateM (List Call) α)
    (n : Int) (calls : List Call) :
    ((Api.scripted created loaded).createSession n >>= x).run calls =
      (x (created n)).run (calls ++ [.createSession n]) := by
  simp [Api.scripted]

theorem runScripted_pure {α : Type} (a : α) :
    Api.runScripted (pure a : StateM (List Call) α) = (a, []) := rfl

theorem found_by_script (slot : Slot) (p : List UInt8) :
    let found := Api.runScripted (resolve (Api.scripted created loaded) p slot)
    let id := Text.trimOctets p
    (id = [] → found = ((.error (Fault.fresh "invalid_input" "session id required"), slot), [])) ∧
    (id ≠ [] → found.1.2 = Slot.empty ∧
      (∀ r, (found.1.1 = .ok (r, .handoff) ∧ found.2 = []) ↔
        (slot.held = some r ∧ Text.Utf8.encode r.sessionId = id)) ∧
      ((∀ r, slot.held = some r → Text.Utf8.encode r.sessionId ≠ id) →
        found.2 = [.chatSession id] ∧ found.1.1 = loadedAnswer (loaded id))) := by
  refine ⟨fun hp => by rw [resolve_blank _ slot hp]; rfl, fun hp => ?_⟩
  have hfetch : Api.runScripted (resolve.fetch (Api.scripted created loaded) (Text.trimOctets p)
      Slot.empty) = ((loadedAnswer (loaded (Text.trimOctets p)), Slot.empty),
        [.chatSession (Text.trimOctets p)]) := by
    simp only [Api.runScripted, run_fetch, List.nil_append]
    rfl
  rw [resolve_nonblank _ slot hp]
  rcases slot with ⟨_ | held⟩
  · -- an empty slot: the chat service is asked
    dsimp only
    rw [hfetch]
    simp
  · by_cases hid : Text.Utf8.encode held.sessionId = Text.trimOctets p
    · -- the slot holds the room asked for: it is handed over with no call
      dsimp only
      rw [if_pos hid, runScripted_pure]
      refine ⟨rfl, fun r => ?_, fun hmiss => absurd hid (hmiss held rfl)⟩
      simp only [Except.ok.injEq, Prod.mk.injEq, and_true, Option.some.injEq]
      constructor
      · rintro rfl
        exact ⟨rfl, hid⟩
      · rintro ⟨rfl, -⟩
        rfl
    · -- the slot holds another room: it is dropped and the chat service is asked
      dsimp only
      rw [if_neg hid, hfetch]
      refine ⟨rfl, fun r => ?_, fun _ => ⟨rfl, rfl⟩⟩
      simp only [List.cons_ne_nil, and_false, false_iff, not_and, Option.some.injEq]
      rintro rfl
      exact hid

theorem opened_by_script (chatRoute : String) (slot : Slot) (n : Int) :
    let opened := Api.runScripted (select (Api.scripted created loaded) chatRoute n slot)
    opened.2 = (if 0 < n then [.createSession n] else []) ∧
    (∀ page, opened.1.1 = .ok page → ∃ r, created n = .ok r ∧ r.isZero = false ∧
      opened.1.2 = slot.write (r.forCounterpart n) ∧ page = destination chatRoute r.sessionId) ∧
    (∀ e, opened.1.1 = .error e → opened.1.2 = slot) := by
  by_cases hn : 0 < n
  · -- past the check, the one answer of the chat service decides the rest
    have hno : ¬ n ≤ 0 := by omega
    dsimp only [Api.runScripted]
    rw [select_answered _ _ hn, run_createSession, List.nil_append, if_pos hn]
    cases hc : created n with
    | error e => simp [select, Api.answered, hno]
    | ok r =>
      cases hz : r.isZero with
      | true => simp [select, Api.answered, hno, hz]
      | false =>
        rw [select_answered_room hn r hz]
        simp [forCounterpart_sessionId, hz]
  · have hle : n ≤ 0 := by omega
    simp [select, hle, Api.runScripted, hn]

end Scripted

/-- The slot serves one page. Against any scripted chat service and from any slot: a page that
asks by a blank id is refused with nothing called and the slot as it was; any other page empties
the slot, gets the slot's room with no call exactly when the slot held the room of the trimmed id,
and otherwise gets what one call of the chat service for the trimmed id loaded. Opening a room
calls the chat service once for a positive counterpart and never otherwise; it answers with a
page exactly when the slot now holds the room the service created, and a failed opening leaves
the slot as it was. -/
theorem slot_serves_one_page (created : Int → Except Fault Record)
    (loaded : List UInt8 → Except Fault Record) (chatRoute : String) (slot : Slot)
    (p : List UInt8) (n : Int) :
    let api := Api.scripted created loaded
    let id := Text.trimOctets p
    let found := Api.runScripted (resolve api p slot)
    let opened := Api.runScripted (select api chatRoute n slot)
    (id = [] → found = ((.error (Fault.fresh "invalid_input" "session id required"), slot), [])) ∧
    (id ≠ [] → found.1.2 = Slot.empty ∧
      (∀ r, (found.1.1 = .ok (r, .handoff) ∧ found.2 = []) ↔
        (slot.held = some r ∧ Text.Utf8.encode r.sessionId = id)) ∧
      ((∀ r, slot.held = some r → Text.Utf8.encode r.sessionId ≠ id) →
        found.2 = [.chatSession id] ∧ found.1.1 = loadedAnswer (loaded id))) ∧
    opened.2 = (if 0 < n then [.createSession n] else []) ∧
    (∀ page, opened.1.1 = .ok page → ∃ r, created n = .ok r ∧ r.isZero = false ∧
      opened.1.2 = slot.write (r.forCounterpart n) ∧ page = destination chatRoute r.sessionId) ∧
    (∀ e, opened.1.1 = .error e → opened.1.2 = slot) := by
  obtain ⟨hblank, hfound⟩ := found_by_script created loaded slot p
  exact ⟨hblank, hfound, opened_by_script created loaded chatRoute slot n⟩

def handedRoom : Record := ⟨"room-7", 7, "Mina", "", ""⟩

theorem padded_page_takes_handed_room :
    let api := Api.scripted (fun _ => .error (.kind .unavailable)) (fun _ => .error (.kind .notFound))
    let found := Api.runScripted (resolve api (Text.Utf8.encode " room-7") ⟨some handedRoom⟩)
    found.1 = (.ok (handedRoom, .handoff), Slot.empty) ∧ found.2 = [] := by
  obtain ⟨-, hfound, -⟩ := slot_serves_one_page (fun _ => .error (.kind .unavailable))
    (fun _ => .error (.kind .notFound)) "/chat" ⟨some handedRoom⟩ (Text.Utf8.encode " room-7") 7
  -- the page names the held room once its id is trimmed
  have hid : Text.trimOctets (Text.Utf8.encode " room-7") = Text.Utf8.encode handedRoom.sessionId := by
    decide +kernel
  obtain ⟨hempty, hheld, -⟩ := hfound (by rw [hid]; decide +kernel)
  obtain ⟨hok, hcalls⟩ := (hheld handedRoom).mpr ⟨rfl, hid.symm⟩
  exact ⟨Prod.ext hok hempty, hcalls⟩

end Vestibule.Handoff

import Vestibule.Proofs.LogoutOverlap

/-!
The way back from an opened chat room to its page. Opening a room puts it in the hand-off slot
and answers with the room's page; the page asks for the room by the octets of its path
parameter. The resolver trims that parameter of blanks and takes the room from the slot only
when the trimmed parameter is the room's id, with no call to the chat service at all; any other
parameter goes to the chat service.

So an id with a blank at either end never comes back through the hand-off, even when the page
gives back exactly the id's octets: the trimmed parameter is not the id, and the chat service is
asked for a room under the trimmed id instead.
-/

namespace Vestibule.Handoff

variable {m : Type → Type} [Monad m]

theorem forCounterpart_sessionId (id : Int) (room : Record) :
    (room.forCounterpart id).sessionId = room.sessionId := by
  unfold Record.forCounterpart
  split <;> rfl

theorem resolve_written (api : Api m) (room : Record) (slot : Slot) {p : List UInt8}
    (hp : Text.trimOctets p ≠ []) :
    resolve api p (slot.write room) =
      if Text.Utf8.encode room.sessionId = Text.trimOctets p then
        pure (.ok (room, .handoff), Slot.empty)
      else resolve.fetch api (Text.trimOctets p) Slot.empty := by
  have hne : (Text.trimOctets p).isEmpty = false := by
    cases h : Text.trimOctets p
    · exact absurd h hp
    · rfl
  unfold resolve
  simp only [hne, Bool.false_eq_true, if_false, Slot.write, Slot.take, beq_iff_eq]

theorem opened_room_read_back [LawfulMonad m] (api : Api m) (chatRoute : String) {id : Int}
    (hid : 0 < id) (room : Record) (hz : room.isZero = false) (slot : Slot) {p : List UInt8}
    (hp : Text.trimOctets p ≠ []) :
    (do
      let (_, opened) ← (select (Api.answered (.ok room)) chatRoute id slot : m _)
      resolve api p opened) =
      if Text.Utf8.encode room.sessionId = Text.trimOctets p then
        pure (.ok (room.forCounterpart id, .handoff), Slot.empty)
      else resolve.fetch api (Text.trimOctets p) Slot.empty := by
  rw [select_answered_room hid room hz, pure_bind]
  dsimp only
  rw [resolve_written api _ slot hp, forCounterpart_sessionId]

theorem padded_id_misses_handoff (api : Api m) (room : Record) (slot : Slot)
    (hpad : Text.trimOctets (Text.Utf8.encode room.sessionId) ≠ Text.Utf8.encode room.sessionId)
    (hne : Text.trimOctets (Text.Utf8.encode room.sessionId) ≠ []) :
    resolve api (Text.Utf8.encode room.sessionId) (slot.write room) =
      resolve.fetch api (Text.trimOctets (Text.Utf8.encode room.sessionId)) Slot.empty := by
  rw [resolve_written api room slot hne, if_neg (Ne.symm hpad)]

theorem trimmed_id_from_handoff (api : Api m) (room : Record) (slot : Slot)
    (htrim : Text.trimOctets (Text.Utf8.encode room.sessionId) = Text.Utf8.encode room.sessionId)
    (hne : Text.Utf8.encode room.sessionId ≠ []) :
    resolve api (Text.Utf8.encode room.sessionId) (slot.write room) =
      pure (.ok (room, .handoff), Slot.empty) := by
  rw [resolve_written api room slot (by rwa [htrim]), if_pos htrim.symm]

def spacedRoom : Record := ⟨" room", 7, "Han", "https://cdn/han.png", "Tea"⟩

theorem spaced_room_asks_service (api : Api m) (slot : Slot) :
    resolve api (Text.Utf8.encode spacedRoom.sessionId) (slot.write spacedRoom) =
      resolve.fetch api (Text.Utf8.encode "room") Slot.empty := by
  have htrim :
      Text.trimOctets (Text.Utf8.encode spacedRoom.sessionId) = Text.Utf8.encode "room" := by
    decide +kernel
  have hpad : Text.Utf8.encode "room" ≠ Text.Utf8.encode spacedRoom.sessionId := by
    decide +kernel
  rw [padded_id_misses_handoff api spacedRoom slot (htrim ▸ hpad) (by rw [htrim]; decide +kernel),
    htrim]

end Vestibule.Handoff

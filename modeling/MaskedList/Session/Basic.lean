import MaskedList.Transport

/-!
# Sessions

A session holds two slots, one for queries and one for commands that change the
store.  A slot is connected to a channel, or has discarded one that could not
be trusted any more, or is closed.

    connected ── fault ──▶ discarded ── next call ──▶ connected
        │                      │
        └────── close ─────────┴──────▶ closed ── reconnect ──▶ connected
-/

namespace MaskedList

/-- What one side of a session has in hand. -/
inductive Slot where
  /-- A channel whose requests and answers are in step. -/
  | connected (channel : ChannelId)
  /-- Nothing; the next call opens a channel. -/
  | discarded
  /-- Nothing; calls are refused. -/
  | closed
  deriving DecidableEq, Repr

/-- A pair of connections to one store. -/
structure Session where
  config : Config
  read : Slot
  write : Slot
  /-- Set once by `destroy`, never cleared. -/
  destroyed : Bool := false
  deriving DecidableEq, Repr

namespace Session

/-- The slot that serves a role. -/
def slot (session : Session) : Role → Slot
  | .read => session.read
  | .write => session.write

/-- The session with another slot for a role. -/
def setSlot (session : Session) (role : Role) (slot : Slot) : Session :=
  match role with
  | .read => { session with read := slot }
  | .write => { session with write := slot }

/-- Whether no command can be sent without a reconnect. -/
def isClosed (session : Session) : Bool :=
  session.destroyed || (session.read = .closed && session.write = .closed)

@[simp]
theorem slot_setSlot_self (session : Session) (role : Role) (slot : Slot) :
    (session.setSlot role slot).slot role = slot := by
  cases role <;> rfl

theorem slot_setSlot_of_ne {role other : Role} (hne : other ≠ role)
    (session : Session) (slot : Slot) :
    (session.setSlot role slot).slot other = session.slot other := by
  match role, other with
  | .read, .read => exact absurd rfl hne
  | .read, .write => rfl
  | .write, .read => rfl
  | .write, .write => exact absurd rfl hne

@[simp]
theorem destroyed_setSlot (session : Session) (role : Role) (slot : Slot) :
    (session.setSlot role slot).destroyed = session.destroyed := by
  cases role <;> rfl

@[simp]
theorem config_setSlot (session : Session) (role : Role) (slot : Slot) :
    (session.setSlot role slot).config = session.config := by
  cases role <;> rfl

end Session
end MaskedList

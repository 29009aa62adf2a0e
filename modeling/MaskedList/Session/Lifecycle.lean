import MaskedList.Session.Exchange

/-!
# Opening and closing sessions

A session is opened with both channels or not at all, and reconnecting leaves
both sides live or both closed.  Destroying sets a flag that stays; whoever
finds the flag set after opening channels closes them again.
-/

namespace MaskedList

variable {m : Type → Type} [Monad m]

namespace Session

/-- Opens the channels of a new session, the one for queries first. -/
def connect (transport : Transport m) (config : Config) : m (Except Error Session) := do
  match config.validate with
  | .error error => return .error error
  | .ok () =>
    let connectTo (role : Role) : m (Except Error ChannelId) := do
      return (← transport.connect config.host (config.port role) config.timeout).result
    match ← connectTo .read with
    | .error error => return .error error
    | .ok read =>
      match ← connectTo .write with
      | .error error =>
        let _ ← transport.close read
        return .error error
      | .ok write =>
        return .ok { config, read := .connected read, write := .connected write }

/-- Gives up the channel of one role and refuses calls on it. -/
def closeSlot (transport : Transport m) (session : Session) (role : Role) : m Session := do
  match session.slot role with
  | .connected channel =>
    let _ ← transport.close channel
    return session.setSlot role .closed
  | _ => return session.setSlot role .closed

/-- Gives up both channels.  Closing twice is closing once. -/
def close (transport : Transport m) (session : Session) : m Session := do
  let session ← session.closeSlot transport .read
  session.closeSlot transport .write

/-- Makes sure that a role has a live channel. -/
def reopen (transport : Transport m) (session : Session) (role : Role) :
    m (Except Error Unit × Session) := do
  match session.slot role with
  | .connected _ => return (.ok (), session)
  | _ =>
    match ← session.openChannel transport role with
    | (.error error, session) => return (.error error, session)
    | (.ok channel, session) => return (.ok (), session.setSlot role (.connected channel))

/-- Opens whichever channels are not live, the one for queries first.  Unless
both are live in the end and the session was not destroyed meanwhile, both are
closed. -/
def reconnect (transport : Transport m) (session : Session) :
    m (Except Error Unit × Session) := do
  if session.destroyed then return (.error .closedSession, session)
  match ← session.reopen transport .read with
  | (.error error, session) => return (.error error, ← session.close transport)
  | (.ok (), session) =>
    match ← session.reopen transport .write with
    | (.error error, session) => return (.error error, ← session.close transport)
    | (.ok (), session) =>
      if session.destroyed then
        return (.error .closedSession, ← session.close transport)
      else return (.ok (), session)

/-- Closes the session for good. -/
def destroy (transport : Transport m) (session : Session) : m Session :=
  Session.close transport { session with destroyed := true }

/-- Finishes what `destroy` began while an open was under way: its closing of
the slots comes after the step that was running. -/
def settle (transport : Transport m) (session : Session) : m Session :=
  if session.destroyed then session.close transport else pure session

end Session
end MaskedList

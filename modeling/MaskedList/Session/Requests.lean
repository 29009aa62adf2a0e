import MaskedList.Network.Basic
import MaskedList.Session.Commands
import MaskedList.Session.Lifecycle

/-!
# Runs of a session

A caller asks a session for one thing after another: to send a command, to close,
to reconnect, to be destroyed.  Every command has its own function, and all of
them do the same with it, `Session.dispatch`, with what its opcode says about the
data of an answer.  A run is what a caller has asked for since the session was
connected, each step with its answer and the session before and after it.
-/

namespace MaskedList

namespace Opcode

/-- The data that a successful answer holds. -/
abbrev Data : Opcode → Type
  | .stat => KeyStats
  | .statSys => StoreStats
  | .count => MatchCount
  | .range | .lpop | .rpop => ItemList
  | _ => Unit

/-- Reads the data of a successful answer. -/
def readData : (opcode : Opcode) → Bytes → Ending (Except Error opcode.Data)
  | .stat => fun payload => .returned (KeyStats.decode payload)
  | .statSys => fun payload => .returned (StoreStats.decode payload)
  | .count => fun payload => .returned (MatchCount.decode payload)
  | .range | .lpop | .rpop => ItemList.decode
  | .ping | .dump | .create | .clean | .rmKey | .delete | .deleteByMask | .insert | .move
  | .setMask | .setTag | .lpush | .rpush => fun _ => .returned (.ok ())

/-- What a caller gets: a reply where there can be data, else the bare status. -/
abbrev Outcome : Opcode → Type
  | .stat => Reply KeyStats
  | .statSys => Reply StoreStats
  | .count => Reply MatchCount
  | .range | .lpop | .rpop => Reply ItemList
  | _ => Status

/-- What a caller gets of a reply. -/
def report : (opcode : Opcode) → Reply opcode.Data → opcode.Outcome
  | .stat | .statSys | .count | .range | .lpop | .rpop => id
  | .ping | .dump | .create | .clean | .rmKey | .delete | .deleteByMask | .insert | .move
  | .setMask | .setTag | .lpush | .rpush => Reply.status

/-- The status in what a caller gets. -/
def statusOf : (opcode : Opcode) → opcode.Outcome → Status
  | .stat | .statSys | .count | .range | .lpop | .rpop => Reply.status
  | .ping | .dump | .create | .clean | .rmKey | .delete | .deleteByMask | .insert | .move
  | .setMask | .setTag | .lpush | .rpush => id

@[simp]
theorem statusOf_report (opcode : Opcode) (reply : Reply opcode.Data) :
    opcode.statusOf (opcode.report reply) = reply.status := by
  cases opcode <;> rfl

/-- The status that a caller sees, if the call returns. -/
def statusOf? (opcode : Opcode) (ending : Ending opcode.Outcome) : Option Status :=
  ending.returned?.map opcode.statusOf

@[simp]
theorem statusOf?_map_report (opcode : Opcode) (ending : Ending (Reply opcode.Data)) :
    opcode.statusOf? (ending.map opcode.report) = ending.returned?.map Reply.status := by
  cases ending <;> simp [statusOf?, Ending.returned?]

end Opcode

/-- What a caller can ask of a session. -/
inductive Request where
  | send (command : Command)
  | close
  | reconnect
  | destroy
  deriving DecidableEq, Repr

/-- What a caller gets for a request.  Only reading the answer to a command can panic. -/
abbrev Request.Answer : Request → Type
  | .send command => Ending command.opcode.Outcome
  | .reconnect => Except Error Unit
  | .close | .destroy => Unit

namespace Session

variable {m : Type → Type} [Monad m]

/-- Calls the function of a session that sends the command. -/
def issue (transport : Transport m) (session : Session) :
    (command : Command) → m (Ending command.opcode.Outcome × Session)
  | .ping => session.ping transport
  | .dump => session.dump transport
  | .stat key => session.stat transport key
  | .statSys => session.statSys transport
  | .range key kind mask start len => session.range transport key kind mask start len
  | .count key mask => session.count transport key mask
  | .create key valueSize mask kind type =>
    session.create transport key valueSize mask kind type
  | .clean key => session.clean transport key
  | .rmKey key => session.rmKey transport key
  | .delete key value => session.delete transport key value
  | .deleteByMask key mask => session.deleteByMask transport key mask
  | .insert key value mask pos => session.insert transport key value mask pos
  | .move key value pos => session.move transport key value pos
  | .setMask key value mask => session.setMask transport key value mask
  | .setTag key value tag => session.setTag transport key value tag
  | .lpush key value mask => session.lpush transport key value mask
  | .rpush key value mask => session.rpush transport key value mask
  | .lpop key num => session.lpop transport key num
  | .rpop key num => session.rpop transport key num

/-- Every function that sends a command runs it in the same way. -/
theorem issue_eq_dispatch [LawfulMonad m] (transport : Transport m) (session : Session)
    (command : Command) :
    session.issue transport command = do
      let (ending, session) ← session.dispatch transport command command.opcode.readData
      return (ending.map command.opcode.report, session) := by
  have hwhole {α : Type} (run : m (Ending α × Session)) :
      run = do let (ending, session) ← run; return (ending.map id, session) := by
    simp
  cases command <;> first | rfl | exact hwhole _

/-- Does what a caller asks for. -/
def perform (transport : Transport m) (session : Session) :
    (request : Request) → m (request.Answer × Session)
  | .send command => session.issue transport command
  | .reconnect => session.reconnect transport
  | .close => do return ((), ← session.close transport)
  | .destroy => do return ((), ← session.destroy transport)

end Session

/-- One step of a run: a request, its answer, and the session around them. -/
structure Step where
  request : Request
  answer : request.Answer
  before : Session
  after : Session

/-- The runs of a session that was the first to be connected on a network, with the
session and the network that they lead to. -/
inductive Reached {ω : Type} (network : Network ω) (config : Config) (world : ω) :
    List Step → Session → Net ω → Prop where
  | connected {session : Session} {net : Net ω} :
      Session.connect network.transport config (Net.fresh world) = (.ok session, net) →
      Reached network config world [] session net
  | step {run : List Step} {session after : Session} {net last : Net ω} (request : Request)
      {answer : request.Answer} : Reached network config world run session net →
      session.perform network.transport request net = ((answer, after), last) →
      Reached network config world (run ++ [⟨request, answer, session, after⟩]) after last

/-- A run goes on with whatever is asked for next. -/
theorem Reached.perform {ω : Type} {network : Network ω} {config : Config} {world : ω}
    {run : List Step} {session : Session} {net : Net ω}
    (h : Reached network config world run session net) (request : Request) :
    Reached network config world
      (run ++ [⟨request, (session.perform network.transport request net).1.1, session,
        (session.perform network.transport request net).1.2⟩])
      (session.perform network.transport request net).1.2
      (session.perform network.transport request net).2 :=
  .step request h rfl

end MaskedList

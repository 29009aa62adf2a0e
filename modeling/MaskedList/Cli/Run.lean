import MaskedList.Cli.Args
import MaskedList.Session.Commands
import MaskedList.Session.Lifecycle

/-!
# A run of the command line tool

The tool opens a session, carries out one command, and destroys the session.
It ends with 0 if the store accepted the command, with 1 if not, and with 2 if
it did not get that far.  If the command panics, nothing is printed, the session is
only closed, and the tool ends with 101.
-/

namespace MaskedList
namespace Cli

/-- How a run ended. -/
inductive Outcome where
  /-- No command was carried out, because of the arguments. -/
  | stopped (stop : Stop)
  /-- No session could be opened. -/
  | unconnected
  /-- The command was carried out, and printed something. -/
  | answered (status : Status) (printed : String)
  /-- The command panicked. -/
  | panicked (panic : Panic)
  deriving DecidableEq, Repr

namespace Outcome

def exitCode : Outcome → UInt8
  | .stopped .misuse => 2
  | .stopped _ => 0
  | .unconnected => 2
  | .answered status _ => if status.isOk then 0 else 1
  | .panicked _ => 101

/-- What the tool is called by. -/
def toolName : String := "memlink-cli"

def helpText : String :=
  "Usage: " ++ toolName ++ " [OPTIONS] <COMMAND>\n\nCommands:\n" ++
    String.join (grammar.subcommands.map fun name => "  " ++ name ++ "\n")

/-- The text for the standard output. -/
def output : Outcome → String
  | .stopped .help => helpText
  | .stopped .version => toolName ++ " " ++ version ++ "\n"
  | .stopped .misuse => ""
  | .unconnected => ""
  | .answered _ printed => printed
  | .panicked _ => ""

/-- The text for the standard error output, but for what is said of a panic. -/
def complaint : Outcome → String
  | .stopped .misuse => "usage"
  | .answered status _ => if status.isOk then "" else status.render ++ "\n"
  | _ => ""

end Outcome

variable {m : Type → Type} [Monad m]

/-- What there is to print of the reply to a query. -/
def ofReply {α : Type} (render : α → String) : Ending (Reply α) → Outcome
  | .returned reply => .answered reply.status ((reply.value.map render).getD "")
  | .panicked panic => .panicked panic

/-- What there is to print for a command that is answered with its status alone. -/
def ofStatus : Ending Status → Outcome
  | .returned status => .answered status (if status.isOk then "OK\n" else "")
  | .panicked panic => .panicked panic

/-- Carries out a command and gives what is to be printed: the data of a query,
or a word of assent for any other command that succeeds. -/
def perform (transport : Transport m) (session : Session) (command : Command) :
    m (Outcome × Session) := do
  match command with
  | .stat key =>
    let (reply, session) ← session.stat transport key
    return (ofReply KeyStats.render reply, session)
  | .statSys =>
    let (reply, session) ← session.statSys transport
    return (ofReply StoreStats.render reply, session)
  | .count key mask =>
    let (reply, session) ← session.count transport key mask
    return (ofReply MatchCount.render reply, session)
  | .range key kind mask start len =>
    let (reply, session) ← session.range transport key kind mask start len
    return (ofReply ItemList.render reply, session)
  | .lpop key num =>
    let (reply, session) ← session.lpop transport key num
    return (ofReply ItemList.render reply, session)
  | .rpop key num =>
    let (reply, session) ← session.rpop transport key num
    return (ofReply ItemList.render reply, session)
  | other =>
    let (status, session) ← session.execute transport other
    return (ofStatus status, session)

/-- Leaves a session behind.  A panic takes only its channels away. -/
def leave (transport : Transport m) (session : Session) : Outcome → m Session
  | .panicked _ => session.close transport
  | _ => session.destroy transport

/-- Runs the tool.  Whether small pieces are sent at once is up to the transport
that the settings choose. -/
def run (transport : Config → Transport m) (args : List String) : m Outcome := do
  match parse args with
  | .error stop => return .stopped stop
  | .ok (config, command) =>
    let transport := transport config
    match ← Session.connect transport config with
    | .error _ => return .unconnected
    | .ok session =>
      let (outcome, session) ← perform transport session command
      let _ ← leave transport session outcome
      return outcome

end Cli
end MaskedList

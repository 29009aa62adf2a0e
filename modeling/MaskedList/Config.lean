import MaskedList.Error
import MaskedList.Text.Blank

/-!
# Settings of a session

Spans of time and moments on a clock are counted in nanoseconds.
-/

namespace MaskedList

/-- A number of milliseconds in nanoseconds. -/
def milliseconds (count : Nat) : Nat :=
  count * 1000000

/-- Where the store is and how long a command may take. -/
structure Config where
  /-- Name or address of the store's host. -/
  host : String := "127.0.0.1"
  /-- Port for queries. -/
  readPort : UInt16 := 11001
  /-- Port for commands that change the store. -/
  writePort : UInt16 := 11002
  /-- Milliseconds for one whole exchange; zero lets it take any time. -/
  timeoutMs : UInt64 := 30000
  /-- Whether small pieces are sent at once. -/
  nodelay : Bool := true
  deriving DecidableEq, Repr

namespace Config

/-- The port that serves a role. -/
def port (config : Config) : Role → UInt16
  | .read => config.readPort
  | .write => config.writePort

/-- The time for one whole exchange, if it is bounded. -/
def timeout (config : Config) : Option Nat :=
  if config.timeoutMs = 0 then none else some (milliseconds config.timeoutMs.toNat)

/-- Refuses settings that no session can work with. -/
def validate (config : Config) : Except Error Unit :=
  if (Text.trimBlanks config.host.toList).isEmpty then
    .error (.config .emptyHost)
  else if config.readPort = 0 ∨ config.writePort = 0 then
    .error (.config (.zeroPort config.readPort config.writePort))
  else .ok ()

end Config
end MaskedList

import MaskedList.Cli.Run
import MaskedList.Cli.Sockets

/-!
# The command line tool
-/

open MaskedList

/-- Carries out one command on a store and ends with an exit code. -/
def main (args : List String) : IO UInt32 := do
  let sockets ← Cli.Sockets.new true
  let outcome ← Cli.run (fun _ => sockets.transport) args
  IO.print outcome.output
  IO.eprint outcome.complaint
  return outcome.exitCode.toUInt32

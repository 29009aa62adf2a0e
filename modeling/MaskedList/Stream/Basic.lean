import MaskedList.Error

/-!
# Byte streams

A source gives bytes in pieces of its own choosing, a sink takes them in pieces
of its own choosing.  `Source.readExact` puts pieces together until it has as
many bytes as it was asked for, `Sink.writeAll` offers what is left until all
has been taken.  Both are written for any monad, so they serve streams that
are plain data as well as real ones.
-/

namespace MaskedList

/-- Where bytes come from. -/
structure Source (m : Type → Type) where
  /-- At least one and at most `limit` bytes, or none at the end of the stream. -/
  read : (limit : Nat) → m (Except IoError Bytes)

/-- Where bytes go. -/
structure Sink (m : Type → Type) where
  /-- Offers bytes and says how many of them, from the first on, were taken. -/
  write : Bytes → m (Except IoError Nat)
  /-- Sends on what was taken and is still held back. -/
  flush : m (Except IoError Unit)

variable {m : Type → Type} [Monad m]

namespace Source

/-- Reads `need` bytes behind those in `got`, which are held last one first. -/
def fill (source : Source m) (need : Nat) (got : Bytes) : m (Except IoError Bytes) :=
  if _hneed : need = 0 then pure (.ok got.reverse)
  else do
    match ← source.read need with
    | .error error => pure (.error error)
    | .ok [] => pure (.error .endOfStream)
    | .ok (byte :: piece) =>
      source.fill (need - (piece.length + 1)) (piece.reverseAux (byte :: got))
termination_by need

/-- Exactly `size` bytes, or the failure that came before the last of them. -/
def readExact (source : Source m) (size : Nat) : m (Except IoError Bytes) :=
  source.fill size []

end Source

namespace Sink

/-- Offers bytes until all are taken, or until nothing is. -/
def writeAll (sink : Sink m) : (bytes : Bytes) → m (Except IoError Unit)
  | [] => pure (.ok ())
  | byte :: rest => do
    match ← sink.write (byte :: rest) with
    | .error error => pure (.error error)
    | .ok 0 => pure (.error .writeZero)
    | .ok (taken + 1) => sink.writeAll (rest.drop taken)
termination_by bytes => bytes.length

end Sink
end MaskedList

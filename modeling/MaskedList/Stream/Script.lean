import MaskedList.Stream.Attempt
import MaskedList.Stream.Basic

/-!
# Streams that follow a script

A script lists what a stream will do, one event after the other: give or take
bytes, fail, end, or let time pass.  After its last event a source is at its
end and a sink takes everything.  An interruption uses up an event, so trying
again after one ends.
-/

namespace MaskedList

/-- What a scripted source does next. -/
inductive ReadEvent where
  /-- Gives these bytes, in as many reads as it takes. -/
  | data (bytes : Bytes)
  | fail (error : IoError)
  | finish
  /-- Lets so many milliseconds pass first. -/
  | pause (count : Nat)
  deriving DecidableEq, Repr

/-- What a scripted sink does next. -/
inductive WriteEvent where
  /-- Takes at most so many bytes. -/
  | accept (count : Nat)
  | fail (error : IoError)
  | nothing
  /-- Lets so many milliseconds pass first. -/
  | pause (count : Nat)
  deriving DecidableEq, Repr

/-- The events that a stream has not used up yet, and the milliseconds it has spent. -/
structure Script (event : Type) where
  events : List event
  elapsed : Nat := 0
  deriving DecidableEq, Repr

namespace Script

/-- Reads at most `limit` bytes.  One read never joins the bytes of two events. -/
def readEvents (limit : Nat) :
    List ReadEvent → Nat → Except IoError Bytes × Script ReadEvent
  | [], elapsed => (.ok [], ⟨[], elapsed⟩)
  | .data [] :: events, elapsed => readEvents limit events elapsed
  | .data (byte :: bytes) :: events, elapsed =>
    match (byte :: bytes).splitAt limit with
    | (piece, []) => (.ok piece, ⟨events, elapsed⟩)
    | (piece, rest) => (.ok piece, ⟨.data rest :: events, elapsed⟩)
  | .fail error :: events, elapsed => (.error error, ⟨events, elapsed⟩)
  | .finish :: events, elapsed => (.ok [], ⟨events, elapsed⟩)
  | .pause count :: events, elapsed =>
    readEvents limit events (elapsed + count)

/-- Offers `size` bytes. -/
def writeEvents (size : Nat) :
    List WriteEvent → Nat → Except IoError Nat × Script WriteEvent
  | [], elapsed => (.ok size, ⟨[], elapsed⟩)
  | .accept count :: events, elapsed => (.ok (min count size), ⟨events, elapsed⟩)
  | .fail error :: events, elapsed => (.error error, ⟨events, elapsed⟩)
  | .nothing :: events, elapsed => (.ok 0, ⟨events, elapsed⟩)
  | .pause count :: events, elapsed =>
    writeEvents size events (elapsed + count)

def read (limit : Nat) (script : Script ReadEvent) :
    Except IoError Bytes × Script ReadEvent :=
  readEvents limit script.events script.elapsed

def write (bytes : Bytes) (script : Script WriteEvent) :
    Except IoError Nat × Script WriteEvent :=
  writeEvents bytes.length script.events script.elapsed

/-- A flush goes by the same kind of events; how much they accept is no matter. -/
def flush (script : Script WriteEvent) : Except IoError Unit × Script WriteEvent :=
  let (result, rest) := writeEvents 0 script.events script.elapsed
  (result.map fun _ => (), rest)

/-- A failed read has used up the event that it failed with. -/
theorem readEvents_length_lt {limit : Nat} {events : List ReadEvent}
    {elapsed : Nat} {error : IoError} {rest : Script ReadEvent}
    (h : readEvents limit events elapsed = (.error error, rest)) :
    rest.events.length < events.length := by
  induction events generalizing elapsed with
  | nil => simp [readEvents] at h
  | cons event events ih =>
    match event with
    | .data [] =>
      simp only [readEvents] at h
      have := ih h
      simp only [List.length_cons]
      omega
    | .data (byte :: bytes) =>
      simp only [readEvents] at h
      split at h <;> simp at h
    | .fail _ =>
      simp only [readEvents, Prod.mk.injEq] at h
      rw [← h.2]
      simp
    | .finish => simp [readEvents] at h
    | .pause _ =>
      simp only [readEvents] at h
      have := ih h
      simp only [List.length_cons]
      omega

/-- A failed write has used up the event that it failed with. -/
theorem writeEvents_length_lt {size : Nat} {events : List WriteEvent}
    {elapsed : Nat} {error : IoError} {rest : Script WriteEvent}
    (h : writeEvents size events elapsed = (.error error, rest)) :
    rest.events.length < events.length := by
  induction events generalizing elapsed with
  | nil => simp [writeEvents] at h
  | cons event events ih =>
    match event with
    | .accept _ => simp [writeEvents] at h
    | .fail _ =>
      simp only [writeEvents, Prod.mk.injEq] at h
      rw [← h.2]
      simp
    | .nothing => simp [writeEvents] at h
    | .pause _ =>
      simp only [writeEvents] at h
      have := ih h
      simp only [List.length_cons]
      omega

/-- A read gives no more than was asked for. -/
theorem readEvents_le {limit : Nat} {events : List ReadEvent} {elapsed : Nat}
    {bytes : Bytes} (h : (readEvents limit events elapsed).1 = .ok bytes) :
    bytes.length ≤ limit := by
  induction events generalizing elapsed with
  | nil =>
    simp only [readEvents, Except.ok.injEq] at h
    rw [← h]
    exact Nat.zero_le _
  | cons event events ih =>
    match event with
    | .data [] =>
      simp only [readEvents] at h
      exact ih h
    | .data (byte :: piece) =>
      simp only [readEvents, List.splitAt_eq] at h
      have hlen : ((byte :: piece).take limit).length ≤ limit := List.length_take_le _ _
      split at h
      all_goals
        rename_i heq
        simp only [Except.ok.injEq] at h
        simp only [Prod.mk.injEq] at heq
        rw [← h, ← heq.1]
        exact hlen
    | .fail _ => simp [readEvents] at h
    | .finish =>
      simp only [readEvents, Except.ok.injEq] at h
      rw [← h]
      exact Nat.zero_le _
    | .pause _ =>
      simp only [readEvents] at h
      exact ih h

/-- A write takes no more than was offered. -/
theorem writeEvents_le {size : Nat} {events : List WriteEvent} {elapsed count : Nat}
    (h : (writeEvents size events elapsed).1 = .ok count) : count ≤ size := by
  induction events generalizing elapsed with
  | nil =>
    simp only [writeEvents, Except.ok.injEq] at h
    omega
  | cons event events ih =>
    match event with
    | .accept _ =>
      simp only [writeEvents, Except.ok.injEq] at h
      omega
    | .fail _ => simp [writeEvents] at h
    | .nothing =>
      simp only [writeEvents, Except.ok.injEq] at h
      omega
    | .pause _ =>
      simp only [writeEvents] at h
      exact ih h

/-- A read of a script, tried again after interruptions. -/
def reading (limit : Nat) : Attempt (Script ReadEvent) Bytes where
  run := read limit
  patience script := script.events.length
  patience_lt hrun _ := readEvents_length_lt hrun

/-- A write to a script, tried again after interruptions. -/
def writing (bytes : Bytes) : Attempt (Script WriteEvent) Nat where
  run := write bytes
  patience script := script.events.length
  patience_lt hrun _ := writeEvents_length_lt hrun

/-- The source that follows a script. -/
def source : Source (StateM (Script ReadEvent)) where
  read limit := (reading limit).persist

end Script

/-- A sink that follows one script for writes and one for flushes, and keeps
what it took, last piece first. -/
structure ScriptedSink where
  writes : Script WriteEvent
  flushes : Script WriteEvent
  taken : List Bytes := []
  flushed : Nat := 0
  deriving Repr

namespace ScriptedSink

def write (bytes : Bytes) (sink : ScriptedSink) : Except IoError Nat × ScriptedSink :=
  match (Script.writing bytes).persist sink.writes with
  | (.ok count, writes) =>
    (.ok count, { sink with writes, taken := bytes.take count :: sink.taken })
  | (.error error, writes) => (.error error, { sink with writes })

def flush (sink : ScriptedSink) : Except IoError Unit × ScriptedSink :=
  match Script.flush sink.flushes with
  | (.ok (), flushes) => (.ok (), { sink with flushes, flushed := sink.flushed + 1 })
  | (.error error, flushes) => (.error error, { sink with flushes })

/-- The sink that follows the two scripts. -/
def sink : Sink (StateM ScriptedSink) where
  write := write
  flush := flush

/-- All bytes taken so far, in order. -/
def bytes (sink : ScriptedSink) : Bytes :=
  sink.taken.reverse.flatten

end ScriptedSink
end MaskedList

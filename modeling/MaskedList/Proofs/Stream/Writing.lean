import MaskedList.Proofs.Command
import MaskedList.Proofs.Stream.Transfer
import MaskedList.Stream.Script

/-!
# The calls by which a message is written

A message that is written makes calls on its writer: it offers what is left of its frame until
all of it is taken, and then asks for it to be sent on.  How much a writer takes at a time, how
often it is interrupted and what it fails with is up to its script.  Whatever the script says,
each write offers just the bytes that have not been taken, so what was taken is the beginning
of the frame, without a byte lost or repeated; and the calls end with the first failure that is
no interrupted write.  So messages that are all written leave their frames, one behind the
other.
-/

namespace MaskedList

/-- What goes on a stream: a request or the answer to one. -/
inductive Message where
  | command (command : Command)
  | response (response : Response)
  deriving DecidableEq, Repr

namespace Message

/-- The message's frame, unless it may not travel. -/
def frame : Message → Except Error Bytes
  | .command request => request.encode
  | .response answer => .ok answer.encode

/-- Writes the message. -/
def write {m : Type → Type} [Monad m] (message : Message) (sink : Sink m) : ExceptT Error m Unit :=
  match message with
  | .command request => sink.writeCommand request
  | .response answer => sink.writeResponse answer

end Message

/-- A call on a writer, with what came of it. -/
inductive WriterCall where
  | write (offered : Bytes) (outcome : Except IoError Nat)
  | flush (outcome : Except IoError Unit)

namespace WriterCall

/-- The bytes that the writer took. -/
def taken : WriterCall → Bytes
  | .write offered (.ok count) => offered.take count
  | .write _ (.error _) | .flush _ => []

/-- What is wrong after the call, if anything is. -/
def failure? : WriterCall → Option IoError
  | .write _ (.ok 0) => some .writeZero
  | .write _ (.ok (_ + 1)) | .flush (.ok ()) => none
  | .write _ (.error error) | .flush (.error error) => some error

/-- The bytes that the writer took in several calls. -/
def accepted (calls : List WriterCall) : Bytes :=
  calls.flatMap taken

@[simp] theorem accepted_nil : accepted [] = [] := rfl

@[simp] theorem accepted_cons (call : WriterCall) (calls : List WriterCall) :
    accepted (call :: calls) = call.taken ++ accepted calls :=
  List.flatMap_cons

@[simp] theorem accepted_append (calls others : List WriterCall) :
    accepted (calls ++ others) = accepted calls ++ accepted others :=
  List.flatMap_append

/-! ## How a frame is written -/

/-- The calls by which what is left of a frame is written, and their result.  Every write
offers all that is left. -/
inductive Sends : (left : Bytes) → List WriterCall → Except Error Unit → Prop
  /-- All of the frame has been taken, and it is sent on. -/
  | flushed (outcome : Except IoError Unit) : Sends [] [.flush outcome] (outcome.mapError .io)
  | taken {left calls result} {count : Nat} (hcount : 0 < count) (hleft : count ≤ left.length)
      (h : Sends (left.drop count) calls result) :
      Sends left (.write left (.ok count) :: calls) result
  | interrupted {left calls result} {error : IoError} (hleft : left ≠ [])
      (herror : error.isInterruption = true) (h : Sends left calls result) :
      Sends left (.write left (.error error) :: calls) result
  | refused {left} (hleft : left ≠ []) :
      Sends left [.write left (.ok 0)] (.error (.io .writeZero))
  | failed {left} {error : IoError} (hleft : left ≠ [])
      (herror : ¬ error.isInterruption = true) :
      Sends left [.write left (.error error)] (.error (.io error))

section Sends

variable {left frame : Bytes} {calls earlier later : List WriterCall} {call : WriterCall}
variable {result : Except Error Unit}

theorem Sends.after_interruptions (hleft : left ≠ []) (h : Sends left calls result)
    {interruptions : List IoError}
    (hinterruptions : ∀ error ∈ interruptions, error.isInterruption = true) :
    Sends left (interruptions.map (fun error => .write left (.error error)) ++ calls) result := by
  induction interruptions with
  | nil => exact h
  | cons error interruptions ih =>
    rw [List.forall_mem_cons] at hinterruptions
    exact .interrupted hleft hinterruptions.1 (ih hinterruptions.2)

/-- The calls from one of them on write what the earlier ones have left of the frame. -/
theorem Sends.split (h : Sends left (earlier ++ call :: later) result) :
    ∃ rest, accepted earlier ++ rest = left ∧ Sends rest (call :: later) result := by
  induction earlier generalizing left with
  | nil => exact ⟨left, rfl, h⟩
  | cons first earlier ih =>
    rw [List.cons_append] at h
    generalize hcalls : earlier ++ call :: later = calls at h
    cases h with
    | flushed | refused | failed => simp at hcalls
    | taken hcount hleft hrest =>
      subst hcalls
      obtain ⟨rest, hrest, hcall⟩ := ih hrest
      refine ⟨rest, ?_, hcall⟩
      rw [accepted_cons, WriterCall.taken, List.append_assoc, hrest, List.take_append_drop]
    | interrupted hleft herror hrest =>
      subst hcalls
      obtain ⟨rest, hrest, hcall⟩ := ih hrest
      exact ⟨rest, hrest, hcall⟩

theorem Sends.accepted_prefix (h : Sends left calls result) : accepted calls <+: left := by
  induction h with
  | flushed => exact List.nil_prefix
  | @taken left _ _ count _ _ _ ih =>
    rw [accepted_cons, WriterCall.taken]
    have hwhole := (List.prefix_append_right_inj (left.take count)).mpr ih
    rwa [List.take_append_drop] at hwhole
  | interrupted _ _ _ ih => exact ih
  | refused | failed => exact List.nil_prefix

theorem Sends.ok_iff (h : Sends left calls result) :
    result = .ok () ↔ accepted calls = left ∧ .flush (.ok ()) ∈ calls := by
  induction h with
  | flushed outcome =>
    rcases outcome with error | ⟨⟩ <;> simp [WriterCall.taken]
  | @taken left _ _ count _ _ _ ih =>
    rw [ih, accepted_cons, WriterCall.taken, List.mem_cons]
    have hsplit : left.take count ++ left.drop count = left := List.take_append_drop count left
    constructor
    · rintro ⟨hrest, hflush⟩
      exact ⟨by rw [hrest, hsplit], Or.inr hflush⟩
    · rintro ⟨hall, hflush⟩
      refine ⟨List.append_cancel_left (hall.trans hsplit.symm), hflush.resolve_left ?_⟩
      exact fun hsame => WriterCall.noConfusion hsame
  | interrupted _ _ _ ih => simpa [WriterCall.taken] using ih
  | refused => simp
  | failed => simp

/-- A frame that is not written fails for what is wrong with the last call. -/
theorem Sends.exists_last (h : Sends left calls result) {error : Error}
    (herror : result = .error error) :
    ∃ earlier last cause, calls = earlier ++ [last] ∧ last.failure? = some cause ∧
      error = .io cause := by
  induction h with
  | flushed outcome =>
    rcases outcome with cause | ⟨⟩
    · cases herror
      exact ⟨[], _, cause, rfl, rfl, rfl⟩
    · cases herror
  | @taken left calls _ count _ _ _ ih =>
    obtain ⟨earlier, last, cause, rfl, hlast⟩ := ih herror
    exact ⟨.write left (.ok count) :: earlier, last, cause, rfl, hlast⟩
  | @interrupted left calls _ interruption _ _ _ ih =>
    obtain ⟨earlier, last, cause, rfl, hlast⟩ := ih herror
    exact ⟨.write left (.error interruption) :: earlier, last, cause, rfl, hlast⟩
  | refused | failed =>
    cases herror
    exact ⟨[], _, _, rfl, rfl, rfl⟩

end Sends

/-- How the calls on a writer go together with the frame that they write and with their
result. -/
structure Faithful (frame : Bytes) (calls : List WriterCall) (result : Except Error Unit) :
    Prop where
  /-- What is taken is the beginning of the frame. -/
  accepted_prefix : accepted calls <+: frame
  /-- All is well exactly if the whole frame is taken and the flush behind it succeeds. -/
  ok_iff : result = .ok () ↔ accepted calls = frame ∧ .flush (.ok ()) ∈ calls
  /-- Every write offers what has not been taken yet. -/
  write_rest : ∀ {earlier later : List WriterCall} {offered : Bytes} {outcome : Except IoError Nat},
    calls = earlier ++ .write offered outcome :: later →
      offered ≠ [] ∧ accepted earlier ++ offered = frame
  /-- A flush comes when all has been taken, and it is the last call. -/
  flush_last : ∀ {earlier later : List WriterCall} {outcome : Except IoError Unit},
    calls = earlier ++ .flush outcome :: later →
      accepted earlier = frame ∧ later = [] ∧ result = outcome.mapError .io
  /-- An interrupted write is made again. -/
  write_again : ∀ {earlier later : List WriterCall} {offered : Bytes} {error : IoError},
    calls = earlier ++ .write offered (.error error) :: later → error.isInterruption = true →
      ∃ outcome others, later = .write offered outcome :: others
  /-- Any other failure of a write is the end. -/
  write_failed : ∀ {earlier later : List WriterCall} {offered : Bytes} {error : IoError},
    calls = earlier ++ .write offered (.error error) :: later → ¬ error.isInterruption = true →
      later = [] ∧ result = .error (.io error)
  /-- So is a write of which nothing is taken. -/
  write_zero : ∀ {earlier later : List WriterCall} {offered : Bytes},
    calls = earlier ++ .write offered (.ok 0) :: later →
      later = [] ∧ result = .error (.io .writeZero)
  /-- Nothing else goes wrong: what does is wrong with the last call. -/
  failure_last : ∀ {error : Error}, result = .error error →
    ∃ earlier last cause, calls = earlier ++ [last] ∧ last.failure? = some cause ∧
      error = .io cause

/-- What is left of a frame that bytes are left of is offered next. -/
theorem Sends.exists_write {left : Bytes} {calls : List WriterCall} {result : Except Error Unit}
    (h : Sends left calls result) (hleft : left ≠ []) :
    ∃ outcome others, calls = .write left outcome :: others := by
  cases h with
  | flushed => exact absurd rfl hleft
  | taken | interrupted | refused | failed => exact ⟨_, _, rfl⟩

theorem Sends.faithful {frame : Bytes} {calls : List WriterCall} {result : Except Error Unit}
    (h : Sends frame calls result) : Faithful frame calls result where
  accepted_prefix := h.accepted_prefix
  ok_iff := h.ok_iff
  write_rest := by
    rintro earlier later offered outcome rfl
    obtain ⟨rest, hrest, hcall⟩ := h.split
    cases hcall with
    | taken hcount hleft => exact ⟨List.length_pos_iff.mp (by omega), hrest⟩
    | interrupted hleft | refused hleft | failed hleft => exact ⟨hleft, hrest⟩
  flush_last := by
    rintro earlier later outcome rfl
    obtain ⟨rest, hrest, hcall⟩ := h.split
    cases hcall
    exact ⟨by rw [← hrest, List.append_nil], rfl, rfl⟩
  write_again := by
    rintro earlier later offered error rfl hinterrupted
    obtain ⟨rest, -, hcall⟩ := h.split
    cases hcall with
    | interrupted hleft _ hagain => exact hagain.exists_write hleft
    | failed _ hother => exact absurd hinterrupted hother
  write_failed := by
    rintro earlier later offered error rfl hother
    obtain ⟨rest, -, hcall⟩ := h.split
    cases hcall with
    | interrupted _ hinterrupted => exact absurd hinterrupted hother
    | failed => exact ⟨rfl, rfl⟩
  write_zero := by
    rintro earlier later offered rfl
    obtain ⟨rest, -, hcall⟩ := h.split
    cases hcall with
    | taken hcount => exact absurd hcount (Nat.lt_irrefl 0)
    | refused => exact ⟨rfl, rfl⟩
  failure_last := h.exists_last

end WriterCall

/-! ## Frames on any sink -/

namespace Sink

variable {σ : Type} {sink : Sink (StateM σ)}

/-- Of an empty frame only the flush is left. -/
theorem writeFrame_nil_run_apply (state : σ) :
    (sink.writeFrame []).run state =
      ((sink.flush state).1.mapError .io, (sink.flush state).2) := by
  rw [writeFrame, exceptT_bind_run_apply, ofStream_run_apply, writeAll]
  rfl

/-- What one write takes of a frame decides what comes after it. -/
theorem writeFrame_cons_run_apply (byte : UInt8) (rest : Bytes) (state : σ) :
    (sink.writeFrame (byte :: rest)).run state =
      match sink.write (byte :: rest) state with
      | (.error error, after) => (.error (.io error), after)
      | (.ok 0, after) => (.error (.io .writeZero), after)
      | (.ok (count + 1), after) => (sink.writeFrame (rest.drop count)).run after := by
  rw [writeFrame, exceptT_bind_run_apply, ofStream_run_apply, writeAll, stateM_bind_apply]
  rcases sink.write (byte :: rest) state with ⟨error | _ | count, after⟩
  · rfl
  · rfl
  · simp only [writeFrame, exceptT_bind_run_apply, ofStream_run_apply]

end Sink

/-! ## Frames on a scripted writer -/

namespace ScriptedSink

/-- A single write, as the script has it. -/
def offer (bytes : Bytes) (sink : ScriptedSink) : Except IoError Nat × ScriptedSink :=
  match Script.write bytes sink.writes with
  | (.ok count, writes) =>
    (.ok count, { sink with writes, taken := bytes.take count :: sink.taken })
  | (.error error, writes) => (.error error, { sink with writes })

/-- The writer answers these calls in this way, one after the other. -/
inductive Answers : ScriptedSink → List WriterCall → ScriptedSink → Prop
  | nothing {sink} : Answers sink [] sink
  | write {sink next after offered outcome calls} (hcall : offer offered sink = (outcome, next))
      (h : Answers next calls after) : Answers sink (.write offered outcome :: calls) after
  | flush {sink next after outcome calls} (hcall : flush sink = (outcome, next))
      (h : Answers next calls after) : Answers sink (.flush outcome :: calls) after

section Answers

variable {sink next after : ScriptedSink} {calls others : List WriterCall}

theorem Answers.append (hcalls : Answers sink calls next) (hothers : Answers next others after) :
    Answers sink (calls ++ others) after := by
  induction hcalls with
  | nothing => exact hothers
  | write hcall _ ih => exact .write hcall (ih hothers)
  | flush hcall _ ih => exact .flush hcall (ih hothers)

theorem bytes_offer {bytes : Bytes} {outcome : Except IoError Nat}
    (h : offer bytes sink = (outcome, next)) :
    next.bytes = sink.bytes ++ (WriterCall.write bytes outcome).taken := by
  rw [offer] at h
  split at h
  all_goals
    cases h
    simp [ScriptedSink.bytes, WriterCall.taken]

theorem bytes_flush {outcome : Except IoError Unit} (h : flush sink = (outcome, next)) :
    next.bytes = sink.bytes := by
  rw [flush] at h
  split at h
  all_goals
    cases h
    rfl

/-- What the writer keeps is what it took. -/
theorem Answers.bytes_eq (h : Answers sink calls after) :
    after.bytes = sink.bytes ++ WriterCall.accepted calls := by
  induction h with
  | nothing => simp
  | write hcall _ ih => rw [ih, bytes_offer hcall, WriterCall.accepted_cons, List.append_assoc]
  | flush hcall _ ih => rw [ih, bytes_flush hcall]; rfl

/-- The script is at this point after interrupted writes alone. -/
def InterruptedUntil (bytes : Bytes) (sink : ScriptedSink) (script : Script WriteEvent) : Prop :=
  ∃ interruptions : List IoError, (∀ error ∈ interruptions, error.isInterruption = true) ∧
    Answers sink (interruptions.map fun error => .write bytes (.error error))
      { sink with writes := script }

theorem InterruptedUntil.again {bytes : Bytes} {before script : Script WriteEvent}
    {error : IoError} (h : InterruptedUntil bytes sink before)
    (hrun : Script.write bytes before = (.error error, script))
    (herror : error.isInterruption = true) : InterruptedUntil bytes sink script := by
  obtain ⟨interruptions, hinterruptions, hanswers⟩ := h
  have hoffer : offer bytes { sink with writes := before } =
      (.error error, { sink with writes := script }) := by
    rw [offer, hrun]
  refine ⟨interruptions ++ [error], ?_, ?_⟩
  · intro other hmem
    rcases List.mem_append.mp hmem with hmem | hmem
    · exact hinterruptions other hmem
    · rw [List.mem_singleton.mp hmem]
      exact herror
  · rw [List.map_append, List.map_singleton]
    exact hanswers.append (.write hoffer .nothing)

/-- A write is made again until it is not interrupted. -/
theorem exists_answers_write (bytes : Bytes) (sink : ScriptedSink) :
    ∃ (interruptions : List IoError) (last : ScriptedSink),
      (∀ error ∈ interruptions, error.isInterruption = true) ∧
      Answers sink (interruptions.map fun error => .write bytes (.error error)) last ∧
      offer bytes last = write bytes sink := by
  have hstart : InterruptedUntil bytes sink sink.writes := ⟨[], by simp, .nothing⟩
  obtain ⟨script, ⟨interruptions, hinterruptions, hanswers⟩, hlast⟩ :=
    (Script.writing bytes).exists_run_eq_persist (InterruptedUntil bytes sink) hstart
      InterruptedUntil.again
  have hwrite : Script.write bytes script = (Script.writing bytes).persist sink.writes := hlast
  refine ⟨interruptions, _, hinterruptions, hanswers, ?_⟩
  rw [offer, hwrite]
  rfl

/-- What is left of a write that was made again is no interruption. -/
theorem not_isInterruption_of_write {bytes : Bytes} {error : IoError}
    (h : write bytes sink = (.error error, after)) : ¬ error.isInterruption = true := by
  rw [write] at h
  split at h
  · cases h
  · rename_i failure writes hpersist
    cases h
    exact Attempt.not_isInterruption_of_persist hpersist

theorem le_of_write {bytes : Bytes} {count : Nat} (h : write bytes sink = (.ok count, after)) :
    count ≤ bytes.length := by
  obtain ⟨-, last, -, -, hoffer⟩ := exists_answers_write bytes sink
  rw [h, offer] at hoffer
  split at hoffer
  · rename_i taken writes hwrite
    cases hoffer
    exact Script.writeEvents_le (congrArg Prod.fst hwrite)
  · cases hoffer

end Answers

/-- A frame is written by such calls, whatever the script says. -/
theorem exists_sends_writeFrame (frame : Bytes) (before : ScriptedSink) :
    ∃ calls, Answers before calls ((sink.writeFrame frame).run before).2 ∧
      WriterCall.Sends frame calls ((sink.writeFrame frame).run before).1 := by
  -- on the bytes still to be taken, for every state that they can be offered in
  induction frame using Sink.writeAll.induct generalizing before with
  | case1 =>
    rw [Sink.writeFrame_nil_run_apply]
    exact ⟨[.flush (flush before).1], .flush rfl .nothing, .flushed _⟩
  | case2 byte rest ih =>
    have hleft : byte :: rest ≠ [] := List.cons_ne_nil byte rest
    obtain ⟨interruptions, last, hinterruptions, hanswers, hoffer⟩ :=
      exists_answers_write (byte :: rest) before
    rw [Sink.writeFrame_cons_run_apply]
    have hsink : sink.write (byte :: rest) before = write (byte :: rest) before := rfl
    rcases hwrite : write (byte :: rest) before with ⟨error | _ | count, middle⟩
    all_goals
      rw [hwrite] at hoffer hsink
      rw [hsink]
    · have herror := not_isInterruption_of_write hwrite
      exact ⟨_, hanswers.append (.write hoffer .nothing),
        (WriterCall.Sends.failed hleft herror).after_interruptions hleft hinterruptions⟩
    · exact ⟨_, hanswers.append (.write hoffer .nothing),
        (WriterCall.Sends.refused hleft).after_interruptions hleft hinterruptions⟩
    · obtain ⟨calls, hcalls, hsends⟩ := ih count middle
      exact ⟨_, hanswers.append (.write hoffer hcalls),
        (WriterCall.Sends.taken (Nat.succ_pos count) (le_of_write hwrite)
          hsends).after_interruptions hleft hinterruptions⟩

/-- What becomes of a message on a scripted writer. -/
theorem exists_calls_write (message : Message) (before : ScriptedSink) :
    ∃ calls, Answers before calls ((message.write sink).run before).2 ∧
      ((∃ error, message.frame = .error error ∧ calls = [] ∧
          ((message.write sink).run before).1 = .error error) ∨
        ∃ frame, message.frame = .ok frame ∧
          WriterCall.Sends frame calls ((message.write sink).run before).1) := by
  cases message with
  | command request =>
    rw [Message.write, Sink.writeCommand, exceptT_bind_run_apply, exceptT_lift_run_apply]
    cases hencode : request.encode with
    | error error => exact ⟨[], .nothing, Or.inl ⟨error, hencode, rfl, rfl⟩⟩
    | ok frame =>
      obtain ⟨calls, hanswers, hsends⟩ := exists_sends_writeFrame frame before
      exact ⟨calls, hanswers, Or.inr ⟨frame, hencode, hsends⟩⟩
  | response answer =>
    obtain ⟨calls, hanswers, hsends⟩ := exists_sends_writeFrame answer.encode before
    exact ⟨calls, hanswers, Or.inr ⟨_, rfl, hsends⟩⟩

/-- A message that is written leaves its frame. -/
theorem bytes_write {message : Message} {before after : ScriptedSink}
    (h : (message.write sink).run before = (.ok (), after)) :
    ∃ frame, message.frame = .ok frame ∧ after.bytes = before.bytes ++ frame := by
  obtain ⟨calls, hanswers, ⟨error, -, -, hresult⟩ | ⟨frame, hframe, hsends⟩⟩ :=
    exists_calls_write message before
  · rw [h] at hresult
    cases hresult
  · rw [h] at hanswers hsends
    refine ⟨frame, hframe, ?_⟩
    rw [hanswers.bytes_eq, (hsends.ok_iff.mp rfl).1]

/-- Messages that are all written leave their frames, one behind the other. -/
theorem bytes_mapM_write {messages : List Message} {before after : ScriptedSink}
    {results : List (Except Error Unit)}
    (hrun : (messages.mapM fun message : Message => (message.write sink).run) before =
      (results, after))
    (hall : ∀ result ∈ results, result = .ok ()) :
    ∃ frames : List Bytes, messages.map Message.frame = frames.map .ok ∧
      after.bytes = before.bytes ++ frames.flatten := by
  induction messages generalizing before results with
  | nil =>
    cases hrun
    exact ⟨[], rfl, by simp⟩
  | cons message messages ih =>
    simp only [List.mapM_cons, stateM_bind_apply] at hrun
    rcases hfirst : (message.write sink).run before with ⟨result, middle⟩
    rcases hothers : (messages.mapM fun message : Message => (message.write sink).run) middle with
      ⟨others, last⟩
    rw [hfirst, hothers] at hrun
    cases hrun
    rw [List.forall_mem_cons] at hall
    obtain ⟨rfl, hall⟩ := hall
    obtain ⟨frame, hframe, hbytes⟩ := bytes_write hfirst
    obtain ⟨frames, hframes, hrest⟩ := ih hothers hall
    refine ⟨frame :: frames, by rw [List.map_cons, List.map_cons, hframe, hframes], ?_⟩
    rw [hrest, hbytes, List.flatten_cons, List.append_assoc]

/-- A message makes calls on its writer by which its frame is written faithfully, and the bytes
that the writer took with them are all that is left there; one without a frame, which only a
command over the limit is, makes none.  Messages that are all written leave their frames, one
behind the other. -/
theorem messages_are_written_faithfully :
    (∀ (message : Message) (before after : ScriptedSink) (result : Except Error Unit),
      (message.write sink).run before = (result, after) →
      ∃ calls, Answers before calls after ∧
        after.bytes = before.bytes ++ WriterCall.accepted calls ∧
        (∀ frame, message.frame = .ok frame → WriterCall.Faithful frame calls result) ∧
        ∀ error, message.frame = .error error → calls = [] ∧ result = .error error) ∧
    (∀ request : Command,
      (request.size ≤ maxPayloadSize → ∃ frame, (Message.command request).frame = .ok frame) ∧
      (maxPayloadSize < request.size → (Message.command request).frame =
        .error (.payloadTooLarge request.size maxPayloadSize))) ∧
    ∀ (messages : List Message) (before after : ScriptedSink)
      (results : List (Except Error Unit)),
      (messages.mapM fun message : Message => (message.write sink).run) before =
        (results, after) →
      (∀ result ∈ results, result = .ok ()) →
      ∃ frames : List Bytes, messages.map Message.frame = frames.map .ok ∧
        after.bytes = before.bytes ++ frames.flatten := by
  refine ⟨?_, fun request => ⟨Command.exists_encode_eq_ok_iff.mpr, Command.encode_of_lt_size⟩,
    fun _ _ _ _ => bytes_mapM_write⟩
  intro message before after result hrun
  obtain ⟨calls, hanswers, houtcome⟩ := exists_calls_write message before
  rw [hrun] at hanswers houtcome
  refine ⟨calls, hanswers, hanswers.bytes_eq, ?_, ?_⟩
  · intro frame hframe
    obtain ⟨error, herror, -⟩ | ⟨written, hwritten, hsends⟩ := houtcome
    · cases herror.symm.trans hframe
    · cases hwritten.symm.trans hframe
      exact hsends.faithful
  · intro error hframe
    obtain ⟨failure, hfailure, hnone, hresult⟩ | ⟨written, hwritten, -⟩ := houtcome
    · cases hfailure.symm.trans hframe
      exact ⟨hnone, hresult⟩
    · cases hwritten.symm.trans hframe

/-- A frame that is taken in two pieces, with an interruption between them. -/
theorem messages_are_written_faithfully_in_two_pieces :
    let before : ScriptedSink :=
      { writes := ⟨[.accept 2, .fail ⟨.interrupted, "retry"⟩], 0⟩, flushes := ⟨[], 0⟩ }
    let after : ScriptedSink :=
      { writes := ⟨[], 0⟩, flushes := ⟨[], 0⟩, taken := [[0, 0, 0], [1, 0]], flushed := 1 }
    ((Message.command .ping).write sink).run before = (.ok (), after) ∧
      ∃ calls, Answers before calls after ∧ WriterCall.accepted calls = [1, 0, 0, 0, 0] ∧
        WriterCall.Faithful [1, 0, 0, 0, 0] calls (.ok ()) := by
  intro before after
  have hfirst : sink.write [1, 0, 0, 0, 0] before =
      (.ok 2, { before with
        writes := ⟨[.fail ⟨.interrupted, "retry"⟩], 0⟩, taken := [[1, 0]] }) := by
    show write _ before = _
    rw [write, Attempt.persist_of_ok rfl]
    rfl
  have hsecond : sink.write [0, 0, 0] { before with
      writes := ⟨[.fail ⟨.interrupted, "retry"⟩], 0⟩, taken := [[1, 0]] } =
      (.ok 3, { after with flushed := 0 }) := by
    show write _ _ = _
    rw [write, Attempt.persist_of_interrupted rfl rfl, Attempt.persist_of_ok rfl]
    rfl
  have hframe : (Message.command .ping).frame = .ok [1, 0, 0, 0, 0] := rfl
  have hrun : ((Message.command .ping).write sink).run before = (.ok (), after) := by
    show (sink.writeFrame [1, 0, 0, 0, 0]).run before = _
    rw [Sink.writeFrame_cons_run_apply, hfirst]
    show (sink.writeFrame [0, 0, 0]).run _ = _
    rw [Sink.writeFrame_cons_run_apply, hsecond]
    show (sink.writeFrame []).run _ = _
    rw [Sink.writeFrame_nil_run_apply]
    rfl
  obtain ⟨calls, hanswers, -, hfaithful, -⟩ := messages_are_written_faithfully.1 _ _ _ _ hrun
  have hfaithful := hfaithful _ hframe
  exact ⟨hrun, calls, hanswers, (hfaithful.ok_iff.mp rfl).1, hfaithful⟩

end ScriptedSink
end MaskedList

import MaskedList.Proofs.Stream.Delivery
import MaskedList.Proofs.Stream.Writing

/-!
# Which written frames are taken by a reader

A command is written only if its payload is within the limit, so its length field is the true
length and whoever reads the stream reads the command.  A response is written whatever its size,
with the low 32 bits of its length.  Up to the limit it is read back like a command.  Beyond it
the reader refuses the frame after its header, or, where the low bits come out within the limit
again, takes the beginning of the payload for all of it; the rest of the payload is then left in
the stream as if it were the next frame.
-/

namespace MaskedList
namespace Frame

variable {code : UInt8} {payload : Bytes}

/-- A frame with this payload, whose length field says so and is within the limit. -/
structure Carries (frame payload : Bytes) : Prop where
  payload_eq : frame.drop frameHeaderSize = payload
  announced_eq : announced frame = payload.length
  announced_le : announced frame ≤ maxPayloadSize

/-- The header of a frame. -/
def headerOf (code : UInt8) (payload : Bytes) : Bytes :=
  code :: Bytes.ofNat 4 payload.length

theorem length_headerOf (code : UInt8) (payload : Bytes) :
    (headerOf code payload).length = frameHeaderSize := by
  simp [headerOf, frameHeaderSize]

theorem encode_eq_headerOf_append (code : UInt8) (payload : Bytes) :
    encode code payload = headerOf code payload ++ payload := rfl

theorem announced_headerOf (code : UInt8) (payload : Bytes) :
    announced (headerOf code payload) = payload.length % Bytes.bound 4 := by
  rw [announced, headerOf, List.drop_succ_cons, List.drop_zero,
    List.take_of_length_le (Nat.le_of_eq (Bytes.length_ofNat 4 _)), Bytes.toNat_ofNat]

/-- A frame announces the low bits of the length of its payload. -/
theorem announced_encode (code : UInt8) (payload : Bytes) :
    announced (encode code payload) = payload.length % Bytes.bound 4 := by
  rw [encode_eq_headerOf_append, announced_append (length_headerOf code payload),
    announced_headerOf]

theorem carries_encode_iff :
    Carries (encode code payload) payload ↔ payload.length ≤ maxPayloadSize := by
  have hbound := maxPayloadSize_lt_bound
  constructor
  · rintro ⟨-, hannounced, hlimit⟩
    exact hannounced ▸ hlimit
  · intro hlimit
    have hannounced : announced (encode code payload) = payload.length := by
      rw [announced_encode, Nat.mod_eq_of_lt (by omega)]
    refine ⟨?_, hannounced, by omega⟩
    rw [encode_eq_headerOf_append, List.drop_left' (length_headerOf code payload)]

/-- The frame of a payload is that of as much of it as its length field says, with the rest
behind it. -/
theorem encode_eq_encode_append (code : UInt8) (payload : Bytes) :
    encode code payload =
      encode code (payload.take (payload.length % Bytes.bound 4)) ++
        payload.drop (payload.length % Bytes.bound 4) := by
  have hlength : (payload.take (payload.length % Bytes.bound 4)).length =
      payload.length % Bytes.bound 4 :=
    List.length_take_of_le (Nat.mod_le _ _)
  -- the four bytes of a length are those of its low bits
  have hfield : Bytes.ofNat 4 (payload.length % Bytes.bound 4) = Bytes.ofNat 4 payload.length := by
    have hbytes := Bytes.ofNat_toNat (Bytes.ofNat 4 payload.length)
    rwa [Bytes.length_ofNat, Bytes.toNat_ofNat] at hbytes
  rw [encode, encode, hlength, hfield, List.cons_append, List.append_assoc,
    List.take_append_drop]

end Frame

/-! ## Readers -/

/-- However a stream of these bytes is delivered, the operation has this result and leaves the
rest. -/
def Reads {α : Type} (read : {σ : Type} → Source (StateM σ) → ExceptT Error (StateM σ) α)
    (bytes : Bytes) (result : Except Error α) (rest : Bytes) : Prop :=
  ∀ (σ : Type) (source : Source (StateM σ)) (left : Bytes → σ → Prop) (before : σ),
    source.Delivers left → left bytes before →
      ∃ after, (read source).run before = (result, after) ∧ left rest after

section Reads

variable {frame rest : Bytes} {request : Command} {answer : Response}

theorem reads_frame {α : Type} (decode : Bytes → Except Error α)
    (hframe : Frame.WithinLimit frame) (rest : Bytes) :
    Reads (fun source => do let frame ← source.readFrame; liftM (decode frame)) (frame ++ rest)
      (decode frame) rest := by
  intro σ source left before hdelivers hleft
  obtain ⟨after, hread, hafter⟩ := hdelivers.readFrame hframe hleft
  refine ⟨after, ?_, hafter⟩
  rw [Source.Delivers.readFrame_decode_run_apply, hread]

theorem reads_oversized {α : Type} (decode : Bytes → Except Error α) {code : UInt8}
    {payload : Bytes} (hover : maxPayloadSize < payload.length % Bytes.bound 4) (rest : Bytes) :
    Reads (fun source => do let frame ← source.readFrame; liftM (decode frame))
      (Frame.encode code payload ++ rest)
      (.error (.protocol (.oversized (payload.length % Bytes.bound 4)))) (payload ++ rest) := by
  intro σ source left before hdelivers hleft
  rw [← Frame.announced_headerOf code] at hover ⊢
  rw [Frame.encode_eq_headerOf_append, List.append_assoc] at hleft
  obtain ⟨after, hread, hafter⟩ :=
    hdelivers.readFrame_oversized (Frame.length_headerOf code payload) hover hleft
  refine ⟨after, ?_, hafter⟩
  rw [Source.Delivers.readFrame_decode_run_apply, hread]

theorem reads_command (hframe : request.encode = .ok frame) (rest : Bytes) :
    Reads Source.readCommand (frame ++ rest) (.ok request) rest := by
  have hreads := reads_frame Command.decode (Command.withinLimit_of_encode hframe) rest
  have hdecode := Command.decode_append_of_encode hframe []
  rw [List.append_nil] at hdecode
  rwa [hdecode] at hreads

theorem reads_response (hfits : answer.Fits) (rest : Bytes) :
    Reads Source.readResponse (answer.encode ++ rest) (.ok answer.received) rest := by
  have hreads := reads_frame Response.decode (Response.withinLimit_encode hfits) rest
  have hdecode := Response.decode_encode_append hfits []
  rw [List.append_nil] at hdecode
  rwa [hdecode] at hreads

/-- The response with as much of its payload as its length field says. -/
def Response.cutOff (answer : Response) : Response :=
  ⟨answer.status, some (answer.body.take (answer.body.length % Bytes.bound 4))⟩

/-- A response whose length field comes out within the limit is read as one that is cut off. -/
theorem reads_cutOff (hlow : answer.body.length % Bytes.bound 4 ≤ maxPayloadSize)
    (rest : Bytes) :
    Reads Source.readResponse (answer.encode ++ rest) (.ok answer.cutOff.received)
      (answer.body.drop (answer.body.length % Bytes.bound 4) ++ rest) := by
  have hframe : answer.encode = answer.cutOff.encode ++
      answer.body.drop (answer.body.length % Bytes.bound 4) :=
    Frame.encode_eq_encode_append answer.status.code answer.body
  have hfits : answer.cutOff.Fits := by
    show (answer.body.take (answer.body.length % Bytes.bound 4)).length ≤ maxPayloadSize
    rwa [List.length_take_of_le (Nat.mod_le _ _)]
  rw [hframe, List.append_assoc]
  exact reads_response hfits _

end Reads

/-! ## Writers -/

namespace ScriptedSink

section UsedUp

variable {before : ScriptedSink}

/-- A writer that has used up its script takes everything. -/
theorem write_of_used_up (hwrites : before.writes.events = []) (bytes : Bytes) :
    write bytes before =
      (.ok bytes.length, { before with
        writes := ⟨[], before.writes.elapsed⟩, taken := bytes :: before.taken }) := by
  have hrun : (Script.writing bytes).run before.writes =
      (.ok bytes.length, ⟨[], before.writes.elapsed⟩) := by
    show Script.writeEvents bytes.length before.writes.events before.writes.elapsed = _
    rw [hwrites]
    rfl
  rw [write, Attempt.persist_of_ok hrun]
  simp only [List.take_length]

theorem flush_of_used_up (hflushes : before.flushes.events = []) :
    (flush before).1 = .ok () := by
  have hrun : Script.flush before.flushes = (.ok (), ⟨[], before.flushes.elapsed⟩) := by
    rw [Script.flush, hflushes]
    rfl
  rw [flush, hrun]

theorem writeFrame_of_used_up (hwrites : before.writes.events = [])
    (hflushes : before.flushes.events = []) (frame : Bytes) :
    ((sink.writeFrame frame).run before).1 = .ok () := by
  cases frame with
  | nil =>
    have hflush : (sink.flush before).1 = .ok () := flush_of_used_up hflushes
    rw [Sink.writeFrame_nil_run_apply, hflush]
    rfl
  | cons byte rest =>
    -- one write takes it all, and the flush is what is left
    have hwrite : sink.write (byte :: rest) before = _ := write_of_used_up hwrites (byte :: rest)
    rw [Sink.writeFrame_cons_run_apply, hwrite]
    simp only [List.length_cons, List.drop_length]
    rw [Sink.writeFrame_nil_run_apply]
    have hflush : (sink.flush { before with
        writes := ⟨[], before.writes.elapsed⟩, taken := (byte :: rest) :: before.taken }).1 =
        .ok () := flush_of_used_up hflushes
    rw [hflush]
    rfl

/-- So it takes any message that may travel. -/
theorem exists_write_of_used_up (hwrites : before.writes.events = [])
    (hflushes : before.flushes.events = []) {message : Message} {frame : Bytes}
    (hframe : message.frame = .ok frame) :
    ∃ after, (message.write sink).run before = (.ok (), after) ∧
      after.bytes = before.bytes ++ frame := by
  have hresult : ((message.write sink).run before).1 = .ok () := by
    cases message with
    | command request =>
      have hencode : request.encode = .ok frame := hframe
      rw [Message.write, Sink.writeCommand, exceptT_bind_run_apply, exceptT_lift_run_apply, hencode]
      exact writeFrame_of_used_up hwrites hflushes frame
    | response answer => exact writeFrame_of_used_up hwrites hflushes answer.encode
  rcases hrun : (message.write sink).run before with ⟨result, after⟩
  rw [hrun] at hresult
  cases hresult
  obtain ⟨written, hwritten, hbytes⟩ := bytes_write hrun
  cases hframe.symm.trans hwritten
  exact ⟨after, rfl, hbytes⟩

end UsedUp

/-- A command that is written has a frame with its true length, within the limit, and is read
back from it.  A response that is written has such a frame exactly if its payload is within the
limit, and then it is read back.  Of any other one the reader refuses the header or reads the
beginning, according to the low bits of the length that the header holds, and the rest of the
payload stays in the stream. -/
theorem written_sizes_are_read_within_limit (request : Command) (answer : Response)
    (before after : ScriptedSink) :
    ((sink.writeCommand request).run before = (.ok (), after) →
      ∃ frame, after.bytes = before.bytes ++ frame ∧ Frame.Carries frame request.payload ∧
        ∀ rest, Reads Source.readCommand (frame ++ rest) (.ok request) rest) ∧
    ((sink.writeResponse answer).run before = (.ok (), after) →
      ∃ frame, after.bytes = before.bytes ++ frame ∧
        (Frame.Carries frame answer.body ↔ answer.Fits) ∧
        (answer.Fits → ∀ rest,
          Reads Source.readResponse (frame ++ rest) (.ok answer.received) rest) ∧
        (¬ answer.Fits → maxPayloadSize < Frame.announced frame → ∀ rest,
          Reads Source.readResponse (frame ++ rest)
            (.error (.protocol (.oversized (Frame.announced frame)))) (answer.body ++ rest)) ∧
        (¬ answer.Fits → Frame.announced frame ≤ maxPayloadSize →
          answer.body.drop (Frame.announced frame) ≠ [] ∧ ∀ rest,
            Reads Source.readResponse (frame ++ rest) (.ok answer.cutOff.received)
              (answer.body.drop (Frame.announced frame) ++ rest))) := by
  constructor
  · intro hrun
    have hwrite : ((Message.command request).write sink).run before = (.ok (), after) := hrun
    obtain ⟨frame, hframe, hbytes⟩ := bytes_write hwrite
    obtain ⟨hlimit, hencode⟩ := Command.encode_eq_ok hframe
    refine ⟨frame, hbytes, ?_, reads_command hframe⟩
    rw [hencode]
    exact Frame.carries_encode_iff.mpr hlimit
  · intro hrun
    have hwrite : ((Message.response answer).write sink).run before = (.ok (), after) := hrun
    obtain ⟨frame, hframe, hbytes⟩ := bytes_write hwrite
    cases hframe
    have hannounced : Frame.announced answer.encode = answer.body.length % Bytes.bound 4 :=
      Frame.announced_encode answer.status.code answer.body
    refine ⟨answer.encode, hbytes, Frame.carries_encode_iff, reads_response, ?_, ?_⟩
    · intro _ hover rest
      rw [hannounced] at hover ⊢
      exact reads_oversized Response.decode hover rest
    · intro hover hlow
      rw [hannounced] at hlow ⊢
      refine ⟨?_, reads_cutOff hlow⟩
      -- more is there than the limit, and no more than the limit is read of it
      intro hnone
      have hall := List.drop_eq_nil_iff.mp hnone
      exact hover (Nat.le_trans hall hlow)

/-- A request to pop a value and an answer of two bytes, each behind what was written before. -/
theorem written_sizes_are_read_within_limit_pop :
    let before : ScriptedSink := { writes := ⟨[], 0⟩, flushes := ⟨[], 0⟩, taken := [[7]] }
    let request : Command := .lpop "jobs" 3
    let answer : Response := ⟨.ok, some [98, 99]⟩
    (∃ after, (sink.writeCommand request).run before = (.ok (), after) ∧
      ∃ frame, after.bytes = 7 :: frame ∧
        Frame.Carries frame [0, 0, 0, 4, 106, 111, 98, 115, 0, 0, 0, 3] ∧
        ∀ rest, Reads Source.readCommand (frame ++ rest) (.ok request) rest) ∧
    ∃ after, (sink.writeResponse answer).run before = (.ok (), after) ∧
      ∃ frame, after.bytes = 7 :: frame ∧ Frame.Carries frame [98, 99] ∧
        ∀ rest, Reads Source.readResponse (frame ++ rest) (.ok answer) rest := by
  intro before request answer
  have hwrites : before.writes.events = [] := rfl
  have hsize : request.size ≤ maxPayloadSize := by decide +kernel
  obtain ⟨frame, hframe⟩ := Command.exists_encode_eq_ok_iff.mpr hsize
  obtain ⟨last, hrequest, -⟩ := exists_write_of_used_up hwrites rfl
    (show (Message.command request).frame = .ok frame from hframe)
  obtain ⟨after, hanswer, -⟩ := exists_write_of_used_up hwrites rfl
    (show (Message.response answer).frame = .ok answer.encode from rfl)
  obtain ⟨frame, hbytes, hcarries, hread⟩ :=
    (written_sizes_are_read_within_limit request answer before last).1 hrequest
  obtain ⟨sent, hsent, hcarried, hreceived, -⟩ :=
    (written_sizes_are_read_within_limit request answer before after).2 hanswer
  have hfits : answer.Fits := by decide
  have hpayload : request.payload = [0, 0, 0, 4, 106, 111, 98, 115, 0, 0, 0, 3] := by decide +kernel
  rw [hpayload] at hcarries
  exact ⟨⟨last, hrequest, frame, hbytes, hcarries, hread⟩,
    after, hanswer, sent, hsent, hcarried.mpr hfits, hreceived hfits⟩

/-- A response of one byte more than the limit is written all the same, and refused by whoever
reads it. -/
theorem oversized_response_is_written_and_refused :
    ∃ answer : Response, answer = ⟨.ok, some (List.replicate (maxPayloadSize + 1) 0)⟩ ∧
      ∃ after, (sink.writeResponse answer).run { writes := ⟨[], 0⟩, flushes := ⟨[], 0⟩ } =
          (.ok (), after) ∧
        after.bytes = answer.encode ∧ ¬ Frame.announced after.bytes ≤ maxPayloadSize ∧
        Reads Source.readResponse after.bytes
          (.error (.protocol (.oversized (maxPayloadSize + 1)))) answer.body := by
  have hlow : (maxPayloadSize + 1) % Bytes.bound 4 = maxPayloadSize + 1 := by decide
  -- from here on the bytes themselves do not matter
  obtain ⟨answer, hanswer, hbody⟩ : ∃ answer : Response,
      answer = ⟨.ok, some (List.replicate (maxPayloadSize + 1) 0)⟩ ∧
        answer.body = List.replicate (maxPayloadSize + 1) 0 := ⟨_, rfl, rfl⟩
  have hlength : answer.body.length % Bytes.bound 4 = maxPayloadSize + 1 := by
    rw [hbody, List.length_replicate, hlow]
  let before : ScriptedSink := { writes := ⟨[], 0⟩, flushes := ⟨[], 0⟩ }
  obtain ⟨after, hrun, hbytes⟩ := exists_write_of_used_up (rfl : before.writes.events = []) rfl
    (show (Message.response answer).frame = .ok answer.encode from rfl)
  have hbytes : after.bytes = answer.encode := hbytes
  have hannounced : Frame.announced answer.encode = maxPayloadSize + 1 :=
    (Frame.announced_encode answer.status.code answer.body).trans hlength
  have hreads : Reads Source.readResponse (answer.encode ++ [])
      (.error (.protocol (.oversized (answer.body.length % Bytes.bound 4)))) (answer.body ++ []) :=
    reads_oversized Response.decode (by omega) []
  rw [hlength, List.append_nil, List.append_nil] at hreads
  refine ⟨answer, hanswer, after, hrun, hbytes, ?_, ?_⟩
  · rw [hbytes, hannounced]
    omega
  · rwa [hbytes]

end ScriptedSink
end MaskedList

import MaskedList.Proofs.Frame
import MaskedList.Stream.Message

/-!
# What stream operations move

A `Transfer` says which bytes went out and came in between two states, and with which
failure an operation broke off if it did.  If each single read, write and flush of a
stream is accounted for by a transfer, so is every message: what `writeAll` moved is the
beginning of what it was given, all of it exactly if it succeeds, and what `readFrame`
moved is, if it succeeds, one whole frame within the limit.  A failure can come at any
byte; then the bytes moved so far are still accounted for, they are no whole frame, and
the failure is the one that the stream itself broke off with.
-/

namespace MaskedList

section States

variable {σ ε α β : Type}

theorem stateM_bind_apply (first : StateM σ α) (next : α → StateM σ β) (state : σ) :
    (first >>= next) state = next (first state).1 (first state).2 := rfl

@[simp] theorem stateM_pure_apply (value : α) (state : σ) :
    (pure value : StateM σ α) state = (value, state) := rfl

@[simp] theorem mapError_ok {ε' : Type} (f : ε → ε') (value : α) :
    (Except.ok value).mapError f = .ok value := rfl

@[simp] theorem mapError_error {ε' : Type} (f : ε → ε') (error : ε) :
    (Except.error error : Except ε α).mapError f = .error (f error) := rfl

/-- Operations that can fail go on after a success and stop after a failure. -/
theorem exceptT_bind_run_apply (first : ExceptT ε (StateM σ) α)
    (next : α → ExceptT ε (StateM σ) β) (state : σ) :
    (first >>= next).run state =
      match first.run state with
      | (.ok value, after) => (next value).run after
      | (.error error, after) => (.error error, after) := by
  show (ExceptT.run first >>= ExceptT.bindCont next) state = _
  rw [stateM_bind_apply]
  rcases first.run state with ⟨_ | _, after⟩ <;> rfl

theorem exceptT_pure_run_apply (value : α) (state : σ) :
    (pure value : ExceptT ε (StateM σ) α).run state = (.ok value, state) := rfl

theorem exceptT_lift_run_apply (result : Except ε α) (state : σ) :
    (liftM result : ExceptT ε (StateM σ) α).run state = (result, state) := by
  cases result <;> rfl

theorem ofStream_run_apply (operation : StateM σ (Except IoError α)) (state : σ) :
    (ofStream operation).run state =
      ((operation state).1.mapError Error.io, (operation state).2) := rfl

end States

/-- An account of the bytes that went out and came in between two states: of what can go on
after the second one, and of what broke off there. -/
structure Transfer (σ : Type) where
  moves : (sent received : Bytes) → (before after : σ) → Prop
  breaks : (error : IoError) → (sent received : Bytes) → (before after : σ) → Prop
  refl : ∀ state, moves [] [] state state
  trans : ∀ {sent received sentNext receivedNext first second third},
    moves sent received first second → moves sentNext receivedNext second third →
      moves (sent ++ sentNext) (received ++ receivedNext) first third
  broken : ∀ {error sent received sentNext receivedNext first second third},
    moves sent received first second → breaks error sentNext receivedNext second third →
      breaks error (sent ++ sentNext) (received ++ receivedNext) first third

/-- Every operation of the sink is accounted for. -/
structure Sink.Accounted {σ : Type} (sink : Sink (StateM σ)) (transfer : Transfer σ) :
    Prop where
  write_ok : ∀ {bytes before count after}, sink.write bytes before = (.ok (count + 1), after) →
    count + 1 ≤ bytes.length ∧ transfer.moves (bytes.take (count + 1)) [] before after
  write_none : ∀ {bytes before after},
    sink.write bytes before = (.ok 0, after) → transfer.breaks .writeZero [] [] before after
  write_error : ∀ {bytes before error after},
    sink.write bytes before = (.error error, after) → transfer.breaks error [] [] before after
  flush_ok : ∀ {before after},
    sink.flush before = (.ok (), after) → transfer.moves [] [] before after
  flush_error : ∀ {before error after},
    sink.flush before = (.error error, after) → transfer.breaks error [] [] before after

/-- Every operation of the source is accounted for. -/
structure Source.Accounted {σ : Type} (source : Source (StateM σ)) (transfer : Transfer σ) :
    Prop where
  read_ok : ∀ {limit before byte piece after},
    source.read limit before = (.ok (byte :: piece), after) →
      piece.length + 1 ≤ limit ∧ transfer.moves [] (byte :: piece) before after
  read_none : ∀ {limit before after},
    source.read limit before = (.ok [], after) → transfer.breaks .endOfStream [] [] before after
  read_error : ∀ {limit before error after},
    source.read limit before = (.error error, after) → transfer.breaks error [] [] before after

namespace Sink

variable {σ : Type} {transfer : Transfer σ} {sink : Sink (StateM σ)}

/-- What goes out is the beginning of the bytes: all of them if the operation succeeds, and
not all of them if it breaks off. -/
theorem Accounted.writeAll (haccounted : sink.Accounted transfer) {bytes : Bytes}
    {before after : σ} {result : Except IoError Unit}
    (hrun : sink.writeAll bytes before = (result, after)) :
    (result = .ok () ∧ transfer.moves bytes [] before after) ∨
      ∃ error moved, result = .error error ∧ moved <+: bytes ∧ moved ≠ bytes ∧
        transfer.breaks error moved [] before after := by
  -- on the bytes still to go out, for every state they can go out from
  induction bytes using Sink.writeAll.induct generalizing before with
  | case1 =>
    rw [Sink.writeAll] at hrun
    cases hrun
    exact Or.inl ⟨rfl, transfer.refl _⟩
  | case2 byte rest ih =>
    rw [Sink.writeAll, stateM_bind_apply] at hrun
    rcases hwrite : sink.write (byte :: rest) before with ⟨error | count, middle⟩
    · rw [hwrite] at hrun
      cases hrun
      exact Or.inr ⟨error, [], rfl, List.nil_prefix, by simp, haccounted.write_error hwrite⟩
    cases count with
    | zero =>
      rw [hwrite] at hrun
      cases hrun
      exact Or.inr ⟨.writeZero, [], rfl, List.nil_prefix, by simp, haccounted.write_none hwrite⟩
    | succ taken =>
      rw [hwrite] at hrun
      obtain ⟨-, hmoves⟩ := haccounted.write_ok hwrite
      rw [List.take_succ_cons] at hmoves
      have hsplit : byte :: rest.take taken ++ rest.drop taken = byte :: rest := by
        rw [List.cons_append, List.take_append_drop]
      -- the bytes taken now and those taken later are the beginning of all of them
      obtain ⟨rfl, hnext⟩ | ⟨error, moved, rfl, hbegins, hless, hnext⟩ := ih taken hrun
      · refine Or.inl ⟨rfl, ?_⟩
        rw [← hsplit]
        exact transfer.trans hmoves hnext
      · refine Or.inr ⟨error, byte :: rest.take taken ++ moved, rfl, ?_, ?_,
          transfer.broken hmoves hnext⟩
        · rw [← hsplit]
          exact (List.prefix_append_right_inj _).mpr hbegins
        · rw [← hsplit]
          exact fun hsame => hless (List.append_cancel_left hsame)

/-- A frame goes out from its first byte on, and all of it before it is sent on. -/
theorem Accounted.writeFrame (haccounted : sink.Accounted transfer) {frame : Bytes}
    {before after : σ} {result : Except Error Unit}
    (hrun : (sink.writeFrame frame).run before = (result, after)) :
    (result = .ok () ∧ ∃ written, transfer.moves frame [] before written ∧
        sink.flush written = (.ok (), after)) ∨
      ∃ error moved, result = .error (.io error) ∧ moved <+: frame ∧
        transfer.breaks error moved [] before after := by
  rw [Sink.writeFrame, exceptT_bind_run_apply, ofStream_run_apply] at hrun
  rcases hwrite : sink.writeAll frame before with ⟨outcome, written⟩
  rw [hwrite] at hrun
  obtain ⟨rfl, hmoves⟩ | ⟨error, moved, rfl, hbegins, -, hbreaks⟩ := haccounted.writeAll hwrite
  · simp only [mapError_ok, ofStream_run_apply] at hrun
    rcases hflush : sink.flush written with ⟨error | done, last⟩
    · rw [hflush] at hrun
      cases hrun
      refine Or.inr ⟨error, frame, rfl, List.prefix_rfl, ?_⟩
      simpa using transfer.broken hmoves (haccounted.flush_error hflush)
    · rw [hflush] at hrun
      cases hrun
      exact Or.inl ⟨rfl, written, hmoves, hflush⟩
  · cases hrun
    exact Or.inr ⟨error, moved, rfl, hbegins, hbreaks⟩

/-- A command that may not travel moves nothing; of any other the frame goes out. -/
theorem Accounted.writeCommand (haccounted : sink.Accounted transfer) {command : Command}
    {before after : σ} {result : Except Error Unit}
    (hrun : (sink.writeCommand command).run before = (result, after)) :
    (∃ error, command.encode = .error error ∧ result = .error error ∧ after = before) ∨
      ∃ frame, command.encode = .ok frame ∧
        ((result = .ok () ∧ ∃ written, transfer.moves frame [] before written ∧
            sink.flush written = (.ok (), after)) ∨
          ∃ error moved, result = .error (.io error) ∧ moved <+: frame ∧
            transfer.breaks error moved [] before after) := by
  rw [Sink.writeCommand, exceptT_bind_run_apply, exceptT_lift_run_apply] at hrun
  cases hencode : command.encode with
  | error error =>
    rw [hencode] at hrun
    cases hrun
    exact Or.inl ⟨error, rfl, rfl, rfl⟩
  | ok frame =>
    rw [hencode] at hrun
    exact Or.inr ⟨frame, rfl, haccounted.writeFrame hrun⟩

end Sink

namespace Source

variable {σ : Type} {transfer : Transfer σ} {source : Source (StateM σ)}

/-- What comes in goes behind the bytes already there: as many as were asked for if the
operation succeeds, and fewer if it breaks off. -/
theorem Accounted.fill (haccounted : source.Accounted transfer) {need : Nat} {got : Bytes}
    {before after : σ} {result : Except IoError Bytes}
    (hrun : source.fill need got before = (result, after)) :
    ∃ moved, (result = .ok (got.reverse ++ moved) ∧ moved.length = need ∧
        transfer.moves [] moved before after) ∨
      ∃ error, result = .error error ∧ moved.length < need ∧
        transfer.breaks error [] moved before after := by
  -- on how much is still to come in, with the pieces collected so far
  induction need, got using Source.fill.induct generalizing before with
  | case1 got =>
    rw [Source.fill, dif_pos rfl] at hrun
    cases hrun
    exact ⟨[], Or.inl ⟨by simp, rfl, transfer.refl _⟩⟩
  | case2 need got hneed ih =>
    rw [Source.fill, dif_neg hneed, stateM_bind_apply] at hrun
    have hpositive : ([] : Bytes).length < need := Nat.pos_of_ne_zero hneed
    rcases hread : source.read need before with ⟨error | bytes, middle⟩
    · rw [hread] at hrun
      cases hrun
      exact ⟨[], Or.inr ⟨error, rfl, hpositive, haccounted.read_error hread⟩⟩
    cases bytes with
    | nil =>
      rw [hread] at hrun
      cases hrun
      exact ⟨[], Or.inr ⟨.endOfStream, rfl, hpositive, haccounted.read_none hread⟩⟩
    | cons byte piece =>
      rw [hread] at hrun
      obtain ⟨hlength, hmoves⟩ := haccounted.read_ok hread
      have hwhole : ∀ moved : Bytes, (byte :: piece ++ moved).length =
          piece.length + 1 + moved.length := by
        intro moved
        rw [List.length_append, List.length_cons]
      obtain ⟨moved, hmoved⟩ := ih byte piece hrun
      refine ⟨byte :: piece ++ moved, ?_⟩
      rw [hwhole]
      obtain ⟨rfl, hrest, hnext⟩ | ⟨error, rfl, hrest, hnext⟩ := hmoved
      · exact Or.inl ⟨by simp [List.reverseAux_eq], by omega, transfer.trans hmoves hnext⟩
      · exact Or.inr ⟨error, rfl, by omega, transfer.broken hmoves hnext⟩

theorem Accounted.readExact (haccounted : source.Accounted transfer) {size : Nat}
    {before after : σ} {result : Except IoError Bytes}
    (hrun : source.readExact size before = (result, after)) :
    ∃ moved, (result = .ok moved ∧ moved.length = size ∧
        transfer.moves [] moved before after) ∨
      ∃ error, result = .error error ∧ moved.length < size ∧
        transfer.breaks error [] moved before after :=
  haccounted.fill hrun

/-- Bytes that are too few for a header, or for what their header announces, are no frame. -/
theorem not_withinLimit_of_short {header payload : Bytes}
    (h : header.length < frameHeaderSize ∧ payload = [] ∨
      header.length = frameHeaderSize ∧ payload.length < Frame.announced header) :
    ¬ Frame.WithinLimit (header ++ payload) := by
  rintro ⟨-, hlength⟩
  rcases h with ⟨hshort, rfl⟩ | ⟨hheader, hshort⟩
  · rw [List.append_nil] at hlength
    omega
  · rw [Frame.announced_append hheader, List.length_append, hheader] at hlength
    omega

/-- What comes in is, after a success, one whole frame within the limit.  If the stream breaks
off it is none; if it is refused it is a header that announces too much. -/
theorem Accounted.readFrame (haccounted : source.Accounted transfer) {before after : σ}
    {result : Except Error Bytes} (hrun : source.readFrame.run before = (result, after)) :
    ∃ moved, (result = .ok moved ∧ Frame.WithinLimit moved ∧
        transfer.moves [] moved before after) ∨
      (∃ error, result = .error (.io error) ∧ ¬ Frame.WithinLimit moved ∧
        transfer.breaks error [] moved before after) ∨
      result = .error (.protocol (.oversized (Frame.announced moved))) ∧
        moved.length = frameHeaderSize ∧ maxPayloadSize < Frame.announced moved ∧
        transfer.moves [] moved before after := by
  rw [Source.readFrame, exceptT_bind_run_apply, ofStream_run_apply] at hrun
  rcases hread : source.readExact frameHeaderSize before with ⟨outcome, middle⟩
  rw [hread] at hrun
  obtain ⟨header, ⟨rfl, hsize, hmoves⟩ | ⟨error, rfl, hshort, hbreaks⟩⟩ :=
    haccounted.readExact hread
  -- a failure in the header leaves whatever had come in of it
  case inr =>
    cases hrun
    refine ⟨header, Or.inr (Or.inl ⟨error, rfl, ?_, hbreaks⟩)⟩
    simpa using not_withinLimit_of_short (Or.inl ⟨hshort, rfl⟩)
  simp only [mapError_ok, exceptT_bind_run_apply, exceptT_lift_run_apply] at hrun
  -- the header is in; its length field is checked before anything else is read
  by_cases hover : maxPayloadSize < Frame.announced header
  · simp only [Frame.checkLength, hover, if_true] at hrun
    cases hrun
    exact ⟨header, Or.inr (Or.inr ⟨rfl, hsize, hover, hmoves⟩)⟩
  simp only [Frame.checkLength, hover, if_false, ofStream_run_apply] at hrun
  rcases hreadRest : source.readExact (Frame.announced header) middle with ⟨outcome, last⟩
  rw [hreadRest] at hrun
  obtain ⟨payload, ⟨rfl, hlength, hnext⟩ | ⟨error, rfl, hshort, hnext⟩⟩ :=
    haccounted.readExact hreadRest
  · -- header and payload together are the frame that the header announced
    simp only [mapError_ok, exceptT_pure_run_apply] at hrun
    cases hrun
    have hannounced := Frame.announced_append hsize payload
    refine ⟨header ++ payload, Or.inl ⟨rfl, ⟨by omega, ?_⟩, transfer.trans hmoves hnext⟩⟩
    rw [hannounced, List.length_append, hsize, hlength]
  · cases hrun
    exact ⟨header ++ payload, Or.inr (Or.inl ⟨error, rfl,
      not_withinLimit_of_short (Or.inr ⟨hsize, hshort⟩), transfer.broken hmoves hnext⟩)⟩

/-- A header that announces too much is refused for that by whoever decodes it. -/
theorem decode_of_oversized {header : Bytes} (hsize : header.length = frameHeaderSize)
    (hover : maxPayloadSize < Frame.announced header) :
    Response.decode header = .error (.protocol (.oversized (Frame.announced header))) := by
  match header, hsize with
  | [_, _, _, _, _], _ =>
    simp only [Frame.announced, List.drop_succ_cons, List.drop_zero, List.take_succ_cons,
      List.take_zero] at hover
    simp only [Response.decode, Frame.split, Frame.checkLength, hover, if_true]
    rfl

/-- What comes in is what the response is decoded from, or what cannot be decoded; if the
stream breaks off it is no whole frame. -/
theorem Accounted.readResponse (haccounted : source.Accounted transfer) {before after : σ}
    {result : Except Error Response}
    (hrun : source.readResponse.run before = (result, after)) :
    ∃ moved, (∃ response, result = .ok response ∧ Response.decode moved = .ok response ∧
        Frame.WithinLimit moved ∧ transfer.moves [] moved before after) ∨
      (∃ error, result = .error (.io error) ∧ ¬ Frame.WithinLimit moved ∧
        transfer.breaks error [] moved before after) ∨
      ∃ error, result = .error error ∧ Response.decode moved = .error error ∧
        transfer.moves [] moved before after := by
  rw [Source.readResponse, exceptT_bind_run_apply] at hrun
  rcases hread : source.readFrame.run before with ⟨outcome, middle⟩
  rw [hread] at hrun
  obtain ⟨moved, ⟨rfl, hwithin, hmoves⟩ | ⟨error, rfl, hshort, hbreaks⟩ |
    ⟨rfl, hsize, hover, hmoves⟩⟩ := haccounted.readFrame hread
  · simp only [exceptT_lift_run_apply] at hrun
    cases hrun
    cases hdecode : Response.decode moved with
    | ok response => exact ⟨moved, Or.inl ⟨response, rfl, hdecode, hwithin, hmoves⟩⟩
    | error error => exact ⟨moved, Or.inr (Or.inr ⟨error, rfl, hdecode, hmoves⟩)⟩
  · cases hrun
    exact ⟨moved, Or.inr (Or.inl ⟨error, rfl, hshort, hbreaks⟩)⟩
  · cases hrun
    exact ⟨moved, Or.inr (Or.inr ⟨_, rfl, decode_of_oversized hsize hover, hmoves⟩)⟩

end Source
end MaskedList

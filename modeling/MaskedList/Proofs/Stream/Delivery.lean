import MaskedList.Proofs.Stream.Transfer
import MaskedList.Stream.Script

/-!
# Reading frames from streams that deliver

A source delivers a stream if every read gives the next bytes of it, at least one unless
the stream is at its end, in pieces of any size.  Then what is read depends on the
stream alone and not on the pieces: as many bytes as were asked for if they are there,
and a whole frame where one begins.  A script delivers its bytes however they are spread
over its events, and however often it is interrupted in between.  So reading messages
from a script goes from frame to frame, be the frames good or bad inside.
-/

namespace MaskedList

section Delivering

variable {σ : Type}

/-- While the bytes `left` says are still to come, every read gives the next of them. -/
def Source.Delivers (source : Source (StateM σ)) (left : Bytes → σ → Prop) : Prop :=
  ∀ (limit : Nat) (bytes : Bytes) (before : σ), 0 < limit → left bytes before →
    ∃ piece rest after, source.read limit before = (.ok piece, after) ∧
      bytes = piece ++ rest ∧ piece.length ≤ limit ∧ (piece = [] → bytes = []) ∧
      left rest after

namespace Source.Delivers

variable {source : Source (StateM σ)} {left : Bytes → σ → Prop}
variable {front rest frame : Bytes} {before : σ}

/-- Bytes that are there are read, behind those already in hand, and no others. -/
theorem fill (h : source.Delivers left) {need : Nat} {got : Bytes}
    (hneed : front.length = need) (hleft : left (front ++ rest) before) :
    ∃ after, source.fill need got before = (.ok (got.reverse ++ front), after) ∧
      left rest after := by
  -- on how much is still to come in, with the pieces collected so far
  induction need, got using Source.fill.induct generalizing front before with
  | case1 got =>
    obtain rfl := List.length_eq_zero_iff.mp hneed
    rw [Source.fill, dif_pos rfl]
    exact ⟨before, by simp, hleft⟩
  | case2 need got hpositive ih =>
    rw [Source.fill, dif_neg hpositive, stateM_bind_apply]
    obtain ⟨piece, others, after, hread, hbytes, hlength, hsome, hothers⟩ :=
      h need _ before (Nat.pos_of_ne_zero hpositive) hleft
    -- the piece is the beginning of the bytes that are asked for
    have hbegins : piece <+: front :=
      List.prefix_of_prefix_length_le (hbytes ▸ List.prefix_append piece others)
        (List.prefix_append front rest) (hneed ▸ hlength)
    obtain ⟨later, rfl⟩ := hbegins
    obtain rfl : later ++ rest = others := by
      rw [List.append_assoc] at hbytes
      exact List.append_cancel_left hbytes
    rw [hread]
    cases piece with
    | nil =>
      have hnothing := (List.append_eq_nil_iff.mp (hsome rfl)).1
      rw [hnothing] at hneed
      exact absurd hneed.symm hpositive
    | cons byte piece =>
      simp only [List.length_append, List.length_cons] at hneed
      obtain ⟨last, hfill, hlast⟩ := ih byte piece (show later.length = _ by omega) hothers
      refine ⟨last, hfill.trans ?_, hlast⟩
      simp [List.reverseAux_eq]

/-- If fewer bytes are there than are asked for, they are read and the stream is at its end. -/
theorem fill_short (h : source.Delivers left) {need : Nat} {got bytes : Bytes}
    (hshort : bytes.length < need) (hleft : left bytes before) :
    ∃ after, source.fill need got before = (.error .endOfStream, after) ∧ left [] after := by
  induction need, got using Source.fill.induct generalizing bytes before with
  | case1 got => exact absurd hshort (Nat.not_lt_zero _)
  | case2 need got hpositive ih =>
    rw [Source.fill, dif_neg hpositive, stateM_bind_apply]
    obtain ⟨piece, others, after, hread, rfl, -, hsome, hothers⟩ :=
      h need _ before (Nat.pos_of_ne_zero hpositive) hleft
    rw [hread]
    cases piece with
    | nil =>
      rw [List.nil_append] at hsome
      exact ⟨after, rfl, hsome rfl ▸ hothers⟩
    | cons byte piece =>
      simp only [List.length_append, List.length_cons] at hshort
      exact ih byte piece (by omega) hothers

theorem readExact (h : source.Delivers left) (hleft : left (front ++ rest) before) :
    ∃ after, source.readExact front.length before = (.ok front, after) ∧ left rest after :=
  h.fill rfl hleft

theorem readExact_short (h : source.Delivers left) {size : Nat} {bytes : Bytes}
    (hshort : bytes.length < size) (hleft : left bytes before) :
    ∃ after, source.readExact size before = (.error .endOfStream, after) ∧ left [] after :=
  h.fill_short hshort hleft

/-- What follows the header is waited for only if it is within the limit. -/
theorem readFrame_of_header (h : source.Delivers left) {header : Bytes}
    (hheader : header.length = frameHeaderSize) (hleft : left (header ++ rest) before) :
    ∃ after, left rest after ∧ source.readFrame.run before =
      if maxPayloadSize < Frame.announced header then
        (.error (.protocol (.oversized (Frame.announced header))), after)
      else
        ((source.readExact (Frame.announced header) after).1.map (header ++ ·) |>.mapError .io,
          (source.readExact (Frame.announced header) after).2) := by
  obtain ⟨after, hread, hafter⟩ := h.readExact hleft
  rw [hheader] at hread
  refine ⟨after, hafter, ?_⟩
  rw [Source.readFrame, exceptT_bind_run_apply, ofStream_run_apply, hread]
  simp only [mapError_ok, exceptT_bind_run_apply, exceptT_lift_run_apply, Frame.checkLength]
  by_cases hover : maxPayloadSize < Frame.announced header
  · simp only [hover, if_true]
  · simp only [hover, if_false, ofStream_run_apply]
    rcases source.readExact (Frame.announced header) after with ⟨_ | payload, last⟩ <;> rfl

/-- Of a header that announces too much nothing more is read. -/
theorem readFrame_oversized (h : source.Delivers left) {header : Bytes}
    (hheader : header.length = frameHeaderSize)
    (hover : maxPayloadSize < Frame.announced header) (hleft : left (header ++ rest) before) :
    ∃ after, source.readFrame.run before =
        (.error (.protocol (.oversized (Frame.announced header))), after) ∧ left rest after := by
  obtain ⟨after, hafter, hread⟩ := h.readFrame_of_header hheader hleft
  exact ⟨after, by rw [hread, if_pos hover], hafter⟩

/-- A frame is read, and nothing behind it. -/
theorem readFrame (h : source.Delivers left) (hframe : Frame.WithinLimit frame)
    (hleft : left (frame ++ rest) before) :
    ∃ after, source.readFrame.run before = (.ok frame, after) ∧ left rest after := by
  obtain ⟨header, payload, rfl, hheader, hpayload, hlimit⟩ := hframe.exists_header
  rw [List.append_assoc] at hleft
  obtain ⟨after, hafter, hread⟩ := h.readFrame_of_header hheader hleft
  obtain ⟨last, hpayloadRead, hlast⟩ := h.readExact hafter
  rw [hpayload] at hpayloadRead
  rw [if_neg (Nat.not_lt.mpr hlimit), hpayloadRead] at hread
  exact ⟨last, hread, hlast⟩

/-- Of a frame that the stream ends in nothing is read, but all of it has come in. -/
theorem readFrame_short (h : source.Delivers left) (hframe : Frame.WithinLimit frame)
    {short : Bytes} (hshort : short <+: frame) (hne : short ≠ frame)
    (hleft : left short before) :
    ∃ after, source.readFrame.run before = (.error (.io .endOfStream), after) ∧
      left [] after := by
  have hlength : short.length < frame.length :=
    Nat.lt_of_le_of_ne hshort.length_le fun hsame => hne (hshort.eq_of_length hsame)
  by_cases hbegun : short.length < frameHeaderSize
  · obtain ⟨after, hread, hafter⟩ := h.readExact_short hbegun hleft
    refine ⟨after, ?_, hafter⟩
    rw [Source.readFrame, exceptT_bind_run_apply, ofStream_run_apply, hread, mapError_error]
  -- the header is there, and the stream ends in the payload
  obtain ⟨header, payload, rfl, hheader, hpayload, hlimit⟩ := hframe.exists_header
  obtain ⟨begun, rfl⟩ := List.prefix_of_prefix_length_le (List.prefix_append header payload)
    hshort (by omega)
  simp only [List.length_append, hpayload] at hlength
  obtain ⟨after, hafter, hread⟩ := h.readFrame_of_header hheader hleft
  obtain ⟨last, hpayloadRead, hlast⟩ :=
    h.readExact_short (by omega : begun.length < Frame.announced header) hafter
  rw [if_neg (Nat.not_lt.mpr hlimit), hpayloadRead] at hread
  exact ⟨last, hread, hlast⟩

end Source.Delivers

/-- What comes of reading messages from a stream, `left` being what is still to come of it.
Each frame is given to `decode`, be it good or bad inside; of a stream that ends in a frame
and of a header that announces too much no message comes. -/
structure ReadsFrames {α : Type} (left : Bytes → σ → Prop) (read : StateM σ (Except Error α))
    (decode : Bytes → Except Error α) : Prop where
  in_order : ∀ {frames : List Bytes} {tail : Bytes} {before : σ},
    (∀ frame ∈ frames, Frame.WithinLimit frame) → left (frames.flatten ++ tail) before →
      ∃ after, (frames.mapM fun _ => read) before = (frames.map decode, after) ∧
        left tail after
  cut_short : ∀ {frame short : Bytes} {before : σ}, Frame.WithinLimit frame →
    short <+: frame → short ≠ frame → left short before →
      ∃ after, read before = (.error (.io .endOfStream), after) ∧ left [] after
  oversized : ∀ {header rest : Bytes} {before : σ}, header.length = frameHeaderSize →
    maxPayloadSize < Frame.announced header → left (header ++ rest) before →
      ∃ fault after, read before = (.error (.protocol fault), after) ∧ left rest after

namespace Source.Delivers

variable {source : Source (StateM σ)} {left : Bytes → σ → Prop}

/-- A message is what its frame is read as, if there is a frame. -/
theorem readFrame_decode_run_apply {α : Type} (decode : Bytes → Except Error α) (state : σ) :
    (do let frame ← source.readFrame; liftM (decode frame) :
        ExceptT Error (StateM σ) α).run state =
      match source.readFrame.run state with
      | (.ok frame, after) => (decode frame, after)
      | (.error error, after) => (.error error, after) := by
  rw [exceptT_bind_run_apply]
  rcases source.readFrame.run state with ⟨_ | frame, after⟩ <;> rfl

/-- What reads a frame and then looks into it goes from frame to frame. -/
theorem readsFrames {α : Type} (h : source.Delivers left) (decode : Bytes → Except Error α) :
    ReadsFrames left (ExceptT.run do let frame ← source.readFrame; liftM (decode frame))
      decode where
  in_order {frames tail before} hframes hleft := by
    -- one frame after the other, each of them read as if the others were its tail
    induction frames generalizing before with
    | nil => exact ⟨before, rfl, hleft⟩
    | cons frame frames ih =>
      rw [List.flatten_cons, List.append_assoc] at hleft
      obtain ⟨next, hframe, hnext⟩ := h.readFrame (hframes frame List.mem_cons_self) hleft
      obtain ⟨after, hothers, hafter⟩ :=
        ih (fun other hmem => hframes other (List.mem_cons_of_mem frame hmem)) hnext
      refine ⟨after, ?_, hafter⟩
      simp only [List.mapM_cons, stateM_bind_apply, readFrame_decode_run_apply, hframe,
        List.map_cons]
      rw [hothers]
      rfl
  cut_short hframe hshort hne hleft := by
    obtain ⟨after, hfailed, hafter⟩ := h.readFrame_short hframe hshort hne hleft
    exact ⟨after, by rw [readFrame_decode_run_apply, hfailed], hafter⟩
  oversized hheader hover hleft := by
    obtain ⟨after, hfailed, hafter⟩ := h.readFrame_oversized hheader hover hleft
    exact ⟨_, after, by rw [readFrame_decode_run_apply, hfailed], hafter⟩

end Source.Delivers
end Delivering

namespace Script

/-- Events that bring these bytes and then the end of the stream: in any pieces, after any
time, and with any number of interruptions in between. -/
inductive Brings : Bytes → List ReadEvent → Prop
  | nothing : Brings [] []
  | piece {bytes events} (piece) (h : Brings bytes events) :
      Brings (piece ++ bytes) (.data piece :: events)
  | interrupted {bytes events} {error : IoError} (herror : error.isInterruption = true)
      (h : Brings bytes events) : Brings bytes (.fail error :: events)
  | later {bytes events} (count) (h : Brings bytes events) :
      Brings bytes (.pause count :: events)
  | finished {events} (h : Brings [] events) : Brings [] (.finish :: events)

/-- One read gives the next bytes, or it is interrupted and nothing has come in. -/
theorem Brings.readEvents {limit : Nat} {bytes : Bytes} {events : List ReadEvent}
    (h : Brings bytes events) (hlimit : 0 < limit) (elapsed : Nat) :
    (∃ error after, readEvents limit events elapsed = (.error error, after) ∧
      error.isInterruption = true ∧ Brings bytes after.events) ∨
    ∃ piece rest after, readEvents limit events elapsed = (.ok piece, after) ∧
      bytes = piece ++ rest ∧ piece.length ≤ limit ∧ (piece = [] → bytes = []) ∧
      Brings rest after.events := by
  induction h generalizing elapsed with
  | nothing => exact Or.inr ⟨[], [], _, rfl, rfl, Nat.zero_le _, fun _ => rfl, .nothing⟩
  | interrupted herror hevents _ => exact Or.inl ⟨_, _, rfl, herror, hevents⟩
  | later count _ ih => exact ih (elapsed + count)
  | finished hevents _ =>
    exact Or.inr ⟨[], [], _, rfl, rfl, Nat.zero_le _, fun _ => rfl, hevents⟩
  | @piece bytes events piece hevents ih =>
    cases piece with
    | nil => exact ih elapsed
    | cons byte piece =>
      have hsplit := List.take_append_drop limit (byte :: piece)
      have hsome : (byte :: piece).take limit ≠ [] := by
        simp [Nat.ne_of_gt hlimit]
      refine Or.inr ⟨(byte :: piece).take limit, (byte :: piece).drop limit ++ bytes, ?_⟩
      simp only [Script.readEvents, List.splitAt_eq]
      -- what is left of the piece, if anything, stays in the first event
      split
      · rename_i heq
        obtain ⟨rfl, hdrop⟩ := Prod.mk.inj heq
        refine ⟨_, rfl, ?_, List.length_take_le _ _, fun hnone => absurd hnone hsome, ?_⟩
        · rw [← List.append_assoc, hsplit]
        · rw [hdrop]
          exact hevents
      · rename_i heq
        obtain ⟨rfl, rfl⟩ := Prod.mk.inj heq
        refine ⟨_, rfl, ?_, List.length_take_le _ _, fun hnone => absurd hnone hsome, ?_⟩
        · rw [← List.append_assoc, hsplit]
        · exact hevents.piece _

/-- Interruptions are waited out, so the script delivers what its events bring. -/
theorem delivers_source : source.Delivers fun bytes script => Brings bytes script.events := by
  intro limit bytes before hlimit hbrings
  -- the last run is the one that is not interrupted, and until then nothing has come in
  obtain ⟨start, hstart, hlast⟩ := (reading limit).exists_run_eq_persist
    (fun script => Brings bytes script.events) hbrings (by
      intro first error after hfirst hrun _
      obtain ⟨failure, last, hread, -, hafter⟩ | ⟨_, _, _, hread, -⟩ :=
        hfirst.readEvents hlimit first.elapsed
      · obtain ⟨-, rfl⟩ := Prod.mk.inj (hrun.symm.trans hread)
        exact hafter
      · cases hrun.symm.trans hread)
  obtain ⟨error, after, hread, hinterrupted, -⟩ | ⟨piece, rest, after, hread, hpiece⟩ :=
    hstart.readEvents hlimit start.elapsed
  · exact absurd hinterrupted (Attempt.not_isInterruption_of_persist (hlast.symm.trans hread))
  · exact ⟨piece, rest, after, hlast.symm.trans hread, hpiece⟩

/-- However a stream is cut into pieces and however often it is interrupted, commands and
responses are read from it frame by frame.  A stream that ends in a frame has lost its
peer. -/
theorem reads_whole_frames :
    ReadsFrames (fun bytes script => Brings bytes script.events) source.readCommand.run
      Command.decode ∧
    ReadsFrames (fun bytes script => Brings bytes script.events) source.readResponse.run
      Response.decode ∧
    (Error.io .endOfStream).status = .connectionLost :=
  ⟨delivers_source.readsFrames Command.decode, delivers_source.readsFrames Response.decode, rfl⟩

end Script
end MaskedList

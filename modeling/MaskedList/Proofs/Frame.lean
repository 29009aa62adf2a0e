import MaskedList.Response

/-!
# What frames are read back as

A frame whose payload is within the limit splits into what it was made of,
whatever follows it, and what splits is such a frame with something behind it.
A frame is whole if its length field can hold the length of its payload, be it
within the limit or not.  A whole frame is never the beginning of another one, so
a sequence of whole frames has one reading.
-/

namespace MaskedList
namespace Frame

theorem maxPayloadSize_lt_bound : maxPayloadSize < Bytes.bound 4 := by
  decide

/-- A frame whose length field holds the length of its payload. -/
def Whole (frame : Bytes) : Prop :=
  ∃ code payload, payload.length < Bytes.bound 4 ∧ frame = encode code payload

theorem whole_encode (code : UInt8) {payload : Bytes} (hlimit : payload.length ≤ maxPayloadSize) :
    Whole (encode code payload) :=
  ⟨code, payload, Nat.lt_of_le_of_lt hlimit maxPayloadSize_lt_bound, rfl⟩

theorem toNat_length_field {payload : Bytes} (hwhole : payload.length < Bytes.bound 4) :
    Bytes.toNat (Bytes.ofNat 4 payload.length) = payload.length := by
  rw [Bytes.toNat_ofNat, Nat.mod_eq_of_lt hwhole]

@[simp]
theorem length_encode (code : UInt8) (payload : Bytes) :
    (encode code payload).length = frameHeaderSize + payload.length := by
  simp [encode, frameHeaderSize]
  omega

theorem encode_ne_nil (code : UInt8) (payload : Bytes) : encode code payload ≠ [] := by
  simp [encode]

/-- Of two streams that begin with a whole frame, if they are the same, both begin with the
same one. -/
theorem Whole.append_inj {first second rest other : Bytes} (hfirst : Whole first)
    (hsecond : Whole second) (h : first ++ rest = second ++ other) :
    first = second ∧ rest = other := by
  obtain ⟨code, payload, hpayload, rfl⟩ := hfirst
  obtain ⟨tag, body, hbody, rfl⟩ := hsecond
  simp only [encode, List.cons_append, List.append_assoc, List.cons.injEq] at h
  obtain ⟨rfl, h⟩ := h
  obtain ⟨hfields, h⟩ := List.append_inj h (by simp)
  -- equal length fields tell how much of each stream is payload
  have hlength : payload.length = body.length := by
    rw [← toNat_length_field hpayload, ← toNat_length_field hbody, hfields]
  obtain ⟨rfl, hrest⟩ := List.append_inj h hlength
  exact ⟨rfl, hrest⟩

/-- A frame announces the length of its payload. -/
theorem announced_encode_append (code : UInt8) {payload : Bytes}
    (hwhole : payload.length < Bytes.bound 4) (rest : Bytes) :
    announced (encode code payload ++ rest) = payload.length := by
  simp only [announced, encode, List.cons_append, List.drop_succ_cons, List.drop_zero,
    List.append_assoc]
  rw [List.take_left' (Bytes.length_ofNat 4 _), toNat_length_field hwhole]

/-- A header that announces so many bytes as there are behind it, and no more than the limit. -/
structure WithinLimit (frame : Bytes) : Prop where
  announced_le : announced frame ≤ maxPayloadSize
  length_eq : frame.length = frameHeaderSize + announced frame

theorem announced_append {header : Bytes} (hheader : header.length = frameHeaderSize)
    (rest : Bytes) : announced (header ++ rest) = announced header := by
  match header, hheader with
  | [_, _, _, _, _], _ => rfl

theorem WithinLimit.exists_header {frame : Bytes} (h : WithinLimit frame) :
    ∃ header payload, frame = header ++ payload ∧ header.length = frameHeaderSize ∧
      payload.length = announced header ∧ announced header ≤ maxPayloadSize := by
  obtain ⟨hlimit, hlength⟩ := h
  have hheader : (frame.take frameHeaderSize).length = frameHeaderSize :=
    List.length_take_of_le (by omega)
  have hsplit := List.take_append_drop frameHeaderSize frame
  have hannounced := announced_append hheader (frame.drop frameHeaderSize)
  rw [hsplit] at hannounced
  refine ⟨_, _, hsplit.symm, hheader, ?_, hannounced ▸ hlimit⟩
  rw [List.length_drop, hlength, Nat.add_sub_cancel_left, hannounced]

theorem withinLimit_encode (code : UInt8) {payload : Bytes}
    (hlimit : payload.length ≤ maxPayloadSize) : WithinLimit (encode code payload) := by
  have hannounced := announced_encode_append code
    (Nat.lt_of_le_of_lt hlimit maxPayloadSize_lt_bound) []
  rw [List.append_nil] at hannounced
  exact ⟨hannounced ▸ hlimit, by rw [length_encode, hannounced]⟩

/-- A header of the right size is the beginning of the frame that it announces. -/
theorem encode_of_header {header payload : Bytes} (hheader : header.length = frameHeaderSize)
    (hpayload : payload.length = announced header) :
    ∃ code, header ++ payload = encode code payload := by
  -- the four bytes behind the code are the length field
  match header, hheader with
  | [code, a, b, c, d], _ =>
    have hfield : Bytes.ofNat 4 payload.length = [a, b, c, d] := by
      rw [hpayload]
      exact Bytes.ofNat_toNat [a, b, c, d]
    exact ⟨code, by simp [encode, hfield]⟩

/-- A frame within the limit splits into its parts, whatever follows it. -/
theorem split_encode_append (kind : FrameKind) (code : UInt8) {payload : Bytes}
    (hlimit : payload.length ≤ maxPayloadSize) (rest : Bytes) :
    split kind (encode code payload ++ rest) = .ok (code, payload) := by
  have hfield := toNat_length_field (Nat.lt_of_le_of_lt hlimit maxPayloadSize_lt_bound)
  have hwidth : (Bytes.ofNat 4 payload.length).length = 4 := Bytes.length_ofNat 4 _
  simp only [encode, List.cons_append, List.append_assoc]
  match hdigits : Bytes.ofNat 4 payload.length, hwidth with
  | [a, b, c, d], _ =>
    rw [hdigits] at hfield
    -- the header announces what is there, and no more than the limit
    have hcheck : checkLength payload.length = .ok () := by
      simp [checkLength, Nat.not_lt.mpr hlimit]
    have hwhole : ¬ (payload ++ rest).length < payload.length := by
      simp
    simp only [List.cons_append, List.nil_append, split, hfield, hcheck, hwhole, if_false,
      List.take_left]
    rfl

/-- What splits is a frame within the limit with something behind it. -/
theorem eq_encode_append_of_split {kind : FrameKind} {bytes payload : Bytes} {code : UInt8}
    (h : split kind bytes = .ok (code, payload)) :
    payload.length ≤ maxPayloadSize ∧ ∃ rest, bytes = encode code payload ++ rest := by
  match bytes with
  | [] | [_] | [_, _] | [_, _, _] | [_, _, _, _] => simp [split] at h
  | first :: a :: b :: c :: d :: rest =>
    simp only [split, checkLength] at h
    by_cases hover : maxPayloadSize < Bytes.toNat [a, b, c, d]
    · simp [hover, bind, Except.bind] at h
    · by_cases hshort : rest.length < Bytes.toNat [a, b, c, d]
      · simp [hover, hshort, bind, Except.bind, throw, throwThe, MonadExceptOf.throw] at h
      · simp only [hover, hshort, if_false, bind, Except.bind, pure, Except.pure,
          Except.ok.injEq, Prod.mk.injEq] at h
        obtain ⟨rfl, rfl⟩ := h
        have hlength : (rest.take (Bytes.toNat [a, b, c, d])).length =
            Bytes.toNat [a, b, c, d] := by
          rw [List.length_take]
          omega
        have hfield : Bytes.ofNat 4 (Bytes.toNat [a, b, c, d]) = [a, b, c, d] :=
          Bytes.ofNat_toNat [a, b, c, d]
        refine ⟨by omega, rest.drop (Bytes.toNat [a, b, c, d]), ?_⟩
        simp [encode, hlength, hfield]

/-- Bytes that do not split break the protocol. -/
theorem split_eq_error {kind : FrameKind} {bytes : Bytes} {error : Error}
    (h : split kind bytes = .error error) : ∃ fault, error = .protocol fault := by
  match bytes with
  | [] | [_] | [_, _] | [_, _, _] | [_, _, _, _] =>
    exact ⟨_, by simpa [split] using h.symm⟩
  | first :: a :: b :: c :: d :: rest =>
    simp only [split, checkLength, bind, Except.bind] at h
    by_cases hover : maxPayloadSize < Bytes.toNat [a, b, c, d]
    · exact ⟨_, by simpa [hover] using h.symm⟩
    · by_cases hshort : rest.length < Bytes.toNat [a, b, c, d]
      · exact ⟨_, by simpa [hover, hshort, throw, throwThe, MonadExceptOf.throw] using h.symm⟩
      · simp [hover, hshort, pure, Except.pure] at h

end Frame

namespace Response

/-- A response whose payload may travel. -/
def Fits (response : Response) : Prop :=
  response.body.length ≤ maxPayloadSize

instance (response : Response) : Decidable response.Fits :=
  inferInstanceAs (Decidable (_ ≤ _))

/-- Bytes that are no response break the protocol. -/
theorem decode_eq_error {bytes : Bytes} {error : Error} (h : decode bytes = .error error) :
    ∃ fault, error = .protocol fault := by
  simp only [decode, bind, Except.bind] at h
  split at h
  · rename_i failure hsplit
    obtain ⟨fault, rfl⟩ := Frame.split_eq_error hsplit
    exact ⟨fault, by simpa using h.symm⟩
  · split at h
    · exact ⟨_, by simpa [throw, throwThe, MonadExceptOf.throw] using h.symm⟩
    · simp [pure, Except.pure] at h

/-- A frame that is read as a response is that response's frame. -/
theorem encode_of_decode_frame {code : UInt8} {payload : Bytes} {response : Response}
    (hlimit : payload.length ≤ maxPayloadSize)
    (h : decode (Frame.encode code payload) = .ok response) :
    response.encode = Frame.encode code payload ∧ response.Fits := by
  have hsplit : Frame.split .response (Frame.encode code payload) = .ok (code, payload) := by
    simpa using Frame.split_encode_append .response code hlimit []
  simp only [decode, hsplit, bind, Except.bind] at h
  split at h
  · simp [throw, throwThe, MonadExceptOf.throw] at h
  · rename_i status hstatus
    simp only [pure, Except.pure, Except.ok.injEq] at h
    have hcode := Status.code_of_ofCode? hstatus
    have hbody : response.body = payload := by
      rw [← h]
      cases payload <;> simp [body]
    have hstatus : response.status = status := by rw [← h]
    exact ⟨by rw [encode, hstatus, hcode, hbody], by rw [Fits, hbody]; exact hlimit⟩

/-- The response as it is read from its frame. -/
def received (response : Response) : Response :=
  ⟨response.status, if response.body.isEmpty then none else some response.body⟩

@[simp]
theorem status_received (response : Response) : response.received.status = response.status := rfl

@[simp]
theorem body_received (response : Response) : response.received.body = response.body := by
  rw [received, body]
  cases response.body <;> rfl

/-- A response that may travel is read from its frame, whatever follows it. -/
theorem decode_encode_append {response : Response} (hfits : response.Fits) (rest : Bytes) :
    decode (response.encode ++ rest) = .ok response.received := by
  rw [decode, encode, Frame.split_encode_append .response _ hfits rest]
  simp only [bind, Except.bind, Status.ofCode?_code]
  rfl

theorem withinLimit_encode {response : Response} (hfits : response.Fits) :
    Frame.WithinLimit response.encode :=
  Frame.withinLimit_encode response.status.code hfits

theorem whole_encode {response : Response} (hfits : response.Fits) :
    Frame.Whole response.encode :=
  Frame.whole_encode response.status.code hfits

/-- A response's frame tells its status. -/
theorem status_of_encode_eq {first second : Response} (h : first.encode = second.encode) :
    first.status = second.status := by
  have hcode : first.status.code = second.status.code := (List.cons.inj h).1
  have hstatus := Status.ofCode?_code first.status
  rw [hcode, Status.ofCode?_code] at hstatus
  exact (Option.some.inj hstatus).symm

end Response
end MaskedList

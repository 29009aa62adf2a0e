import MaskedList.Proofs.Frame

/-!
# Which bytes are responses

A response whose payload may travel is read back from its frame with the same status and
the same payload, whatever follows the frame; only the difference between no payload and
an empty one is lost.  Bytes are a response exactly if they begin with a known status code
and a length within the limit, and as many bytes follow: what is read then has the bytes up
to there as its frame.
-/

namespace MaskedList
namespace Frame

/-- Bytes that hold at least as much as they announce begin with a frame. -/
theorem exists_eq_encode_append {bytes : Bytes}
    (hwhole : frameHeaderSize + announced bytes ≤ bytes.length) :
    ∃ code payload rest, payload.length = announced bytes ∧
      bytes = encode code payload ++ rest := by
  have hsplit : bytes = bytes.take frameHeaderSize ++ bytes.drop frameHeaderSize :=
    (List.take_append_drop frameHeaderSize bytes).symm
  have hheader : (bytes.take frameHeaderSize).length = frameHeaderSize :=
    List.length_take_of_le (by omega)
  have hannounced : announced bytes = announced (bytes.take frameHeaderSize) := by
    have hheaded := announced_append hheader (bytes.drop frameHeaderSize)
    rwa [← hsplit] at hheaded
  -- the payload is what stands behind the header, as far as it was announced
  have hpayload : ((bytes.drop frameHeaderSize).take (announced bytes)).length =
      announced (bytes.take frameHeaderSize) := by
    rw [← hannounced, List.length_take, List.length_drop]
    omega
  obtain ⟨code, hframe⟩ := encode_of_header hheader hpayload
  refine ⟨code, (bytes.drop frameHeaderSize).take (announced bytes),
    (bytes.drop frameHeaderSize).drop (announced bytes), hpayload.trans hannounced.symm, ?_⟩
  rw [← hframe, List.append_assoc, List.take_append_drop]
  exact hsplit

end Frame

namespace Response

variable {bytes : Bytes} {response : Response}

@[simp]
theorem length_encode (response : Response) :
    response.encode.length = frameHeaderSize + response.body.length :=
  Frame.length_encode response.status.code response.body

theorem announced_encode_append (hfits : response.Fits) (rest : Bytes) :
    Frame.announced (response.encode ++ rest) = response.body.length :=
  Frame.announced_encode_append response.status.code
    (Nat.lt_of_le_of_lt hfits Frame.maxPayloadSize_lt_bound) rest

/-- What is read as a response begins with that response's frame. -/
theorem eq_encode_append_of_decode (h : decode bytes = .ok response) :
    response.Fits ∧ ∃ rest, bytes = response.encode ++ rest := by
  cases hsplit : Frame.split .response bytes with
  | error error =>
    rw [decode, hsplit] at h
    cases h
  | ok parts =>
    obtain ⟨code, payload⟩ := parts
    obtain ⟨hlimit, rest, hbytes⟩ := Frame.eq_encode_append_of_split hsplit
    -- what follows the frame has no part in what is read
    have hframe : decode (Frame.encode code payload) = .ok response := by
      have halone : Frame.split .response (Frame.encode code payload) = .ok (code, payload) := by
        simpa using Frame.split_encode_append .response code hlimit []
      rw [decode, hsplit] at h
      rw [decode, halone]
      exact h
    obtain ⟨hencode, hfits⟩ := encode_of_decode_frame hlimit hframe
    exact ⟨hfits, rest, by rw [hencode, hbytes]⟩

/-- Bytes within the limit that are read as a response are its frame. -/
theorem eq_encode_of_decode (hdecode : decode bytes = .ok response)
    (hwithin : Frame.WithinLimit bytes) : response.Fits ∧ bytes = response.encode := by
  obtain ⟨hfits, rest, rfl⟩ := eq_encode_append_of_decode hdecode
  have hlength := hwithin.length_eq
  rw [announced_encode_append hfits, List.length_append, length_encode] at hlength
  have hrest : rest = [] := List.eq_nil_of_length_eq_zero (by omega)
  exact ⟨hfits, by rw [hrest, List.append_nil]⟩

/-- No payload is read exactly where there are no bytes of one. -/
theorem payload_received_eq_none_iff : response.received.payload = none ↔ response.body = [] := by
  unfold received
  cases response.body <;> simp

/-- The bytes that are read as a response: a known code, a length within the limit, and as many
bytes as it says. -/
structure Readable (bytes : Bytes) : Prop where
  header : frameHeaderSize ≤ bytes.length
  code : ∃ status : Status, bytes.head? = some status.code
  limit : Frame.announced bytes ≤ maxPayloadSize
  whole : frameHeaderSize + Frame.announced bytes ≤ bytes.length

theorem Readable.exists_decode (h : Readable bytes) : ∃ response, decode bytes = .ok response := by
  obtain ⟨-, ⟨status, hcode⟩, hlimit, hwhole⟩ := h
  obtain ⟨code, payload, rest, hpayload, hbytes⟩ := Frame.exists_eq_encode_append hwhole
  have hstatus : code = status.code := by
    rw [hbytes] at hcode
    exact Option.some.inj hcode
  have hfits : (⟨status, some payload⟩ : Response).Fits := by
    show payload.length ≤ maxPayloadSize
    omega
  refine ⟨(⟨status, some payload⟩ : Response).received, ?_⟩
  rw [hbytes, hstatus]
  exact decode_encode_append hfits rest

theorem readable_encode_append (hfits : response.Fits) (rest : Bytes) :
    Readable (response.encode ++ rest) := by
  have hannounced := announced_encode_append hfits rest
  constructor
  · simp
    omega
  · exact ⟨response.status, rfl⟩
  · rw [hannounced]
    exact hfits
  · rw [hannounced]
    simp

/-- A response that may travel is read back from its frame, whatever follows it, with its
status and its payload; none is read exactly where the payload is empty.  Bytes are read as a
response exactly if they have a header with the code of a status and a length within the limit,
and at least as many bytes behind it; then the frame of what is read is the bytes up to there. -/
theorem read_back_and_readable_exactly :
    (∀ (response : Response) (extra : Bytes), response.Fits →
      ∃ read, decode (response.encode ++ extra) = .ok read ∧ read.status = response.status ∧
        read.body = response.body ∧ (read.payload = none ↔ response.body = [])) ∧
    (∀ bytes : Bytes, (∃ response, decode bytes = .ok response) ↔ Readable bytes) ∧
    ∀ (bytes : Bytes) (response : Response), decode bytes = .ok response →
      response.encode = bytes.take (frameHeaderSize + Frame.announced bytes) := by
  refine ⟨?_, ?_, ?_⟩
  · intro response extra hfits
    exact ⟨response.received, decode_encode_append hfits extra, rfl, body_received response,
      payload_received_eq_none_iff⟩
  · intro bytes
    constructor
    · rintro ⟨response, hdecode⟩
      obtain ⟨hfits, rest, rfl⟩ := eq_encode_append_of_decode hdecode
      exact readable_encode_append hfits rest
    · exact Readable.exists_decode
  · intro bytes response hdecode
    obtain ⟨hfits, rest, rfl⟩ := eq_encode_append_of_decode hdecode
    rw [announced_encode_append hfits, ← length_encode, List.take_left]

/-- An empty payload is read as none, and the byte behind the frame is left alone. -/
example : decode ((⟨.empty, some []⟩ : Response).encode ++ [7]) = .ok ⟨.empty, none⟩ := by
  cbv

end Response
end MaskedList

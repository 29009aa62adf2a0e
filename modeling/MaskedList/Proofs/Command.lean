import MaskedList.Command.Wire
import MaskedList.Proofs.Field
import MaskedList.Proofs.Frame

/-!
# Commands and their frames

A command has a frame exactly if its payload is within the limit, and the frame is
read back as this command and no other, whatever follows it.  Nothing else is read as
a command: what is accepted begins with the frame of what it is read as, and all other
bytes break the protocol.
-/

namespace MaskedList
namespace Command

/-- The size of a command's payload: each text and each value has four bytes of length in
front of it, positions and numbers take four bytes, kinds and tags one. -/
def size : Command → Nat
  | .ping | .dump | .statSys => 0
  | .stat key | .clean key | .rmKey key => 4 + key.utf8ByteSize
  | .range key _ mask _ _ => (4 + key.utf8ByteSize) + 1 + (4 + mask.utf8ByteSize) + 4 + 4
  | .count key mask | .deleteByMask key mask =>
    (4 + key.utf8ByteSize) + (4 + mask.utf8ByteSize)
  | .create key _ mask _ _ => (4 + key.utf8ByteSize) + 4 + (4 + mask.utf8ByteSize) + 1 + 1
  | .delete key value => (4 + key.utf8ByteSize) + (4 + value.length)
  | .insert key value mask _ =>
    (4 + key.utf8ByteSize) + (4 + value.length) + (4 + mask.utf8ByteSize) + 4
  | .move key value _ => (4 + key.utf8ByteSize) + (4 + value.length) + 4
  | .setMask key value mask | .lpush key value mask | .rpush key value mask =>
    (4 + key.utf8ByteSize) + (4 + value.length) + (4 + mask.utf8ByteSize)
  | .setTag key value _ => (4 + key.utf8ByteSize) + (4 + value.length) + 1
  | .lpop key _ | .rpop key _ => (4 + key.utf8ByteSize) + 4

theorem fieldsSize_fields (command : Command) :
    fieldsSize command.opcode.layout command.fields = command.size := by
  cases command <;> simp only [opcode, fields, fieldsSize, FieldType.size, size] <;> omega

theorem length_payload (command : Command) : command.payload.length = command.size := by
  rw [payload, length_encodeFields, fieldsSize_fields]

/-! ## Encoding -/

section Encoding

variable {command : Command} {frame : Bytes}

theorem encode_of_size_le (h : command.size ≤ maxPayloadSize) :
    command.encode = .ok (Frame.encode command.opcode.code command.payload) := by
  rw [← length_payload] at h
  exact if_neg (Nat.not_lt.mpr h)

theorem encode_of_lt_size (h : maxPayloadSize < command.size) :
    command.encode = .error (.payloadTooLarge command.size maxPayloadSize) := by
  rw [← length_payload] at h ⊢
  exact if_pos h

theorem encode_eq_ok (h : command.encode = .ok frame) :
    command.payload.length ≤ maxPayloadSize ∧
      frame = Frame.encode command.opcode.code command.payload := by
  simp only [encode] at h
  split at h
  · cases h
  · rename_i hlimit
    exact ⟨Nat.le_of_not_lt hlimit, (Except.ok.inj h).symm⟩

/-- The only thing that can be wrong with a command is its size. -/
theorem encode_eq_error {error : Error} (h : command.encode = .error error) :
    maxPayloadSize < command.payload.length ∧
      error = .payloadTooLarge command.payload.length maxPayloadSize := by
  simp only [encode] at h
  split at h
  · rename_i hlimit
    exact ⟨hlimit, (Except.error.inj h).symm⟩
  · cases h

theorem exists_encode_eq_ok_iff :
    (∃ frame, command.encode = .ok frame) ↔ command.size ≤ maxPayloadSize := by
  refine ⟨?_, fun h => ⟨_, encode_of_size_le h⟩⟩
  rintro ⟨frame, hframe⟩
  rw [← length_payload]
  exact (encode_eq_ok hframe).1

theorem whole_of_encode (h : command.encode = .ok frame) : Frame.Whole frame := by
  obtain ⟨hlimit, rfl⟩ := encode_eq_ok h
  exact Frame.whole_encode _ hlimit

theorem withinLimit_of_encode (h : command.encode = .ok frame) : Frame.WithinLimit frame := by
  obtain ⟨hlimit, rfl⟩ := encode_eq_ok h
  exact Frame.withinLimit_encode _ hlimit

theorem size_lt_bound (h : command.payload.length ≤ maxPayloadSize) :
    fieldsSize command.opcode.layout command.fields < Bytes.bound 4 := by
  rw [fieldsSize_fields, ← length_payload]
  exact Nat.lt_of_le_of_lt h Frame.maxPayloadSize_lt_bound

end Encoding

/-! ## Decoding -/

section Decoding

variable {command : Command} {bytes frame : Bytes}

/-- What a frame is read as is decided by its code and its payload alone. -/
theorem decode_frame_append (code : UInt8) {payload : Bytes}
    (hlimit : payload.length ≤ maxPayloadSize) (rest : Bytes) :
    decode (Frame.encode code payload ++ rest) =
      match Opcode.ofCode? code with
      | none => .error (.protocol (.unknownOpcode code))
      | some opcode =>
        match decodeAllFields opcode.layout payload with
        | .error fault => .error (.protocol (.fields opcode fault))
        | .ok values => .ok (ofFields opcode values) := by
  simp only [decode, Frame.split_encode_append .command code hlimit, bind, Except.bind]
  rfl

/-- A frame is read back as the command that it was made of, whatever follows it. -/
theorem decode_append_of_encode (h : command.encode = .ok frame) (rest : Bytes) :
    decode (frame ++ rest) = .ok command := by
  obtain ⟨hlimit, rfl⟩ := encode_eq_ok h
  have hfields : decodeAllFields command.opcode.layout command.payload = .ok command.fields :=
    decodeAllFields_encodeFields (size_lt_bound hlimit)
  simp only [decode_frame_append _ hlimit, Opcode.ofCode?_code, hfields, ofFields_fields]

theorem payload_ofFields (opcode : Opcode) (values : FieldValues opcode.layout) :
    (ofFields opcode values).payload = encodeFields opcode.layout values := by
  cases opcode <;> rfl

/-- What is read as a command begins with the frame of that command. -/
theorem eq_frame_append_of_decode (h : decode bytes = .ok command) :
    command.payload.length ≤ maxPayloadSize ∧
      ∃ rest, bytes = Frame.encode command.opcode.code command.payload ++ rest := by
  rcases hsplit : Frame.split .command bytes with error | ⟨code, payload⟩
  · simp only [decode, hsplit, bind, Except.bind] at h
    cases h
  obtain ⟨hlimit, rest, rfl⟩ := Frame.eq_encode_append_of_split hsplit
  rw [decode_frame_append code hlimit] at h
  split at h
  · cases h
  rename_i opcode hopcode
  split at h
  · cases h
  rename_i values hvalues
  cases h
  -- code and payload are the only ones that are read so
  have hpayload : (ofFields opcode values).payload = payload := by
    rw [payload_ofFields, eq_encodeFields_of_decodeAllFields hvalues]
  rw [opcode_ofFields, hpayload, Opcode.code_of_ofCode? hopcode]
  exact ⟨hlimit, rest, rfl⟩

theorem encode_of_decode (h : decode bytes = .ok command) :
    ∃ frame, command.encode = .ok frame ∧ frame <+: bytes := by
  obtain ⟨hlimit, rest, rfl⟩ := eq_frame_append_of_decode h
  rw [length_payload] at hlimit
  exact ⟨_, encode_of_size_le hlimit, List.prefix_append _ _⟩

/-- Bytes that are no command break the protocol. -/
theorem decode_eq_error {error : Error} (h : decode bytes = .error error) :
    ∃ fault, error = .protocol fault := by
  rcases hsplit : Frame.split .command bytes with failure | ⟨code, payload⟩
  · obtain ⟨fault, rfl⟩ := Frame.split_eq_error hsplit
    simp only [decode, hsplit, bind, Except.bind, Except.error.injEq] at h
    exact ⟨fault, h.symm⟩
  obtain ⟨hlimit, rest, rfl⟩ := Frame.eq_encode_append_of_split hsplit
  rw [decode_frame_append code hlimit] at h
  split at h
  · exact ⟨_, (Except.error.inj h).symm⟩
  · split at h
    · exact ⟨_, (Except.error.inj h).symm⟩
    · cases h

/-- Whatever is not read as a command breaks the protocol. -/
theorem decode_eq_protocol (h : ∀ command, decode bytes ≠ .ok command) :
    ∃ fault, decode bytes = .error (.protocol fault) := by
  cases hdecode : decode bytes with
  | ok command => exact absurd hdecode (h command)
  | error error =>
    obtain ⟨fault, rfl⟩ := decode_eq_error hdecode
    exact ⟨fault, rfl⟩

/-- The fields of a command are read back from its payload, whatever follows it. -/
theorem decodeFields_payload_append {opcode : Opcode} (hopcode : command.opcode = opcode)
    (hlimit : command.payload.length ≤ maxPayloadSize) (rest : Bytes) :
    (decodeFields opcode.layout (command.payload ++ rest)).map
      (fun parts => (ofFields opcode parts.1, parts.2)) = .ok (command, rest) := by
  subst hopcode
  rw [payload, decodeFields_encodeFields_append _ (size_lt_bound hlimit)]
  simp only [Except.map, ofFields_fields]

/-- Of two payloads of one opcode neither is the beginning of the other. -/
theorem payload_append_inj {other : Command} {rest more : Bytes}
    (hopcode : command.opcode = other.opcode) (hlimit : command.payload.length ≤ maxPayloadSize)
    (hother : other.payload.length ≤ maxPayloadSize)
    (h : command.payload ++ rest = other.payload ++ more) : command = other := by
  have hfirst := decodeFields_payload_append hopcode hlimit rest
  rw [h, decodeFields_payload_append rfl hother more] at hfirst
  exact (congrArg Prod.fst (Except.ok.inj hfirst)).symm

theorem decode_eq_ok_iff :
    decode bytes = .ok command ↔
      Frame.announced bytes ≤ maxPayloadSize ∧
        command.encode = .ok (bytes.take (frameHeaderSize + Frame.announced bytes)) := by
  constructor
  · intro h
    obtain ⟨hlimit, rest, rfl⟩ := eq_frame_append_of_decode h
    have hwhole := Nat.lt_of_le_of_lt hlimit Frame.maxPayloadSize_lt_bound
    rw [Frame.announced_encode_append _ hwhole, List.take_left' (Frame.length_encode _ _)]
    exact ⟨hlimit, encode_of_size_le (length_payload command ▸ hlimit)⟩
  · rintro ⟨-, h⟩
    have hdecode := decode_append_of_encode h
      (bytes.drop (frameHeaderSize + Frame.announced bytes))
    rwa [List.take_append_drop] at hdecode

/-- Of a frame that is cut short nothing is read. -/
theorem decode_of_cut_short {short : Bytes} (hframe : command.encode = .ok frame)
    (hshort : short <+: frame) (hne : short ≠ frame) (other : Command) :
    decode short ≠ .ok other := by
  intro h
  obtain ⟨begun, hbegun, hprefix⟩ := encode_of_decode h
  obtain ⟨rest, hrest⟩ := hshort
  obtain ⟨more, rfl⟩ := hprefix
  -- the frame in what is left of it would be the beginning of another whole frame
  have hsame : begun ++ (more ++ rest) = frame ++ [] := by
    rw [List.append_nil, ← hrest, List.append_assoc]
  obtain ⟨rfl, hnothing⟩ := (whole_of_encode hbegun).append_inj (whole_of_encode hframe) hsame
  exact hne (by rw [(List.append_eq_nil_iff.mp hnothing).1, List.append_nil])

/-- A header has to announce the payload as long as it is, no bytes more or less. -/
theorem decode_of_wrong_length {length : Nat} (hlimit : command.size ≤ maxPayloadSize)
    (hlength : length < Bytes.bound 4) (hne : length ≠ command.size) (extra : Bytes)
    (other : Command) :
    decode (command.opcode.code :: (Bytes.ofNat 4 length ++ (command.payload ++ extra))) ≠
      .ok other := by
  rw [← length_payload] at hlimit hne
  intro h
  obtain ⟨hother, rest, hbytes⟩ := eq_frame_append_of_decode h
  simp only [Frame.encode, List.cons_append, List.append_assoc, List.cons.injEq] at hbytes
  obtain ⟨hcode, hbytes⟩ := hbytes
  obtain ⟨hfield, hpayload⟩ := List.append_inj hbytes (by simp)
  have hopcode : command.opcode = other.opcode := by
    have hknown := Opcode.ofCode?_code command.opcode
    rw [hcode, Opcode.ofCode?_code] at hknown
    exact (Option.some.inj hknown).symm
  -- the payload that was read begins like the other one, so they are the same
  obtain rfl := payload_append_inj hopcode hlimit hother hpayload
  have hwhole := Nat.lt_of_le_of_lt hlimit Frame.maxPayloadSize_lt_bound
  have hannounced := congrArg Bytes.toNat hfield
  rw [Frame.toNat_length_field hwhole, Bytes.toNat_ofNat, Nat.mod_eq_of_lt hlength] at hannounced
  exact hne hannounced

theorem decode_of_unknown_code {code : UInt8} (hcode : Opcode.ofCode? code = none) (rest : Bytes)
    (command : Command) : decode (code :: rest) ≠ .ok command := by
  intro h
  obtain ⟨-, more, hbytes⟩ := eq_frame_append_of_decode h
  rw [(List.cons.inj hbytes).1, Opcode.ofCode?_code] at hcode
  cases hcode

/-- A garbled field spoils the whole frame, whatever stands before and after it. -/
theorem decode_of_garbled {opcode : Opcode} {before after : List FieldType} {type : FieldType}
    {values : FieldValues before} {raw rest : Bytes}
    (hlayout : opcode.layout = before ++ type :: after) (hraw : type.Garbled raw)
    (hlength : (encodeFields before values ++ (raw ++ rest)).length < Bytes.bound 4)
    (command : Command) :
    decode (Frame.encode opcode.code (encodeFields before values ++ (raw ++ rest))) ≠
      .ok command := by
  intro h
  obtain ⟨frame, hframe, more, hbytes⟩ := encode_of_decode h
  have hwhole : Frame.Whole (Frame.encode opcode.code (encodeFields before values ++
      (raw ++ rest))) := ⟨_, _, hlength, rfl⟩
  -- the frame of the command would be this one, so the payload would be within the limit
  obtain ⟨hsame, -⟩ := (whole_of_encode hframe).append_inj hwhole
    (hbytes.trans (List.append_nil _).symm)
  obtain ⟨hlimit, hencode⟩ := encode_eq_ok hframe
  have hpayload := congrArg List.length (hsame.symm.trans hencode)
  rw [Frame.length_encode, Frame.length_encode] at hpayload
  have hsize : fieldsSize before values < Bytes.bound 4 := by
    rw [List.length_append, length_encodeFields] at hlength
    omega
  obtain ⟨fault, hfault⟩ := decodeAllFields_of_garbled hlayout hsize hraw rest
  have hdecode := decode_frame_append opcode.code (by omega :
    (encodeFields before values ++ (raw ++ rest)).length ≤ maxPayloadSize) []
  rw [List.append_nil, h] at hdecode
  simp only [Opcode.ofCode?_code, hfault] at hdecode
  cases hdecode

/-- No two frames are read as the same command. -/
theorem eq_of_decode_eq {first second : Bytes} (hfirst : Frame.Whole first)
    (hsecond : Frame.Whole second) (hdecode : decode first = .ok command)
    (hsame : decode second = .ok command) : first = second := by
  have hframe : ∀ {bytes : Bytes}, Frame.Whole bytes → decode bytes = .ok command →
      command.encode = .ok bytes := by
    intro bytes hbytes h
    obtain ⟨frame, hencode, rest, hrest⟩ := encode_of_decode h
    obtain ⟨rfl, -⟩ := (whole_of_encode hencode).append_inj hbytes
      (hrest.trans (List.append_nil _).symm)
    exact hencode
  have hboth := hframe hfirst hdecode
  rw [hframe hsecond hsame] at hboth
  exact (Except.ok.inj hboth).symm

end Decoding

/-- A command has a frame exactly if its payload is within the limit; where it is not, the
caller is told its size.  A frame is read back as the one command that has it, whatever
follows it, and every text and every value in it stands behind its true length. -/
theorem encode_exact_and_reversible (command : Command) :
    ((∃ frame, command.encode = .ok frame) ↔ command.size ≤ maxPayloadSize) ∧
    (maxPayloadSize < command.size →
      command.encode = .error (.payloadTooLarge command.size maxPayloadSize)) ∧
    ∀ frame, command.encode = .ok frame →
      (∀ extra, decode (frame ++ extra) = .ok command) ∧
      (∀ field ∈ sizedFields command.opcode.layout command.fields,
        Bytes.ofNat 4 field.length ++ field <:+: frame ∧
          Bytes.toNat (Bytes.ofNat 4 field.length) = field.length) ∧
      ∀ other : Command, other.encode = .ok frame → other = command := by
  refine ⟨exists_encode_eq_ok_iff, encode_of_lt_size, ?_⟩
  intro frame hframe
  have hdecode := decode_append_of_encode hframe
  refine ⟨hdecode, ?_, ?_⟩
  · intro field hmem
    obtain ⟨hlimit, rfl⟩ := encode_eq_ok hframe
    have hwithin : encodeSized field <:+: command.payload := encodeSized_infix_encodeFields hmem
    have hlength := hwithin.length_le
    rw [length_encodeSized] at hlength
    refine ⟨hwithin.trans ?_, Frame.toNat_length_field ?_⟩
    · exact ⟨command.opcode.code :: Bytes.ofNat 4 command.payload.length, [], by
        simp [Frame.encode]⟩
    · have hbound := Frame.maxPayloadSize_lt_bound
      omega
  · intro other hother
    have hsame := decode_append_of_encode hother []
    rw [hdecode []] at hsame
    exact (Except.ok.inj hsame).symm

/-- Bytes are read as a command exactly if they begin with its frame, whose length is the one
that they announce; all other bytes break the protocol.  So does every frame that is cut
short or announces another length than that of its payload, has an opcode, a kind or a type
that is unknown or a text that is not UTF-8; and no two frames are read as one command. -/
theorem decode_accepts_frames_alone :
    (∀ bytes command, decode bytes = .ok command ↔
      Frame.announced bytes ≤ maxPayloadSize ∧
        command.encode = .ok (bytes.take (frameHeaderSize + Frame.announced bytes))) ∧
    (∀ bytes, (¬ ∃ (command : Command) (frame : Bytes),
        command.encode = .ok frame ∧ frame <+: bytes) →
      ∃ fault, decode bytes = .error (.protocol fault)) ∧
    (∀ (command : Command) (frame short : Bytes), command.encode = .ok frame →
      short <+: frame → short ≠ frame → ∃ fault, decode short = .error (.protocol fault)) ∧
    (∀ (command : Command) (length : Nat) (extra : Bytes), command.size ≤ maxPayloadSize →
      length < Bytes.bound 4 → length ≠ command.size →
      ∃ fault, decode (command.opcode.code ::
        (Bytes.ofNat 4 length ++ (command.payload ++ extra))) = .error (.protocol fault)) ∧
    (∀ code rest, Opcode.ofCode? code = none →
      ∃ fault, decode (code :: rest) = .error (.protocol fault)) ∧
    (∀ (opcode : Opcode) (before after : List FieldType) (type : FieldType)
        (values : FieldValues before) (raw rest : Bytes),
      opcode.layout = before ++ type :: after → type.Garbled raw →
      (encodeFields before values ++ (raw ++ rest)).length < Bytes.bound 4 →
      ∃ fault, decode (Frame.encode opcode.code (encodeFields before values ++ (raw ++ rest))) =
        .error (.protocol fault)) ∧
    ∀ (first second : Bytes) (command : Command), Frame.Whole first → Frame.Whole second →
      decode first = .ok command → decode second = .ok command → first = second := by
  refine ⟨fun _ _ => decode_eq_ok_iff, ?_, ?_, ?_, ?_, ?_, fun _ _ _ => eq_of_decode_eq⟩
  · intro bytes hnone
    exact decode_eq_protocol fun command h => hnone ⟨command, encode_of_decode h⟩
  · intro command frame short hframe hshort hne
    exact decode_eq_protocol (decode_of_cut_short hframe hshort hne)
  · intro command length extra hlimit hlength hne
    exact decode_eq_protocol (decode_of_wrong_length hlimit hlength hne extra)
  · intro code rest hcode
    exact decode_eq_protocol (decode_of_unknown_code hcode rest)
  · intro opcode before after type values raw rest hlayout hraw hlength
    exact decode_eq_protocol (decode_of_garbled hlayout hraw hlength)

end Command
end MaskedList

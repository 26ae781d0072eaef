import BrokerWire.Proofs.Message.Stages

/-!
# Coherence of messages

The parts of a message that has been read belong together. Its headers are those of its frame, its
body is one of the template that the headers name, its payload stands in the frame where the
headers say, and its value is the one of the payload.
-/
namespace BrokerWire.Message

/-- Where the length of the payload stands in the body of the frame: behind the block. -/
def payloadOffset (message : Message) : Nat :=
  message.headers.bodyOffset + message.headers.descriptor.blockLength.toNat

/-- The parts of a message belong together, and each of them is the one of the frame. -/
structure Coherent (unknown : UnknownTemplates) (frame : Frame) (message : Message) : Prop where
  /-- The headers are those of the frame. -/
  headers : Headers.read frame =
    .ok (message.headers, frame.body.drop message.headers.bodyOffset)
  /-- The frame opens with the number of the protocol. -/
  protocol : frame.wordAt 0 = message.headers.envelope.protocol.id
  /-- Exactly requests and their responses have correlation words. -/
  correlated : message.correlation?.isSome = true ↔
    message.headers.envelope.protocol = .requestResponse
  /-- The descriptor begins behind the correlation words, if there are any. -/
  offset : message.headers.descriptorOffset = if message.correlation?.isSome then 18 else 2
  /-- The body is one of the template that the descriptor names. -/
  template : message.template? = Template.ofId? message.headers.descriptor.templateId
  /-- A body is not recognised exactly where the template is not known. -/
  unrecognized : message.body.isUnrecognized = true ↔
    message.headers.descriptor.templateId ∉ [11, 20, 21, 30]
  /-- Such a body is passed on under the policy for that only, with all bytes behind the headers. -/
  passed : message.body.isUnrecognized = true → unknown = .skip ∧
    message.body = .unrecognized message.headers.descriptor.templateId
      (frame.body.drop message.headers.bodyOffset)
  /-- The payload of any other body is what stands behind the block and its own length, all of it
  inside the frame, and the value of the message is the value of that document. -/
  carried : message.body.isUnrecognized = false →
    let length := (frame.wordAt message.payloadOffset).toNat
    let payload := (frame.body.drop (message.payloadOffset + 2)).take length
    message.payloadOffset + 2 + length ≤ frame.body.length ∧
      message.body.payload? = some payload ∧
      ∃ value, MessagePack.decodeValue payload = .ok value ∧ message.payload = some value
  /-- A value is absent only from a body that is not recognised. -/
  absent : message.payload = none ↔ message.body.isUnrecognized = true
  /-- Reading the payload as a value gives the same value. -/
  typed : message.payloadAs? MessagePack.Target.value = message.payload.map .ok

variable {unknown : UnknownTemplates} {frame : Frame} {message : Message}

/-- Exactly requests and their responses have correlation words. -/
theorem isSome_correlation?_iff :
    message.correlation?.isSome = true ↔
      message.headers.envelope.protocol = .requestResponse := by
  unfold correlation?
  cases message.headers.envelope <;> simp [Envelope.correlation?, Envelope.protocol]

/-- Correlation words move the descriptor behind them. -/
theorem descriptorOffset_eq :
    message.headers.descriptorOffset = if message.correlation?.isSome then 18 else 2 := by
  unfold correlation? Headers.descriptorOffset
  cases message.headers.envelope <;> rfl

/-- Data that fit stand behind the word of their length, wherever they are written in a frame. -/
theorem data_of_written {before data after : Bytes}
    (fits : data.length < Word.limit dataLengthSize)
    (body : frame.body = before ++ (writeData data ++ after)) :
    (frame.wordAt before.length).toNat = data.length ∧
      before.length + 2 + data.length ≤ frame.body.length ∧
      (frame.body.drop (before.length + 2)).take data.length = data := by
  have counted : (UInt16.ofNat data.length).toNat = data.length := UInt16.toNat_ofNat_of_lt' fits
  have opening : frame.body =
      before ++ (Word.write16 (UInt16.ofNat data.length) ++ (data ++ after)) := by
    rw [body, writeData, Word.write16_ofNat fits, List.append_assoc]
    rfl
  have word := Frame.wordAt_length opening
  refine ⟨by rw [word, counted], ?_, ?_⟩
  · rw [body]
    simp only [writeData, List.length_append, Word.length_little, dataLengthSize]
    omega
  · rw [body, writeData, dataLengthSize, ← List.drop_drop, List.drop_left, List.append_assoc,
      List.drop_left' (Word.length_little 2 data.length), List.take_left]

variable {headers : Headers}

/-- A message that is passed on as it is, is coherent. -/
theorem coherent_of_passed
    (opened : Headers.read frame = .ok (headers, frame.body.drop headers.bodyOffset))
    (unlisted : headers.descriptor.templateId ∉ [11, 20, 21, 30]) (skipping : unknown = .skip) :
    Coherent unknown frame
      ⟨headers, .unrecognized headers.descriptor.templateId
        (frame.body.drop headers.bodyOffset), none⟩ where
  headers := opened
  protocol := Headers.wordAt_zero opened
  correlated := isSome_correlation?_iff
  offset := descriptorOffset_eq
  template := (Template.ofId?_eq_none_iff.mpr unlisted).symm
  unrecognized := iff_of_true rfl unlisted
  passed := fun _ => ⟨skipping, rfl⟩
  carried := fun recognized => by contradiction
  absent := iff_of_true rfl rfl
  typed := rfl

/-- A message whose body has been read is coherent. -/
theorem coherent_of_read {template : Template} {body : Body} {payload : Bytes} {value : Value}
    (opened : Headers.read frame = .ok (headers, frame.body.drop headers.bodyOffset))
    (listed : headers.descriptor.templateId = template.id)
    (found : Body.read template headers.descriptor.blockLength headers.descriptor.version
      (frame.body.drop headers.bodyOffset) = .ok body)
    (carried : body.payload? = some payload)
    (decoded : MessagePack.decodeValue payload = .ok value) :
    Coherent unknown frame ⟨headers, body, some value⟩ := by
  have known := Template.ofId?_eq_some_iff.mpr listed
  have same := Body.template?_of_read found
  have recognized := Body.isUnrecognized_eq_false same
  have listed : ¬headers.descriptor.templateId ∉ [11, 20, 21, 30] := by
    rw [← Template.ofId?_eq_none_iff, known]
    exact Option.some_ne_none template
  obtain ⟨block, data, trailing, split, length, -, fits, rfl⟩ := Body.read_eq_ok_iff.mp found
  obtain rfl : data = payload := by simpa using carried
  have place : (headers.write ++ block).length =
      headers.bodyOffset + headers.descriptor.blockLength.toNat := by
    rw [List.length_append, Headers.length_write, length]
  have whole : frame.body = (headers.write ++ block) ++ (writeData data ++ trailing) := by
    rw [List.append_assoc, ← split, Headers.eq_take_of_read opened, List.take_append_drop]
  obtain ⟨word, inside, slice⟩ := data_of_written fits whole
  rw [place] at word inside slice
  exact {
    headers := opened
    protocol := Headers.wordAt_zero opened
    correlated := isSome_correlation?_iff
    offset := descriptorOffset_eq
    template := same.trans known.symm
    unrecognized := iff_of_false (by simp [recognized]) listed
    passed := by simp [recognized]
    carried := by
      intro _
      simp only [payloadOffset, word, slice]
      exact ⟨inside, carried, value, decoded, rfl⟩
    absent := iff_of_false (Option.some_ne_none value) (by simp [recognized])
    typed := by
      simp only [payloadAs?, carried, MessagePack.decode_value, Option.map_some, decoded] }

/-- Every message that is read from a frame is coherent. -/
theorem ofFrame_coherent (found : ofFrame unknown frame = .ok message) :
    message.Coherent unknown frame := by
  cases opened : Headers.read frame with
  | error fault =>
    rw [ofFrame_of_refused opened] at found
    contradiction
  | ok parts =>
    obtain ⟨headers, bytes⟩ := parts
    rw [ofFrame_of_opened opened] at found
    obtain rfl := Headers.eq_drop_of_read opened
    cases read_eq_iff.mp found with
    | passed unlisted skipping => exact coherent_of_passed opened unlisted skipping
    | message listed read carried decoded =>
      exact coherent_of_read opened listed read carried decoded

/-- A response with a further byte in its block and one behind its payload. -/
def extendedResponse : Frame := ⟨⟨43, 0, 0, 0, 0⟩,
  [0, 0, 7, 0, 0, 0, 0, 0, 0, 0, 8, 0, 0, 0, 0, 0, 0, 0, 21, 0, 11, 0, 1, 0, 0, 0,
    4, 0, 9, 0, 0, 0, 0, 0, 0, 0, 0xEE, 3, 0, 0x92, 0xC3, 0x05, 0xFF]⟩

/-- The response is read, and its message is coherent, whatever stands between and behind its
parts. -/
theorem extendedResponse_coherent :
    let message : Message := ⟨⟨⟨43, 0, 0, 0, 0⟩, .requestResponse ⟨7, 8⟩, ⟨21, 11, 1, 0⟩⟩,
      .executeCommandResponse ⟨4, 9, [0x92, 0xC3, 0x05]⟩, some (.array [.bool true, .uint 5])⟩
    ofFrame .reject extendedResponse = .ok message ∧ message.Coherent .reject extendedResponse :=
  ⟨rfl, ofFrame_coherent rfl⟩

end BrokerWire.Message

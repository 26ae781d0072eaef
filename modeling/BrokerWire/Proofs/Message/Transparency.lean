import BrokerWire.Proofs.Message.Stages

/-!
# The envelope leaves the message alone

A message can be sent by itself, or as a request or its response with correlation words in front.
What is behind the envelope is read alike in both: the message has the same parts, or reading it
fails in the same stage for the same reason and in the same words. What differs is told once, as a
change of the headers that a message or a failure keeps: another header of the frame and another
envelope, with the descriptor as it is.
-/
namespace BrokerWire

/-- The headers of the same message in another frame and another envelope. -/
def Headers.rewrap (headers : Headers) (frame : FrameHeader) (envelope : Envelope) : Headers :=
  { headers with frame, envelope }

namespace Failure

/-- The failure with other headers, where it keeps any. -/
def mapHeaders (change : Headers → Headers) : Failure → Failure
  | body template fault headers => body template fault (change headers)
  | payload fault headers => payload fault (change headers)
  | unknownTemplate templateId headers => unknownTemplate templateId (change headers)
  | failure => failure

/-- Two failures of the same stage for the same reason: they are the same, but for the headers that
they keep, and these are of the same message. -/
inductive SameReason : Failure → Failure → Prop where
  /-- A failure that keeps no headers. -/
  | bare {failure : Failure} (none : failure.headers? = none) : SameReason failure failure
  /-- The body of the same template has the same fault. -/
  | body (template : Template) (fault : BodyFault) {left right : Headers}
      (same : left.descriptor = right.descriptor) :
      SameReason (.body template fault left) (.body template fault right)
  /-- The payload has the same fault. -/
  | payload (fault : MessagePack.Fault) {left right : Headers}
      (same : left.descriptor = right.descriptor) :
      SameReason (.payload fault left) (.payload fault right)
  /-- The same template is unknown. -/
  | unknownTemplate (templateId : UInt16) {left right : Headers}
      (same : left.descriptor = right.descriptor) :
      SameReason (.unknownTemplate templateId left) (.unknownTemplate templateId right)

/-- The same reason has the same wording. -/
theorem SameReason.message_eq {left right : Failure} (reason : left.SameReason right) :
    left.message = right.message := by
  cases reason <;> rfl

/-- With the same reason, both failures keep headers of the same message, or neither keeps any. -/
theorem SameReason.descriptor?_eq {left right : Failure} (reason : left.SameReason right) :
    left.headers?.map Headers.descriptor = right.headers?.map Headers.descriptor := by
  cases reason with
  | bare none => rfl
  | body template fault same => exact congrArg some same
  | payload fault same => exact congrArg some same
  | unknownTemplate templateId same => exact congrArg some same

/-- Other headers of the same message leave the reason as it is. -/
theorem sameReason_mapHeaders {change : Headers → Headers}
    (keeps : ∀ headers, headers.descriptor = (change headers).descriptor) (failure : Failure) :
    failure.SameReason (failure.mapHeaders change) := by
  cases failure with
  | body template fault headers => exact .body template fault (keeps headers)
  | payload fault headers => exact .payload fault (keeps headers)
  | unknownTemplate templateId headers => exact .unknownTemplate templateId (keeps headers)
  | incompleteRead | stream | length | header => exact .bare rfl

end Failure

namespace Message

/-- The outcome of reading a message, as it is in another frame and another envelope. -/
def rewrapped (frame : FrameHeader) (envelope : Envelope) :
    Except Failure Message → Except Failure Message
  | .error failure => .error (failure.mapHeaders fun headers => headers.rewrap frame envelope)
  | .ok message => .ok { message with headers := message.headers.rewrap frame envelope }

/-- Two outcomes of reading a message that differ in nothing that is behind the envelope. -/
inductive Alike : Except Failure Message → Except Failure Message → Prop where
  /-- Both are messages with the same descriptor, the same body and the same value of the
  payload. -/
  | message {left right : Message}
      (descriptor : left.headers.descriptor = right.headers.descriptor)
      (body : left.body = right.body) (payload : left.payload = right.payload) :
      Alike (.ok left) (.ok right)
  /-- Both are failures for the same reason and in the same words, and they keep headers with the
  same descriptor, or neither keeps any. -/
  | failure {left right : Failure} (reason : left.SameReason right)
      (text : left.message = right.message)
      (kept : left.headers?.map Headers.descriptor = right.headers?.map Headers.descriptor) :
      Alike (.error left) (.error right)

/-- Another frame and another envelope leave an outcome alike. -/
theorem alike_rewrapped (frame : FrameHeader) (envelope : Envelope)
    (outcome : Except Failure Message) : Alike outcome (rewrapped frame envelope outcome) := by
  cases outcome with
  | ok message => exact .message rfl rfl rfl
  | error failure =>
    have keeps : ∀ headers : Headers,
        headers.descriptor = (headers.rewrap frame envelope).descriptor := fun headers => rfl
    have reason := Failure.sameReason_mapHeaders keeps failure
    exact .failure reason reason.message_eq reason.descriptor?_eq

/-- Of the headers in front of a message, only the descriptor counts for what comes of it. -/
theorem read_rewrap (unknown : UnknownTemplates) (headers : Headers) (bytes : Bytes)
    (frame : FrameHeader) (envelope : Envelope) :
    read unknown (headers.rewrap frame envelope) bytes =
      rewrapped frame envelope (read unknown headers bytes) := by
  obtain ⟨outcome, reached⟩ := exists_outcome unknown headers bytes
  rw [read_of_outcome reached]
  apply read_of_outcome
  -- The stages ask for the descriptor only, which is the same one, so each case goes over as it is.
  cases reached with
  | refused unlisted refusing => exact .refused unlisted refusing
  | passed unlisted skipping => exact .passed unlisted skipping
  | noBody listed refused => exact .noBody listed refused
  | noPayload listed found carried refused => exact .noPayload listed found carried refused
  | message listed found carried decoded => exact .message listed found carried decoded

/-- A frame without room for the descriptor behind the envelope has no message. -/
theorem ofFrame_of_short (unknown : UnknownTemplates) (frame : FrameHeader) (envelope : Envelope)
    {bytes : Bytes} (short : bytes.length < Descriptor.size) :
    ofFrame unknown ⟨frame, envelope.write ++ bytes⟩ =
      .error (.header (.noDescriptor bytes.length)) :=
  ofFrame_of_refused (Headers.read_eq_error_iff.mpr (.inr ⟨envelope, bytes, rfl, short, rfl⟩))

/-- The message of a frame is what comes behind the envelope and the descriptor. -/
theorem ofFrame_of_described (unknown : UnknownTemplates) (frame : FrameHeader)
    (envelope : Envelope) (descriptor : Descriptor) (bytes : Bytes) :
    ofFrame unknown ⟨frame, envelope.write ++ (descriptor.write ++ bytes)⟩ =
      read unknown ⟨frame, envelope, descriptor⟩ bytes := by
  have opened := Headers.read_write ⟨frame, envelope, descriptor⟩ bytes
  rw [Headers.write, List.append_assoc] at opened
  exact ofFrame_of_opened opened

/-- The same bytes behind another envelope in another frame come to the same, but for the headers
that are kept. -/
theorem ofFrame_rewrapped (unknown : UnknownTemplates) (left right : FrameHeader)
    (inner outer : Envelope) (bytes : Bytes) :
    ofFrame unknown ⟨right, outer.write ++ bytes⟩ =
      rewrapped right outer (ofFrame unknown ⟨left, inner.write ++ bytes⟩) := by
  by_cases short : bytes.length < Descriptor.size
  · rw [ofFrame_of_short unknown left inner short, ofFrame_of_short unknown right outer short]
    rfl
  · obtain ⟨descriptor, message, rfl⟩ :=
      FixedPart.exists_write Descriptor.fixed (Nat.not_lt.mp short)
    rw [ofFrame_of_described, ofFrame_of_described, ← read_rewrap]
    rfl

/-- What a message by itself and a request or its response come to that are the same behind their
envelopes. -/
structure Transparent (left right : FrameHeader) (correlation : Bytes)
    (single request : Except Failure Message) : Prop where
  /-- They come to the same, as far as it is not about the envelope. -/
  alike : Alike single request
  /-- They differ in the header of the frame and in the envelope only. -/
  differs : ∃ words : Correlation, words.write = correlation ∧
    request = rewrapped right (.requestResponse words) single ∧
    single = rewrapped left .singleMessage request

/-- The envelope in front of a message has no influence on what comes of the message. -/
theorem ofFrame_transparent (unknown : UnknownTemplates) (left right : FrameHeader)
    {correlation : Bytes} (sixteen : correlation.length = 16) (rest : Bytes) :
    Transparent left right correlation
      (ofFrame unknown ⟨left, [1, 0] ++ rest⟩)
      (ofFrame unknown ⟨right, [0, 0] ++ correlation ++ rest⟩) := by
  obtain ⟨words, behind, whole⟩ :=
    FixedPart.exists_write Correlation.fixed (Nat.le_of_eq sixteen.symm)
  have last : behind = [] := by
    have length := congrArg List.length whole
    rw [sixteen, List.length_append, Correlation.length_write, Correlation.size] at length
    exact List.eq_nil_of_length_eq_zero (by omega)
  rw [last, List.append_nil] at whole
  have single : [1, 0] = Envelope.singleMessage.write := rfl
  have request : [0, 0] ++ correlation = (Envelope.requestResponse words).write := by
    rw [whole]
    rfl
  rw [single, request]
  have there := ofFrame_rewrapped unknown left right .singleMessage (.requestResponse words) rest
  have back := ofFrame_rewrapped unknown right left (.requestResponse words) .singleMessage rest
  refine ⟨?_, words, whole.symm, there, back⟩
  rw [there]
  exact alike_rewrapped _ _ _

/-- The bytes behind the envelope of a response whose payload ends before its second item. -/
def brokenResponse : Bytes :=
  [21, 0, 11, 0, 1, 0, 0, 0, 4, 0, 9, 0, 0, 0, 0, 0, 0, 0, 0xEE, 2, 0, 0x92, 0xC3]

/-- The bytes behind the envelope of the same response with a payload of both items, and one more
byte behind it. -/
def wholeResponse : Bytes :=
  [21, 0, 11, 0, 1, 0, 0, 0, 4, 0, 9, 0, 0, 0, 0, 0, 0, 0, 0xEE, 3, 0, 0x92, 0xC3, 0xC2, 0xEE]

/-- With and without correlation words, the payload of the one response is refused for the same
reason, and the other one gives the same message. -/
theorem responses_transparent :
    let correlation : Bytes := [7, 0, 0, 0, 0, 0, 0, 0, 8, 0, 0, 0, 0, 0, 0, 0]
    let words : Correlation := ⟨7, 8⟩
    let left (length : UInt32) : FrameHeader := ⟨length, 0, 0, 0, 0⟩
    let right (length : UInt32) : FrameHeader := ⟨length, 0, 1, 0, 5⟩
    let body : Body := .executeCommandResponse ⟨4, 9, [0x92, 0xC3, 0xC2]⟩
    let payload : Value := .array [.bool true, .bool false]
    correlation.length = 16 ∧
      ofFrame .reject ⟨left 25, [1, 0] ++ brokenResponse⟩ =
        .error (.payload .markerMissing ⟨left 25, .singleMessage, ⟨21, 11, 1, 0⟩⟩) ∧
      Transparent (left 25) (right 41) correlation
        (ofFrame .reject ⟨left 25, [1, 0] ++ brokenResponse⟩)
        (ofFrame .reject ⟨right 41, [0, 0] ++ correlation ++ brokenResponse⟩) ∧
      ofFrame .reject ⟨left 27, [1, 0] ++ wholeResponse⟩ =
        .ok ⟨⟨left 27, .singleMessage, ⟨21, 11, 1, 0⟩⟩, body, some payload⟩ ∧
      ofFrame .reject ⟨right 43, [0, 0] ++ correlation ++ wholeResponse⟩ =
        .ok ⟨⟨right 43, .requestResponse words, ⟨21, 11, 1, 0⟩⟩, body, some payload⟩ ∧
      Transparent (left 27) (right 43) correlation
        (ofFrame .reject ⟨left 27, [1, 0] ++ wholeResponse⟩)
        (ofFrame .reject ⟨right 43, [0, 0] ++ correlation ++ wholeResponse⟩) :=
  ⟨rfl, rfl, ofFrame_transparent .reject _ _ rfl brokenResponse, rfl, rfl,
    ofFrame_transparent .reject _ _ rfl wholeResponse⟩

end Message

end BrokerWire

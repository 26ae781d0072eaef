import BrokerWire.Proofs.Message.Stages
import BrokerWire.Proofs.Stream.Admission

/-!
# Why a frame has no message

Each failure of reading the message of a frame belongs to one stage, and arises exactly where that
stage refuses the frame and none of those before it does. What the stages of the headers refuse
is told by the length of the body and its first word. A failure keeps the headers exactly where
they could be read. A frame that came of a stream is as long as announced, which leaves few ways
to refuse its headers.
-/
namespace BrokerWire

namespace Frame

variable {frame : Frame}

/-- The word in front of a body is the first word of the frame. -/
theorem wordAt_zero {word : UInt16} {rest : Bytes}
    (body : frame.body = Word.write16 word ++ rest) : frame.wordAt 0 = word := by
  have opening : frame.body = [] ++ (Word.write16 word ++ rest) := body
  exact wordAt_length opening

/-- A body of two bytes and more is its first word and those behind it. -/
theorem exists_rest (holds : 2 ≤ frame.body.length) :
    ∃ rest, frame.body = Word.write16 (frame.wordAt 0) ++ rest ∧
      frame.body.length = rest.length + 2 := by
  obtain ⟨word, rest, body⟩ := Word.exists_write16 holds
  refine ⟨rest, by rw [wordAt_zero body, body], ?_⟩
  rw [body, List.length_append, Word.write16, Word.length_little, Nat.add_comm]

end Frame

namespace Headers

/-- Where the headers of a frame are refused, told by the bytes of its body. -/
inductive Refusal (frame : Frame) : HeaderFault → Prop where
  /-- There is no first word. -/
  | noProtocol (short : frame.body.length < 2) : Refusal frame (.noProtocol frame.body.length)
  /-- The first word is the number of no protocol. -/
  | unsupportedProtocol (holds : 2 ≤ frame.body.length) (noRequest : frame.wordAt 0 ≠ 0)
      (noSingle : frame.wordAt 0 ≠ 1) : Refusal frame (.unsupportedProtocol (frame.wordAt 0))
  /-- The body of a request or response has no room for the correlation words. -/
  | noCorrelation (holds : 2 ≤ frame.body.length) (request : frame.wordAt 0 = 0)
      (short : frame.body.length < 18) : Refusal frame (.noCorrelation (frame.body.length - 2))
  /-- Where the descriptor begins, there is no room for it. -/
  | noDescriptor {offset : Nat}
      (begins : frame.wordAt 0 = 0 ∧ offset = 18 ∨ frame.wordAt 0 = 1 ∧ offset = 2)
      (holds : offset ≤ frame.body.length) (short : frame.body.length < offset + 8) :
      Refusal frame (.noDescriptor (frame.body.length - offset))

variable {frame : Frame} {fault : HeaderFault}

/-- A protocol that is refused refuses the headers. -/
theorem refusal_of_protocol (refused : Protocol.read frame.body = .error fault) :
    Refusal frame fault := by
  obtain ⟨short, rfl⟩ | ⟨id, rest, body, never, rfl⟩ := Protocol.read_eq_error_iff.mp refused
  · exact .noProtocol short
  · have word := Frame.wordAt_zero body
    have holds : 2 ≤ frame.body.length := by
      rw [body, List.length_append, Word.write16, Word.length_little]
      omega
    rw [← word]
    exact .unsupportedProtocol holds (word ▸ never .requestResponse) (word ▸ never .singleMessage)

/-- Correlation words that are cut short refuse the headers. -/
theorem refusal_of_correlation {rest : Bytes}
    (body : frame.body = Protocol.requestResponse.write ++ rest)
    (short : rest.length < Correlation.size) : Refusal frame (.noCorrelation rest.length) := by
  have length : frame.body.length = rest.length + 2 := by
    rw [body, List.length_append, Protocol.length_write, Nat.add_comm, Protocol.size]
  rw [Correlation.size] at short
  have counted : rest.length = frame.body.length - 2 := by omega
  rw [counted]
  exact .noCorrelation (by omega) (Frame.wordAt_zero body) (by omega)

/-- A descriptor that is cut short refuses the headers. -/
theorem refusal_of_descriptor {envelope : Envelope} {rest : Bytes}
    (body : frame.body = envelope.write ++ rest) (short : rest.length < Descriptor.size) :
    Refusal frame (.noDescriptor rest.length) := by
  have length : frame.body.length = envelope.protocol.descriptorOffset + rest.length := by
    rw [body, List.length_append, Envelope.length_write]
  have opening : frame.body = Word.write16 envelope.protocol.id ++
      (envelope.correlation?.elim [] Correlation.write ++ rest) := by
    rw [body, Envelope.write_eq, Protocol.write, List.append_assoc]
  have begins : frame.wordAt 0 = 0 ∧ envelope.protocol.descriptorOffset = 18 ∨
      frame.wordAt 0 = 1 ∧ envelope.protocol.descriptorOffset = 2 := by
    rw [Frame.wordAt_zero opening]
    cases envelope with
    | requestResponse correlation => exact .inl ⟨rfl, rfl⟩
    | singleMessage => exact .inr ⟨rfl, rfl⟩
  rw [Descriptor.size] at short
  have counted : rest.length = frame.body.length - envelope.protocol.descriptorOffset := by omega
  rw [counted]
  exact .noDescriptor begins (by omega) (by omega)

/-- The envelope in front of a body with room for it is the one of its first word. -/
theorem exists_envelope {offset : Nat}
    (begins : frame.wordAt 0 = 0 ∧ offset = 18 ∨ frame.wordAt 0 = 1 ∧ offset = 2)
    (holds : offset ≤ frame.body.length) :
    ∃ envelope rest, frame.body = Envelope.write envelope ++ rest ∧
      rest.length = frame.body.length - offset := by
  have two : 2 ≤ frame.body.length := by omega
  obtain ⟨rest, body, length⟩ := Frame.exists_rest two
  obtain ⟨word, rfl⟩ | ⟨word, rfl⟩ := begins
  · have enough : Correlation.size ≤ rest.length := by
      rw [Correlation.size]
      omega
    obtain ⟨correlation, last, rfl⟩ := FixedPart.exists_write Correlation.fixed enough
    refine ⟨.requestResponse correlation, last, ?_, ?_⟩
    · rw [body, word, Envelope.write, List.append_assoc]
      rfl
    · rw [List.length_append, Correlation.length_write, Correlation.size] at length
      omega
  · refine ⟨.singleMessage, rest, ?_, by omega⟩
    rw [body, word]
    rfl

/-- The headers of a frame are refused exactly where its bytes tell so. -/
theorem read_eq_error_iff_refusal : read frame = .error fault ↔ Refusal frame fault := by
  constructor
  · intro refused
    obtain outer | ⟨envelope, rest, body, short, rfl⟩ := read_eq_error_iff.mp refused
    · obtain first | ⟨rest, body, short, rfl⟩ := Envelope.read_eq_error_iff.mp outer
      · exact refusal_of_protocol first
      · exact refusal_of_correlation body short
    · exact refusal_of_descriptor body short
  · intro refusal
    cases refusal with
    | noProtocol short =>
      have first := Protocol.read_eq_error_iff.mpr (.inl ⟨short, rfl⟩)
      exact read_eq_error_iff.mpr (.inl (Envelope.read_eq_error_iff.mpr (.inl first)))
    | unsupportedProtocol holds noRequest noSingle =>
      obtain ⟨rest, body, -⟩ := Frame.exists_rest holds
      have never : ∀ protocol : Protocol, frame.wordAt 0 ≠ protocol.id := by
        intro protocol
        cases protocol
        · exact noRequest
        · exact noSingle
      have first := Protocol.read_eq_error_iff.mpr (.inr ⟨_, rest, body, never, rfl⟩)
      exact read_eq_error_iff.mpr (.inl (Envelope.read_eq_error_iff.mpr (.inl first)))
    | noCorrelation holds request short =>
      obtain ⟨rest, body, length⟩ := Frame.exists_rest holds
      rw [request] at body
      have counted : frame.body.length - 2 = rest.length := by omega
      have cut : rest.length < Correlation.size := by
        rw [Correlation.size]
        omega
      rw [counted]
      exact read_eq_error_iff.mpr
        (.inl (Envelope.read_eq_error_iff.mpr (.inr ⟨rest, body, cut, rfl⟩)))
    | noDescriptor begins holds short =>
      obtain ⟨envelope, rest, body, length⟩ := exists_envelope begins holds
      have cut : rest.length < Descriptor.size := by
        rw [Descriptor.size]
        omega
      rw [← length]
      exact read_eq_error_iff.mpr (.inr ⟨envelope, rest, body, cut, rfl⟩)

end Headers

namespace Message

/-- Why a frame has no message: what the first stage that refuses it finds. -/
inductive Refusal (unknown : UnknownTemplates) (frame : Frame) : Failure → Prop where
  /-- The headers are refused. -/
  | header {fault : HeaderFault} (refused : Headers.Refusal frame fault) :
      Refusal unknown frame (.header fault)
  /-- The headers name a template that is not known, and such messages are refused. -/
  | unknownTemplate {headers : Headers}
      (opened : Headers.read frame = .ok (headers, frame.body.drop headers.bodyOffset))
      (unlisted : headers.descriptor.templateId ∉ [11, 20, 21, 30]) (refusing : unknown = .reject) :
      Refusal unknown frame (.unknownTemplate headers.descriptor.templateId headers)
  /-- The bytes behind the headers are no body of the template. -/
  | body {headers : Headers} {template : Template} {fault : BodyFault}
      (opened : Headers.read frame = .ok (headers, frame.body.drop headers.bodyOffset))
      (listed : headers.descriptor.templateId = template.id)
      (refused : Body.read template headers.descriptor.blockLength headers.descriptor.version
        (frame.body.drop headers.bodyOffset) = .error fault) :
      Refusal unknown frame (.body template fault headers)
  /-- The payload of the body is no document. -/
  | payload {headers : Headers} {template : Template} {body : Body} {payload : Bytes}
      {fault : MessagePack.Fault}
      (opened : Headers.read frame = .ok (headers, frame.body.drop headers.bodyOffset))
      (listed : headers.descriptor.templateId = template.id)
      (read : Body.read template headers.descriptor.blockLength headers.descriptor.version
        (frame.body.drop headers.bodyOffset) = .ok body)
      (carried : body.payload? = some payload)
      (refused : MessagePack.decodeValue payload = .error fault) :
      Refusal unknown frame (.payload fault headers)

variable {unknown : UnknownTemplates} {frame : Frame} {failure : Failure}

/-- A frame has no message exactly where one of its stages refuses it. -/
theorem ofFrame_eq_error_iff :
    ofFrame unknown frame = .error failure ↔ Refusal unknown frame failure := by
  constructor
  · intro failed
    cases opened : Headers.read frame with
    | error fault =>
      rw [ofFrame_of_refused opened] at failed
      obtain rfl := Except.error.inj failed
      exact .header (Headers.read_eq_error_iff_refusal.mp opened)
    | ok parts =>
      obtain ⟨headers, bytes⟩ := parts
      rw [ofFrame_of_opened opened] at failed
      obtain rfl := Headers.eq_drop_of_read opened
      cases read_eq_iff.mp failed with
      | refused unlisted refusing => exact .unknownTemplate opened unlisted refusing
      | noBody listed refused => exact .body opened listed refused
      | noPayload listed read carried refused => exact .payload opened listed read carried refused
  · intro refusal
    cases refusal with
    | header refused => exact ofFrame_of_refused (Headers.read_eq_error_iff_refusal.mpr refused)
    | unknownTemplate opened unlisted refusing =>
      rw [ofFrame_of_opened opened]
      exact read_of_outcome (.refused unlisted refusing)
    | body opened listed refused =>
      rw [ofFrame_of_opened opened]
      exact read_of_outcome (.noBody listed refused)
    | payload opened listed read carried refused =>
      rw [ofFrame_of_opened opened]
      exact read_of_outcome (.noPayload listed read carried refused)

/-- A frame has no message for its headers exactly where they are refused. -/
theorem ofFrame_eq_header_iff {fault : HeaderFault} :
    ofFrame unknown frame = .error (.header fault) ↔ Headers.Refusal frame fault := by
  rw [ofFrame_eq_error_iff]
  constructor
  · intro refusal
    cases refusal with
    | header refused => exact refused
  · exact .header

/-- A refusal keeps the headers exactly where the frame has them. -/
theorem headers?_of_refusal (refusal : Refusal unknown frame failure) (headers : Headers) :
    failure.headers? = some headers ↔ ∃ bytes, Headers.read frame = .ok (headers, bytes) := by
  have same : ∀ {found : Headers} {bytes : Bytes}, Headers.read frame = .ok (found, bytes) →
      (some found = some headers ↔ ∃ bytes, Headers.read frame = .ok (headers, bytes)) := by
    intro found bytes opened
    simp [opened]
  cases refusal with
  | header refused =>
    have none := Headers.read_eq_error_iff_refusal.mpr refused
    simp [Failure.headers?, none]
  | unknownTemplate opened => exact same opened
  | body opened => exact same opened
  | payload opened => exact same opened

/-- What can be refused in the headers of a frame that is admitted and as long as announced. There
is always a first word, and a single message has room for its descriptor. -/
structure FewRefusals (unknown : UnknownTemplates) (frame : Frame) : Prop where
  /-- There is a first word. -/
  protocol : ∀ available, ofFrame unknown frame ≠ .error (.header (.noProtocol available))
  /-- A request or response of ten to seventeen bytes has no room for the correlation words. -/
  correlation : ∀ available, ofFrame unknown frame = .error (.header (.noCorrelation available)) ↔
    frame.wordAt 0 = 0 ∧ 10 ≤ frame.body.length ∧ frame.body.length ≤ 17 ∧
      available = frame.body.length - 2
  /-- A request or response of eighteen to twenty-five bytes has no room for the descriptor. -/
  descriptor : ∀ available, ofFrame unknown frame = .error (.header (.noDescriptor available)) ↔
    frame.wordAt 0 = 0 ∧ 18 ≤ frame.body.length ∧ frame.body.length ≤ 25 ∧
      available = frame.body.length - 18

/-- A frame that came of a stream leaves few ways to refuse its headers. -/
theorem fewRefusals_of_sound {settings : FrameSettings} (sound : settings.Sound frame) :
    FewRefusals unknown frame := by
  obtain ⟨⟨least, -⟩, announced⟩ := sound
  have ten : 10 ≤ frame.body.length := by
    rw [announced] at least
    exact least
  constructor
  · intro available refused
    cases ofFrame_eq_header_iff.mp refused
    omega
  · intro available
    rw [ofFrame_eq_header_iff]
    constructor
    · intro refusal
      cases refusal with
      | noCorrelation holds request short => exact ⟨request, ten, by omega, rfl⟩
    · rintro ⟨request, -, most, rfl⟩
      exact .noCorrelation (by omega) request (by omega)
  · intro available
    rw [ofFrame_eq_header_iff]
    constructor
    · intro refusal
      cases refusal with
      | noDescriptor begins holds short =>
        obtain ⟨request, rfl⟩ | ⟨single, rfl⟩ := begins
        · exact ⟨request, holds, by omega, rfl⟩
        · omega
    · rintro ⟨request, holds, most, rfl⟩
      exact .noDescriptor (.inl ⟨request, rfl⟩) holds (by omega)

/-- When and how the message of a frame cannot be read. -/
structure FailsExactly (unknown : UnknownTemplates) (frame : Frame) : Prop where
  /-- Each failure arises exactly where its stage is the first to refuse the frame. -/
  refused : ∀ failure, ofFrame unknown frame = .error failure ↔ Refusal unknown frame failure
  /-- There is a message wherever no stage refuses. -/
  read : (∃ message, ofFrame unknown frame = .ok message) ↔
    ∀ failure, ¬Refusal unknown frame failure
  /-- A failure keeps the headers exactly where they could be read. -/
  kept : ∀ failure, ofFrame unknown frame = .error failure → ∀ headers,
    failure.headers? = some headers ↔ ∃ bytes, Headers.read frame = .ok (headers, bytes)
  /-- Where the frame came of a stream, few refusals of its headers are left. -/
  received : ∀ (settings : FrameSettings) (stream left : Stream),
    settings.nextFrame stream = (.ok (some frame), left) ∨
      settings.readFrame stream = (.ok frame, left) → FewRefusals unknown frame

/-- What makes the message of a frame fail is told exactly by the frame, whatever it is. -/
theorem ofFrame_failsExactly (unknown : UnknownTemplates) (frame : Frame) :
    FailsExactly unknown frame where
  refused _ := ofFrame_eq_error_iff
  read := by
    constructor
    · rintro ⟨message, found⟩ failure refusal
      rw [ofFrame_eq_error_iff.mpr refusal] at found
      contradiction
    · intro never
      cases read : ofFrame unknown frame with
      | error failure => exact absurd (ofFrame_eq_error_iff.mp read) (never failure)
      | ok message => exact ⟨message, rfl⟩
  kept _ failed := headers?_of_refusal (ofFrame_eq_error_iff.mp failed)
  received settings stream left := by
    rintro (found | found)
    · exact fewRefusals_of_sound (settings.nextFrame_sound found)
    · exact fewRefusals_of_sound
        (settings.nextFrame_sound (settings.readFrame_eq_ok_iff.mp found))

end Message

end BrokerWire

import BrokerWire.Proofs.Message.Stages
import BrokerWire.Proofs.Stream.Items

/-!
# Messages of unknown templates on a stream

One reader refuses messages of unknown templates, another one passes them on. Both come to the same
items of a stream up to the first such message. There the one goes on, and the other stops with the
refusal of that message. Nothing behind the headers of such a message is looked at, so it can never
be the reason for a failure.
-/
namespace BrokerWire

namespace Message

/-- A message as a reader has it that refuses unknown templates. -/
def refuseUnknown (message : Message) : Except Failure Message :=
  match message.body with
  | .unrecognized templateId _ => .error (.unknownTemplate templateId message.headers)
  | _ => .ok message

/-- A message of a known template is not refused. -/
theorem refuseUnknown_of_recognized {message : Message}
    (recognized : message.body.isUnrecognized = false) : message.refuseUnknown = .ok message := by
  unfold refuseUnknown
  cases body : message.body with
  | unrecognized templateId bytes =>
    rw [body] at recognized
    contradiction
  | _ => rfl

/-- A message of an unknown template is refused with its number and its headers. -/
theorem refuseUnknown_of_unrecognized {message : Message} {templateId : UInt16} {bytes : Bytes}
    (unrecognized : message.body = .unrecognized templateId bytes) :
    message.refuseUnknown = .error (.unknownTemplate templateId message.headers) := by
  unfold refuseUnknown
  rw [unrecognized]

/-- Behind any headers, refusing unknown templates is passing them on and refusing them then. -/
theorem read_reject (headers : Headers) (bytes : Bytes) :
    read .reject headers bytes = read .skip headers bytes >>= refuseUnknown := by
  obtain ⟨outcome, reached⟩ := exists_outcome .skip headers bytes
  rw [read_of_outcome reached]
  cases reached with
  | refused unlisted refusing => contradiction
  | passed unlisted skipping => exact read_of_outcome (.refused unlisted rfl)
  | noBody listed refused => exact read_of_outcome (.noBody listed refused)
  | noPayload listed found carried refused =>
    exact read_of_outcome (.noPayload listed found carried refused)
  | @message template body payload value listed found carried decoded =>
    have recognized := Body.isUnrecognized_eq_false (Body.template?_of_read found)
    have kept : (⟨headers, body, some value⟩ : Message).refuseUnknown =
        .ok ⟨headers, body, some value⟩ := refuseUnknown_of_recognized recognized
    rw [ok_bind, kept]
    exact read_of_outcome (.message listed found carried decoded)

/-- In a frame, refusing unknown templates is passing them on and refusing them then. -/
theorem ofFrame_reject (frame : Frame) :
    ofFrame .reject frame = ofFrame .skip frame >>= refuseUnknown := by
  cases opened : Headers.read frame with
  | error fault =>
    rw [ofFrame_of_refused opened, ofFrame_of_refused opened, error_bind]
  | ok parts =>
    obtain ⟨headers, bytes⟩ := parts
    rw [ofFrame_of_opened opened, ofFrame_of_opened opened]
    exact read_reject headers bytes

end Message

/-- A reader of messages in these frames that treats unknown templates so. -/
def FrameSettings.withUnknown (frames : FrameSettings) (unknown : UnknownTemplates) :
    MessageSettings :=
  { frames with unknown }

namespace MessageSettings

/-- Every message among the items is one of a known template. -/
def Recognized (items : List (Except Failure Message)) : Prop :=
  ∀ message, .ok message ∈ items → message.body.isUnrecognized = false

/-- There are no messages of unknown templates where there is no item. -/
theorem recognized_nil : Recognized [] := by
  intro message among
  contradiction

/-- A failure is no message of an unknown template. -/
theorem recognized_failure (failure : Failure) : Recognized [.error failure] := by
  intro message among
  simp at among

/-- Items of known templates are a first one and others behind it. -/
theorem recognized_cons {message : Message} {items : List (Except Failure Message)}
    (first : message.body.isUnrecognized = false) (others : Recognized items) :
    Recognized (.ok message :: items) := by
  intro one among
  rcases List.mem_cons.mp among with same | behind
  · obtain rfl := Except.ok.inj same
    exact first
  · exact others one behind

variable {frames : FrameSettings} {stream left : Stream}

/-- A message that is refused or not, if there is one. -/
def refuseNext : Option Message → Except Failure (Option Message)
  | none => .ok none
  | some message => message.refuseUnknown.map some

/-- The next message of a refusing reader is the one of a passing reader, or its refusal. -/
theorem nextMessage_reject (frames : FrameSettings) (stream : Stream) :
    (frames.withUnknown .reject).nextMessage stream =
      (((frames.withUnknown .skip).nextMessage stream).1 >>= refuseNext,
        ((frames.withUnknown .skip).nextMessage stream).2) := by
  have same : (frames.withUnknown .reject).ofFrameResult (frames.nextFrame stream).1 =
      (frames.withUnknown .skip).ofFrameResult (frames.nextFrame stream).1 >>= refuseNext := by
    cases (frames.nextFrame stream).1 with
    | error failure => rfl
    | ok frame? =>
      cases frame? with
      | none => rfl
      | some frame =>
        change (Message.ofFrame .reject frame).map some =
          (Message.ofFrame .skip frame).map some >>= refuseNext
        rw [Message.ofFrame_reject]
        cases Message.ofFrame .skip frame <;> rfl
  exact Prod.ext same rfl

/-- Where the passing reader comes to an item or to the end of the stream, so does the refusing one,
unless the item is a message of an unknown template. -/
theorem nextMessage_reject_of_next {result : Except Failure (Option Message)}
    (next : (frames.withUnknown .skip).nextMessage stream = (result, left)) :
    (frames.withUnknown .reject).nextMessage stream = (result >>= refuseNext, left) := by
  rw [nextMessage_reject, next]

/-- The items of the passing reader are those of the refusing one, unless there is a message of an
unknown template among them. In front of the first such message they are the same as well, and then
comes its refusal. -/
theorem Reads.refused {items : List (Except Failure Message)}
    (reads : (frames.withUnknown .skip).Reads stream items) :
    Recognized items ∧ (frames.withUnknown .reject).Reads stream items ∨
      ∃ before message behind templateId bytes,
        items = before ++ .ok message :: behind ∧ Recognized before ∧
        message.body = .unrecognized templateId bytes ∧
        (frames.withUnknown .reject).Reads stream
          (before ++ [.error (.unknownTemplate templateId message.headers)]) := by
  induction reads with
  | closed next => exact .inl ⟨recognized_nil, .closed (nextMessage_reject_of_next next)⟩
  | failed next => exact .inl ⟨recognized_failure _, .failed (nextMessage_reject_of_next next)⟩
  | @message stream left message items next others ih =>
    have refused := nextMessage_reject_of_next next
    cases unrecognized : message.body.isUnrecognized with
    | true =>
      obtain ⟨templateId, bytes, body⟩ : ∃ templateId bytes,
          message.body = .unrecognized templateId bytes := by
        cases body : message.body with
        | unrecognized templateId bytes => exact ⟨templateId, bytes, rfl⟩
        | _ => simp [body, Body.isUnrecognized] at unrecognized
      rw [ok_bind, refuseNext, Message.refuseUnknown_of_unrecognized body] at refused
      exact .inr ⟨[], message, items, templateId, bytes, rfl, recognized_nil, body,
        .failed refused⟩
    | false =>
      rw [ok_bind, refuseNext, Message.refuseUnknown_of_recognized unrecognized] at refused
      rcases ih with ⟨recognized, rest⟩ |
        ⟨before, one, behind, templateId, bytes, rfl, recognized, body, rest⟩
      · exact .inl ⟨recognized_cons unrecognized recognized, .message refused rest⟩
      · exact .inr ⟨.ok message :: before, one, behind, templateId, bytes, rfl,
          recognized_cons unrecognized recognized, body, .message refused rest⟩

/-- How the items of a stream depend on whether messages of unknown templates are passed on or
refused. -/
structure ExtendsRefusing (frames : FrameSettings) (stream : Stream) : Prop where
  /-- Where there is no message of an unknown template, the items are the same. -/
  same : Recognized ((frames.withUnknown .skip).readAll stream).1 →
    ((frames.withUnknown .reject).readAll stream).1 =
      ((frames.withUnknown .skip).readAll stream).1
  /-- Otherwise they are the same up to the first such message, where they end with the refusal of
  its number and its headers. -/
  cut : ¬Recognized ((frames.withUnknown .skip).readAll stream).1 →
    ∃ before message behind templateId bytes,
      ((frames.withUnknown .skip).readAll stream).1 = before ++ .ok message :: behind ∧
      Recognized before ∧ message.body = .unrecognized templateId bytes ∧
      ((frames.withUnknown .reject).readAll stream).1 =
        before ++ [.error (.unknownTemplate templateId message.headers)]
  /-- Whatever stands behind the headers of an unknown template, and whatever they tell of its
  block and its version, the message is passed on. -/
  contents : ∀ stream left frame headers bytes,
    frames.nextFrame stream = (.ok (some frame), left) →
    Headers.read frame = .ok (headers, bytes) →
    headers.descriptor.templateId ∉ [11, 20, 21, 30] →
      (frames.withUnknown .skip).nextMessage stream =
        (.ok (some ⟨headers, .unrecognized headers.descriptor.templateId bytes, none⟩), left)

/-- A frame of an unknown template is passed on as it stands behind its headers. -/
theorem nextMessage_of_unlisted {frame : Frame} {headers : Headers} {bytes : Bytes}
    (next : frames.nextFrame stream = (.ok (some frame), left))
    (opened : Headers.read frame = .ok (headers, bytes))
    (unlisted : headers.descriptor.templateId ∉ [11, 20, 21, 30]) :
    (frames.withUnknown .skip).nextMessage stream =
      (.ok (some ⟨headers, .unrecognized headers.descriptor.templateId bytes, none⟩), left) := by
  have passed : Message.ofFrame .skip frame =
      .ok ⟨headers, .unrecognized headers.descriptor.templateId bytes, none⟩ := by
    rw [Message.ofFrame_of_opened opened]
    exact Message.read_of_outcome (.passed unlisted rfl)
  change ((frames.withUnknown .skip).ofFrameResult (frames.nextFrame stream).1,
    (frames.nextFrame stream).2) = _
  rw [next]
  change ((Message.ofFrame .skip frame).map some, left) = _
  rw [passed]
  rfl

/-- Passing messages of unknown templates on extends refusing them, on every stream. -/
theorem passing_extendsRefusing (frames : FrameSettings) (stream : Stream) :
    ExtendsRefusing frames stream where
  same recognized := by
    have refusing := (frames.withUnknown .reject).reads_readAll stream
    rcases ((frames.withUnknown .skip).reads_readAll stream).refused with ⟨-, whole⟩ |
      ⟨before, message, behind, templateId, bytes, items, -, body, -⟩
    · exact refusing.unique _ whole
    · have among : .ok message ∈ ((frames.withUnknown .skip).readAll stream).1 := by
        rw [items]
        exact List.mem_append_right _ List.mem_cons_self
      have known := recognized message among
      rw [body] at known
      contradiction
  cut unrecognized := by
    have refusing := (frames.withUnknown .reject).reads_readAll stream
    rcases ((frames.withUnknown .skip).reads_readAll stream).refused with ⟨recognized, -⟩ |
      ⟨before, message, behind, templateId, bytes, items, recognized, body, rest⟩
    · exact absurd recognized unrecognized
    · exact ⟨before, message, behind, templateId, bytes, items, recognized, body,
        refusing.unique _ rest⟩
  contents stream left frame headers bytes next opened unlisted :=
    nextMessage_of_unlisted next opened unlisted

/-- Between two answers stands a message of no known template, whose block is announced longer than
the message is. It is passed on with the byte behind its headers, or else the items end with it. -/
example :
    let known : Bytes :=
      [13, 0, 0, 0, 0, 0, 0, 0, 0, 0, 0, 0, 1, 0, 11, 0, 0, 0, 0, 0, 0, 0, 1, 0, 192]
    let unknown : Bytes := [11, 0, 0, 0, 0, 0, 0, 0, 0, 0, 0, 0, 1, 0, 99, 0, 5, 0, 0, 0, 0, 0, 7]
    let stream := Stream.ofDeliveries [.chunk known, .chunk unknown, .chunk known]
    let answer : Message := ⟨⟨⟨13, 0, 0, 0, 0⟩, .singleMessage, ⟨11, 0, 0, 0⟩⟩,
      .controlMessageResponse ⟨[192]⟩, some .nil⟩
    let headers : Headers := ⟨⟨11, 0, 0, 0, 0⟩, .singleMessage, ⟨99, 5, 0, 0⟩⟩
    ((FrameSettings.withUnknown {} .skip).readAll stream).1 =
        [.ok answer, .ok ⟨headers, .unrecognized 99 [7], none⟩, .ok answer] ∧
      ((FrameSettings.withUnknown {} .reject).readAll stream).1 =
        [.ok answer, .error (.unknownTemplate 99 headers)] :=
  ⟨rfl, rfl⟩

end MessageSettings

end BrokerWire

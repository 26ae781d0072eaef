import BrokerWire.Message.Basic
import BrokerWire.Proofs.Body.Reading
import BrokerWire.Proofs.Frame.Headers

/-!
# Messages stage by stage

The message of a frame is what stands behind its headers, and reading it comes to one of five
outcomes: an unknown template is refused or passed on, a known one fails in its body or in its
payload, or gives a message. What each of them takes is said once, and the outcome is settled by
it.
-/
namespace BrokerWire

/-- A template is unknown exactly where its number is none of the four. -/
theorem Template.ofId?_eq_none_iff {id : UInt16} : ofId? id = none ↔ id ∉ [11, 20, 21, 30] := by
  rw [Option.eq_none_iff_forall_ne_some]
  constructor
  · intro unknown listed
    simp only [List.mem_cons, List.not_mem_nil, or_false] at listed
    obtain rfl | rfl | rfl | rfl := listed
    · exact unknown .controlMessageResponse rfl
    · exact unknown .executeCommandRequest rfl
    · exact unknown .executeCommandResponse rfl
    · exact unknown .subscribedEvent rfl
  · intro unlisted template known
    obtain rfl := ofId?_eq_some_iff.mp known
    cases template <;> simp [id] at unlisted

namespace Message

/-- What reading the bytes behind headers comes to. -/
inductive Outcome (unknown : UnknownTemplates) (headers : Headers) (bytes : Bytes) :
    Except Failure Message → Prop where
  /-- No known template has the number, and the message is refused. -/
  | refused (unlisted : headers.descriptor.templateId ∉ [11, 20, 21, 30])
      (refusing : unknown = .reject) :
      Outcome unknown headers bytes
        (.error (.unknownTemplate headers.descriptor.templateId headers))
  /-- No known template has the number, and the message is passed on as it is. -/
  | passed (unlisted : headers.descriptor.templateId ∉ [11, 20, 21, 30])
      (skipping : unknown = .skip) :
      Outcome unknown headers bytes
        (.ok ⟨headers, .unrecognized headers.descriptor.templateId bytes, none⟩)
  /-- The body of the template cannot be read. -/
  | noBody {template : Template} {fault : BodyFault}
      (listed : headers.descriptor.templateId = template.id)
      (refused : Body.read template headers.descriptor.blockLength headers.descriptor.version
        bytes = .error fault) :
      Outcome unknown headers bytes (.error (.body template fault headers))
  /-- The payload is no document. -/
  | noPayload {template : Template} {body : Body} {payload : Bytes} {fault : MessagePack.Fault}
      (listed : headers.descriptor.templateId = template.id)
      (read : Body.read template headers.descriptor.blockLength headers.descriptor.version
        bytes = .ok body)
      (carried : body.payload? = some payload)
      (refused : MessagePack.decodeValue payload = .error fault) :
      Outcome unknown headers bytes (.error (.payload fault headers))
  /-- The message has the body of its template and the value of its payload. -/
  | message {template : Template} {body : Body} {payload : Bytes} {value : Value}
      (listed : headers.descriptor.templateId = template.id)
      (read : Body.read template headers.descriptor.blockLength headers.descriptor.version
        bytes = .ok body)
      (carried : body.payload? = some payload)
      (decoded : MessagePack.decodeValue payload = .ok value) :
      Outcome unknown headers bytes (.ok ⟨headers, body, some value⟩)

variable {unknown : UnknownTemplates} {headers : Headers} {bytes : Bytes}

/-- An outcome is what reading the bytes behind the headers comes to. -/
theorem read_of_outcome {outcome : Except Failure Message}
    (reached : Outcome unknown headers bytes outcome) : read unknown headers bytes = outcome := by
  unfold read
  cases reached with
  | refused unlisted refusing =>
    subst refusing
    simp only [Template.ofId?_eq_none_iff.mpr unlisted]
  | passed unlisted skipping =>
    subst skipping
    simp only [Template.ofId?_eq_none_iff.mpr unlisted]
  | noBody listed refused => simp only [Template.ofId?_eq_some_iff.mpr listed, refused]
  | noPayload listed read carried refused =>
    simp only [Template.ofId?_eq_some_iff.mpr listed, read, carried, refused]
  | message listed read carried decoded =>
    simp only [Template.ofId?_eq_some_iff.mpr listed, read, carried, decoded]

/-- Whatever stands behind headers, there is an outcome. -/
theorem exists_outcome (unknown : UnknownTemplates) (headers : Headers) (bytes : Bytes) :
    ∃ outcome, Outcome unknown headers bytes outcome := by
  cases known : Template.ofId? headers.descriptor.templateId with
  | none =>
    have unlisted := Template.ofId?_eq_none_iff.mp known
    cases policy : unknown with
    | reject => exact ⟨_, .refused unlisted rfl⟩
    | skip => exact ⟨_, .passed unlisted rfl⟩
  | some template =>
    have listed := Template.ofId?_eq_some_iff.mp known
    cases read : Body.read template headers.descriptor.blockLength headers.descriptor.version
        bytes with
    | error fault => exact ⟨_, .noBody listed read⟩
    | ok body =>
      obtain ⟨payload, carried⟩ := Body.payload?_of_read read
      cases decoded : MessagePack.decodeValue payload with
      | error fault => exact ⟨_, .noPayload listed read carried decoded⟩
      | ok value => exact ⟨_, .message listed read carried decoded⟩

/-- Reading comes to exactly the outcomes. -/
theorem read_eq_iff {outcome : Except Failure Message} :
    read unknown headers bytes = outcome ↔ Outcome unknown headers bytes outcome := by
  constructor
  · rintro rfl
    obtain ⟨outcome, reached⟩ := exists_outcome unknown headers bytes
    rw [read_of_outcome reached]
    exact reached
  · exact read_of_outcome

variable {frame : Frame}

/-- The message of a frame is the one behind its headers. -/
theorem ofFrame_of_opened (opened : Headers.read frame = .ok (headers, bytes)) :
    ofFrame unknown frame = read unknown headers bytes := by
  unfold ofFrame readHeaders
  rw [opened]
  rfl

/-- A frame has no message where its headers are refused. -/
theorem ofFrame_of_refused {fault : HeaderFault} (refused : Headers.read frame = .error fault) :
    ofFrame unknown frame = .error (.header fault) := by
  unfold ofFrame readHeaders
  rw [refused]
  rfl

end Message

end BrokerWire

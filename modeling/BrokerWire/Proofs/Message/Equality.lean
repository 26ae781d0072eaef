import BrokerWire.Proofs.Message.Stages
import BrokerWire.Proofs.Value.Equality

/-!
# Equality of messages

The payload of a message is decoded from its body, so messages with the same headers and the same
body have the same payload, bit for bit. They are equal unless that payload holds a floating number
without a number: then the message is not even equal to itself.
-/
namespace BrokerWire.Message

/-- The payload of the message holds a floating number without a number, at some depth. -/
def HoldsNaN (message : Message) : Prop :=
  ∃ value, message.payload = some value ∧ value.HoldsNaN

/-- Payloads are equal exactly when both are absent, or both are there and their values are
equal. -/
theorem samePayload_iff {left right : Message} :
    left.samePayload right = true ↔
      left.payload.map Value.unsignedZeros = right.payload.map Value.unsignedZeros ∧
        ¬left.HoldsNaN := by
  obtain ⟨_, _, payload⟩ := left
  obtain ⟨_, _, otherPayload⟩ := right
  cases payload <;> cases otherPayload <;> simp [samePayload, HoldsNaN, Value.same_iff]

/-- Messages are equal exactly when their headers and bodies are, and their payloads are equal as
values. -/
theorem same_eq_true_iff {left right : Message} :
    left.same right = true ↔
      left.headers = right.headers ∧ left.body = right.body ∧ left.samePayload right = true := by
  rw [same, Bool.and_eq_true, Bool.and_eq_true, beq_iff_eq, beq_iff_eq, and_assoc]

/-- A message is equal to itself exactly when its payload holds no bits without a number. -/
theorem same_self_eq_true_iff {message : Message} :
    message.same message = true ↔ ¬message.HoldsNaN := by
  rw [same_eq_true_iff, samePayload_iff, and_iff_right rfl, and_iff_right rfl, and_iff_right rfl]

variable {unknown otherUnknown : UnknownTemplates} {frame otherFrame : Frame}
  {message left right : Message}

/-- The payload of a message is what the bytes in its body are decoded into; without such bytes
there is none. -/
theorem map_decodeValue_payload? (found : ofFrame unknown frame = .ok message) :
    message.body.payload?.map MessagePack.decodeValue = message.payload.map .ok := by
  cases opened : Headers.read frame with
  | error fault =>
    rw [ofFrame_of_refused opened] at found
    contradiction
  | ok parts =>
    obtain ⟨headers, bytes⟩ := parts
    rw [ofFrame_of_opened opened] at found
    cases read_eq_iff.mp found with
    | passed => rfl
    | message listed read carried decoded => rw [carried, Option.map_some, decoded]; rfl

/-- Messages with the same body have the same payload. -/
theorem payload_eq_of_body_eq (found : ofFrame unknown frame = .ok left)
    (foundOther : ofFrame otherUnknown otherFrame = .ok right) (same : left.body = right.body) :
    left.payload = right.payload := by
  have decoded : left.payload.map (Except.ok (ε := MessagePack.Fault)) =
      right.payload.map Except.ok := by
    rw [← map_decodeValue_payload? found, ← map_decodeValue_payload? foundOther, same]
  exact Option.map_injective (fun _ _ => Except.ok.inj) decoded

/-- What decides whether two messages are equal. -/
structure DecidedByHeadersAndBody (left right : Message) : Prop where
  /-- The messages are equal exactly when their headers and their bodies are, and no floating number
  at any depth of the payload is without a number. -/
  same_iff : left.same right = true ↔
    left.headers = right.headers ∧ left.body = right.body ∧ ¬left.HoldsNaN
  /-- A message differs from itself exactly when its payload holds such bits. -/
  same_self_iff : left.same left = false ↔
    ∃ value number, left.payload = some value ∧ .float number ∈ value.nodes ∧
      number.isNaN = true
  /-- The same headers and the same body come with the same payload, node for node. -/
  payload_eq : left.headers = right.headers → left.body = right.body →
    left.payload = right.payload

/-- Messages that have been read are equal when their headers and bodies are, unless there is a
floating number without a number in the payload. -/
theorem decidedByHeadersAndBody (found : ofFrame unknown frame = .ok left)
    (foundOther : ofFrame otherUnknown otherFrame = .ok right) :
    left.DecidedByHeadersAndBody right where
  same_iff := by
    rw [same_eq_true_iff, samePayload_iff]
    constructor
    · rintro ⟨headers, body, -, numbers⟩
      exact ⟨headers, body, numbers⟩
    · rintro ⟨headers, body, numbers⟩
      have payload := payload_eq_of_body_eq found foundOther body
      exact ⟨headers, body, by rw [payload], numbers⟩
  same_self_iff := by
    rw [← Bool.not_eq_true, same_self_eq_true_iff, Classical.not_not]
    constructor
    · rintro ⟨value, carried, number, inside, nan⟩
      exact ⟨value, number, carried, inside, nan⟩
    · rintro ⟨value, number, carried, inside, nan⟩
      exact ⟨value, carried, number, inside, nan⟩
  payload_eq _ body := payload_eq_of_body_eq found foundOther body

/-- A response whose payload is an array of a floating number without a number and a truth value,
with a further byte behind it. -/
def responseWithNaN (behind : UInt8) : Frame := ⟨⟨34, 0, 0, 0, 0⟩,
  [1, 0, 21, 0, 10, 0, 0, 0, 0, 0, 4, 0, 9, 0, 0, 0, 0, 0, 0, 0,
    11, 0, 0x92, 0xCB, 0x7F, 0xF8, 0, 0, 0, 0, 0, 0, 0xC3, behind]⟩

/-- Two frames that differ behind the payload only give one message, which is not equal to itself:
its payload holds a floating number without a number. -/
theorem decidedByHeadersAndBody_responseWithNaN :
    let message : Message := ⟨⟨⟨34, 0, 0, 0, 0⟩, .singleMessage, ⟨21, 10, 0, 0⟩⟩,
      .executeCommandResponse ⟨4, 9, [0x92, 0xCB, 0x7F, 0xF8, 0, 0, 0, 0, 0, 0, 0xC3]⟩,
      some (.array [.float ⟨0x7FF8000000000000⟩, .bool true])⟩
    ofFrame .reject (responseWithNaN 0) = .ok message ∧
      ofFrame .skip (responseWithNaN 255) = .ok message ∧ message.same message = false ∧
      message.DecidedByHeadersAndBody message := by
  intro message
  have found : ofFrame .reject (responseWithNaN 0) = .ok message := rfl
  have foundOther : ofFrame .skip (responseWithNaN 255) = .ok message := rfl
  exact ⟨found, foundOther, by decide, decidedByHeadersAndBody found foundOther⟩

end BrokerWire.Message

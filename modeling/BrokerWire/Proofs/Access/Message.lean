import BrokerWire.Message.Basic
import BrokerWire.Proofs.Access.Body
import BrokerWire.Proofs.Access.Headers

/-!
# Messages by position

The message of a frame begins where its headers end. Looking for it there comes to what reading the
frame from the front comes to, and never names a place outside, however short the frame is.
-/
namespace BrokerWire.Message

open Access

/-- The message behind headers, its body read by position. -/
def fetchBehind (unknown : UnknownTemplates) (headers : Headers) (bytes : Bytes) :
    Access Failure Message :=
  let descriptor := headers.descriptor
  match Template.ofId? descriptor.templateId with
  | none =>
    match unknown with
    | .reject => .error (.refused (.unknownTemplate descriptor.templateId headers))
    | .skip => .ok ⟨headers, .unrecognized descriptor.templateId bytes, none⟩
  | some template =>
    match Body.fetch template descriptor.blockLength descriptor.version bytes with
    | .error .outside => .error .outside
    | .error (.refused fault) => .error (.refused (.body template fault headers))
    | .ok body =>
      match body.payload? with
      | none => .ok ⟨headers, body, none⟩
      | some payload =>
        match MessagePack.decodeValue payload with
        | .error fault => .error (.refused (.payload fault headers))
        | .ok value => .ok ⟨headers, body, some value⟩

/-- The headers of a frame, by position, and the bytes from where they end. -/
def fetchHeaders (frame : Frame) : Access Failure (Headers × Bytes) := do
  let headers ← mapReason .header (Headers.fetch frame)
  let bytes ← frame.body.sliceFrom headers.bodyOffset
  return (headers, bytes)

/-- The message of a frame, by position. -/
def fetch (unknown : UnknownTemplates) (frame : Frame) : Access Failure Message := do
  let headers ← mapReason .header (Headers.fetch frame)
  let bytes ← frame.body.sliceFrom headers.bodyOffset
  fetchBehind unknown headers bytes

/-- The message behind headers is fetched exactly where it is read, and no place outside is
named. -/
theorem fetchBehind_eq (unknown : UnknownTemplates) (headers : Headers) (bytes : Bytes) :
    fetchBehind unknown headers bytes = within (read unknown headers bytes) := by
  cases known : Template.ofId? headers.descriptor.templateId with
  | none =>
    simp only [fetchBehind, read, known]
    cases unknown <;> rfl
  | some template =>
    simp only [fetchBehind, read, known, Body.fetch_eq]
    cases found : Body.read template headers.descriptor.blockLength headers.descriptor.version
        bytes with
    | error fault => rfl
    | ok body =>
      cases carried : body.payload? with
      | none => simp only [within_ok, carried]
      | some payload =>
        simp only [within_ok, carried]
        cases MessagePack.decodeValue payload <;> rfl

/-- The headers of a frame are fetched exactly where they are read, and no place outside is
named. -/
theorem fetchHeaders_eq (frame : Frame) : fetchHeaders frame = within (readHeaders frame) := by
  rw [fetchHeaders, readHeaders, Headers.fetch_eq, mapReason_within]
  cases opened : Headers.read frame with
  | error fault => rfl
  | ok parts =>
    obtain ⟨headers, bytes⟩ := parts
    have behind := Headers.sliceFrom_of_read (ε := Failure) opened
    change (frame.body.sliceFrom headers.bodyOffset >>= _) = _
    rw [behind]
    rfl

/-- The message of a frame is fetched through its headers. -/
theorem fetch_eq_bind (unknown : UnknownTemplates) (frame : Frame) :
    fetch unknown frame = fetchHeaders frame >>= fun (headers, bytes) =>
      fetchBehind unknown headers bytes := by
  simp only [fetch, fetchHeaders, bind_assoc, pure_bind]

/-- The message of a frame is fetched exactly where it is read, and no place outside is named. -/
theorem fetch_eq (unknown : UnknownTemplates) (frame : Frame) :
    fetch unknown frame = within (ofFrame unknown frame) := by
  rw [fetch_eq_bind, fetchHeaders_eq, ofFrame, within_bind]
  exact bind_congr fun (headers, bytes) => fetchBehind_eq unknown headers bytes

end BrokerWire.Message

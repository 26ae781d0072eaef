import BrokerWire.Proofs.Access.Headers

/-!
# How a frame with headers opens

The headers inside a frame are words with their least digit first: the number of the protocol, the
correlation words of a request or its response, and the four words of the descriptor. A frame that
has headers opens with their words, up to the offset that the headers give, and a frame that opens
with such words has these headers, whatever comes behind. So the headers and the opening of a frame
determine each other.
-/
namespace BrokerWire

/-- Correlation words that stand there exactly for a request or its response make an envelope. -/
theorem Envelope.exists_of_correlated {protocol : Protocol} {correlation? : Option Correlation}
    (correlated : correlation?.isSome = true ↔ protocol = .requestResponse) :
    ∃ envelope : Envelope, envelope.protocol = protocol ∧ envelope.correlation? = correlation? := by
  cases protocol with
  | requestResponse =>
    obtain ⟨correlation, rfl⟩ := Option.isSome_iff_exists.mp (correlated.mpr rfl)
    exact ⟨.requestResponse correlation, rfl, rfl⟩
  | singleMessage =>
    have absent : correlation? = none := by
      rw [← Option.not_isSome_iff_eq_none]
      intro present
      exact Protocol.noConfusion (correlated.mp present)
    exact ⟨.singleMessage, rfl, absent.symm⟩

namespace Headers

/-- The bytes that a frame with these headers opens with, word by word. -/
def opening (protocol : Protocol) (correlation? : Option Correlation) (descriptor : Descriptor) :
    Bytes :=
  Word.write16 protocol.id ++
    (correlation?.elim [] fun correlation =>
      Word.write64 correlation.connectionId ++ Word.write64 correlation.requestId) ++
    [descriptor.templateId, descriptor.blockLength, descriptor.version,
      descriptor.reserved].flatMap Word.write16

/-- Headers are written as the opening of their frame. -/
theorem write_eq_opening (headers : Headers) :
    headers.write =
      opening headers.envelope.protocol headers.envelope.correlation? headers.descriptor := by
  have words : headers.descriptor.write =
      [headers.descriptor.templateId, headers.descriptor.blockLength, headers.descriptor.version,
        headers.descriptor.reserved].flatMap Word.write16 := by
    simp [Descriptor.write]
  rw [write, Envelope.write_eq, words]
  rfl

variable {frame : Frame} {headers : Headers} {rest : Bytes}

/-- The header of the frame is among the headers, as it is. -/
theorem frame_eq_of_read (found : read frame = .ok (headers, rest)) :
    headers.frame = frame.header := by
  rw [read_eq_ok_iff.mp found]

/-- A frame with headers does not end before its message begins. -/
theorem bodyOffset_le_of_read (found : read frame = .ok (headers, rest)) :
    headers.bodyOffset ≤ frame.body.length := by
  rw [read_eq_ok_iff.mp found, List.length_append, length_write]
  exact Nat.le_add_right _ _

/-- Another frame with the same header has the same headers exactly when it opens with the same
bytes. -/
theorem exists_read_iff_take_eq (found : read frame = .ok (headers, rest)) {other : Frame}
    (same : other.header = frame.header) :
    (∃ behind, read other = .ok (headers, behind)) ↔
      other.body.take headers.bodyOffset = frame.body.take headers.bodyOffset := by
  rw [← eq_take_of_read found]
  constructor
  · rintro ⟨behind, again⟩
    exact (eq_take_of_read again).symm
  · intro agree
    have header : headers.frame = other.header := by rw [same, frame_eq_of_read found]
    have body : other.body = headers.write ++ other.body.drop headers.bodyOffset := by
      rw [← agree, List.take_append_drop]
    refine ⟨other.body.drop headers.bodyOffset, read_eq_ok_iff.mpr ?_⟩
    rw [header, ← body]

/-- Headers are fetched by position exactly when they are read from the front. -/
theorem fetch_eq_ok_iff : fetch frame = .ok headers ↔ ∃ rest, read frame = .ok (headers, rest) := by
  constructor
  · exact read_of_fetch
  · rintro ⟨rest, found⟩
    rw [fetch_eq, found]
    rfl

/-- What the headers that are read from a frame have to do with the bytes that it opens with. -/
structure LosesNothing (frame : Frame) : Prop where
  /-- The header of the frame is copied. -/
  copied : ∀ headers rest, read frame = .ok (headers, rest) → headers.frame = frame.header
  /-- The words of the headers are the bytes of the frame up to where the message begins. -/
  kept : ∀ headers rest, read frame = .ok (headers, rest) →
    headers.bodyOffset ≤ frame.body.length ∧
      opening headers.envelope.protocol headers.envelope.correlation? headers.descriptor =
        frame.body.take headers.bodyOffset
  /-- Any words, with correlation words exactly for a request or its response, are read back from in
  front of any bytes, and these are handed back. -/
  restored : ∀ protocol correlation? descriptor tail,
    (Option.isSome correlation? = true ↔ protocol = .requestResponse) →
    frame.body = opening protocol correlation? descriptor ++ tail →
    ∃ envelope : Envelope, envelope.protocol = protocol ∧ envelope.correlation? = correlation? ∧
      read frame = .ok (⟨frame.header, envelope, descriptor⟩, tail)
  /-- Any other frame with the same header has the same headers exactly when it agrees with this one
  up to where the message begins. -/
  shared : ∀ headers rest, read frame = .ok (headers, rest) →
    ∀ other : Frame, other.header = frame.header →
      ((∃ behind, read other = .ok (headers, behind)) ↔
        other.body.take headers.bodyOffset = frame.body.take headers.bodyOffset)
  /-- Headers by position are the same, so the same is true of them. -/
  fetched : ∀ headers, fetch frame = .ok headers ↔ ∃ rest, read frame = .ok (headers, rest)

/-- Reading the headers of a frame loses nothing of what it opens with, and looks no further. -/
theorem read_losesNothing (frame : Frame) : LosesNothing frame where
  copied headers rest found := frame_eq_of_read found
  kept headers rest found := by
    have whole : headers.write = frame.body.take headers.bodyOffset := eq_take_of_read found
    rw [write_eq_opening] at whole
    exact ⟨bodyOffset_le_of_read found, whole⟩
  restored protocol correlation? descriptor tail correlated body := by
    obtain ⟨envelope, rfl, rfl⟩ := Envelope.exists_of_correlated correlated
    have whole : frame.body = write ⟨frame.header, envelope, descriptor⟩ ++ tail := by
      rw [body, write_eq_opening]
    refine ⟨envelope, rfl, rfl, read_eq_ok_iff.mpr ?_⟩
    rw [← whole]
  shared headers rest found other same := exists_read_iff_take_eq found same
  fetched headers := fetch_eq_ok_iff

end Headers

end BrokerWire

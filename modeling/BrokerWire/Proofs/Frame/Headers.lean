import BrokerWire.Frame.Headers
import BrokerWire.Proofs.Frame.Parts
import BrokerWire.Proofs.Outcome

/-!
# Headers written and read back

The headers inside a frame are read back from in front of any bytes, and those bytes are handed
back as they are. Nothing else is read as these headers, so a frame is cut where its headers say
that the message begins. Each layer is refused exactly where its bytes are cut short, or where no
protocol has the number in front.
-/
namespace BrokerWire

/-- The word of two bytes at a place in the body of a frame. -/
def Frame.wordAt (frame : Frame) (offset : Nat) : UInt16 :=
  UInt16.ofNat (Word.ofLittle ((frame.body.drop offset).take 2))

/-- The word that is written at a place stands there. -/
theorem Frame.wordAt_length {frame : Frame} {before after : Bytes} {word : UInt16}
    (body : frame.body = before ++ (Word.write16 word ++ after)) :
    frame.wordAt before.length = word := by
  have written : (Word.write16 word ++ after).take 2 = Word.write16 word :=
    List.take_left' (Word.length_little 2 word.toNat)
  rw [wordAt, body, List.drop_left, written, Word.ofLittle_write16]

namespace Protocol

/-- Protocols and their numbers belong together one to one. -/
theorem ofId?_eq_some_iff {id : UInt16} {protocol : Protocol} :
    ofId? id = some protocol ↔ id = protocol.id := by
  constructor
  · intro found
    simp only [ofId?] at found
    split at found
    · cases found; assumption
    · split at found
      · cases found; assumption
      · contradiction
  · rintro rfl
    cases protocol <;> rfl

/-- A protocol's number takes two bytes. -/
@[simp] theorem length_write (protocol : Protocol) : protocol.write.length = size := by
  simp [write, Word.write16, size]

/-- The number of a protocol is read back from in front of any bytes. -/
theorem read_write (protocol : Protocol) (rest : Bytes) :
    read (protocol.write ++ rest) = .ok (protocol, rest) := by
  unfold read write
  rw [Word.read16_write16]
  cases protocol <;> rfl

/-- A protocol is read exactly from its number. -/
theorem read_eq_ok_iff {bytes rest : Bytes} {protocol : Protocol} :
    read bytes = .ok (protocol, rest) ↔ bytes = protocol.write ++ rest := by
  constructor
  · intro found
    unfold read at found
    cases taken : Word.read16 bytes with
    | none => simp [taken] at found
    | some parts =>
      obtain ⟨id, behind⟩ := parts
      cases known : ofId? id with
      | none => simp [taken, known] at found
      | some one =>
        simp only [taken, known, Except.ok.injEq, Prod.mk.injEq] at found
        obtain ⟨rfl, rfl⟩ := found
        obtain rfl := ofId?_eq_some_iff.mp known
        exact Word.eq_of_read16 taken
  · rintro rfl
    exact protocol.read_write rest

/-- A protocol is refused exactly where its number is cut short or belongs to none. -/
theorem read_eq_error_iff {bytes : Bytes} {fault : HeaderFault} :
    read bytes = .error fault ↔
      (bytes.length < size ∧ fault = .noProtocol bytes.length) ∨
        ∃ id rest, bytes = Word.write16 id ++ rest ∧ (∀ protocol : Protocol, id ≠ protocol.id) ∧
          fault = .unsupportedProtocol id := by
  constructor
  · intro found
    unfold read at found
    cases taken : Word.read16 bytes with
    | none =>
      simp only [taken, Except.error.injEq] at found
      exact .inl ⟨Word.read16_eq_none_iff.mp taken, found.symm⟩
    | some parts =>
      obtain ⟨id, rest⟩ := parts
      cases known : ofId? id with
      | some protocol => simp [taken, known] at found
      | none =>
        simp only [taken, known, Except.error.injEq] at found
        have never : ∀ protocol : Protocol, id ≠ protocol.id := by
          intro protocol same
          rw [ofId?_eq_some_iff.mpr same] at known
          contradiction
        exact .inr ⟨id, rest, Word.eq_of_read16 taken, never, found.symm⟩
  · rintro (⟨short, rfl⟩ | ⟨id, rest, rfl, never, rfl⟩)
    · unfold read
      rw [Word.read16_eq_none_iff.mpr short]
    · have unknown : ofId? id = none := by
        rw [Option.eq_none_iff_forall_ne_some]
        exact fun protocol known => never protocol (ofId?_eq_some_iff.mp known)
      unfold read
      simp only [Word.read16_write16, unknown]

end Protocol

namespace Correlation

/-- Correlation words are two words behind each other. -/
theorem fixed : FixedPart read? write size :=
  (FixedPart.word64.pair .word64).made
    (fun (connectionId, requestId) => ⟨connectionId, requestId⟩)
    (fun correlation => (correlation.connectionId, correlation.requestId))
    (fun _ => rfl) (fun _ => rfl)
    (fun bytes => by
      simp only [read?, Option.pure_def, Option.bind_eq_bind, Option.map_bind, Option.map_some,
        Function.comp_def])
    (fun _ => rfl)

/-- Correlation words take sixteen bytes. -/
@[simp] theorem length_write (correlation : Correlation) : correlation.write.length = size :=
  FixedPart.length_write fixed correlation

/-- Correlation words are read back from in front of any bytes. -/
theorem read_write (correlation : Correlation) (rest : Bytes) :
    read (correlation.write ++ rest) = .ok (correlation, rest) := by
  unfold read
  rw [FixedPart.read_write fixed]

/-- Correlation words are read exactly from their bytes. -/
theorem read_eq_ok_iff {bytes rest : Bytes} {correlation : Correlation} :
    read bytes = .ok (correlation, rest) ↔ bytes = correlation.write ++ rest := by
  constructor
  · intro found
    unfold read at found
    cases taken : read? bytes with
    | none => simp [taken] at found
    | some parts =>
      simp only [taken, Except.ok.injEq] at found
      subst found
      exact FixedPart.eq_of_read fixed taken
  · rintro rfl
    exact correlation.read_write rest

/-- Correlation words are refused exactly where fewer than sixteen bytes are left. -/
theorem read_eq_error_iff {bytes : Bytes} {fault : HeaderFault} :
    read bytes = .error fault ↔ bytes.length < size ∧ fault = .noCorrelation bytes.length := by
  rw [← FixedPart.eq_none_iff fixed]
  unfold read
  cases read? bytes <;> simp [eq_comm]

end Correlation

namespace Descriptor

/-- A descriptor is four words behind each other. -/
theorem fixed : FixedPart read? write size :=
  (FixedPart.word16.pair (.pair .word16 (.pair .word16 .word16))).made
    (fun (templateId, blockLength, version, reserved) =>
      ⟨templateId, blockLength, version, reserved⟩)
    (fun descriptor => (descriptor.templateId, descriptor.blockLength, descriptor.version,
      descriptor.reserved))
    (fun _ => rfl) (fun _ => rfl)
    (fun bytes => by
      simp only [read?, Option.pure_def, Option.bind_eq_bind, Option.bind_assoc, Option.bind_some,
        Option.map_bind, Option.map_some, Function.comp_def])
    (fun descriptor => by simp only [write, List.append_assoc])

/-- A descriptor takes eight bytes. -/
@[simp] theorem length_write (descriptor : Descriptor) : descriptor.write.length = size :=
  FixedPart.length_write fixed descriptor

/-- A descriptor is read back from in front of any bytes. -/
theorem read_write (descriptor : Descriptor) (rest : Bytes) :
    read (descriptor.write ++ rest) = .ok (descriptor, rest) := by
  unfold read
  rw [FixedPart.read_write fixed]

/-- A descriptor is read exactly from its bytes. -/
theorem read_eq_ok_iff {bytes rest : Bytes} {descriptor : Descriptor} :
    read bytes = .ok (descriptor, rest) ↔ bytes = descriptor.write ++ rest := by
  constructor
  · intro found
    unfold read at found
    cases taken : read? bytes with
    | none => simp [taken] at found
    | some parts =>
      simp only [taken, Except.ok.injEq] at found
      subst found
      exact FixedPart.eq_of_read fixed taken
  · rintro rfl
    exact descriptor.read_write rest

/-- A descriptor is refused exactly where fewer than eight bytes are left. -/
theorem read_eq_error_iff {bytes : Bytes} {fault : HeaderFault} :
    read bytes = .error fault ↔ bytes.length < size ∧ fault = .noDescriptor bytes.length := by
  rw [← FixedPart.eq_none_iff fixed]
  unfold read
  cases read? bytes <;> simp [eq_comm]

end Descriptor

namespace Envelope

/-- An envelope opens with the number of its protocol; its correlation words follow, if there are
any. -/
theorem write_eq (envelope : Envelope) :
    envelope.write = envelope.protocol.write ++
      envelope.correlation?.elim [] Correlation.write := by
  cases envelope with
  | requestResponse correlation => rfl
  | singleMessage => simp [write, protocol, correlation?]

/-- An envelope ends where the descriptor begins. -/
@[simp] theorem length_write (envelope : Envelope) :
    envelope.write.length = envelope.protocol.descriptorOffset := by
  cases envelope with
  | requestResponse correlation =>
    rw [write, List.length_append, Protocol.length_write, Correlation.length_write]
    rfl
  | singleMessage =>
    rw [write, Protocol.length_write]
    rfl

/-- An envelope is read back from in front of any bytes. -/
theorem read_write (envelope : Envelope) (rest : Bytes) :
    read (envelope.write ++ rest) = .ok (envelope, rest) := by
  unfold read
  cases envelope with
  | requestResponse correlation =>
    rw [write, List.append_assoc, Protocol.read_write]
    simp only [bind, Except.bind, Correlation.read_write]
    rfl
  | singleMessage =>
    rw [write, Protocol.read_write]
    rfl

/-- An envelope is read exactly from its bytes. -/
theorem read_eq_ok_iff {bytes rest : Bytes} {envelope : Envelope} :
    read bytes = .ok (envelope, rest) ↔ bytes = envelope.write ++ rest := by
  constructor
  · intro found
    unfold read at found
    obtain ⟨⟨protocol, behind⟩, first, found⟩ := bind_eq_ok_iff.mp found
    rw [Protocol.read_eq_ok_iff.mp first]
    cases protocol with
    | requestResponse =>
      obtain ⟨⟨correlation, last⟩, second, same⟩ := bind_eq_ok_iff.mp found
      obtain ⟨rfl, rfl⟩ := Prod.mk.inj (Except.ok.inj same)
      rw [Correlation.read_eq_ok_iff.mp second, write, List.append_assoc]
    | singleMessage =>
      obtain ⟨rfl, rfl⟩ := Prod.mk.inj (Except.ok.inj found)
      rw [write]
  · rintro rfl
    exact envelope.read_write rest

/-- An envelope is refused exactly where its protocol is, or where its correlation words are cut
short. -/
theorem read_eq_error_iff {bytes : Bytes} {fault : HeaderFault} :
    read bytes = .error fault ↔
      Protocol.read bytes = .error fault ∨
        ∃ rest, bytes = Protocol.requestResponse.write ++ rest ∧ rest.length < Correlation.size ∧
          fault = .noCorrelation rest.length := by
  unfold read
  rw [bind_eq_error_iff]
  refine or_congr_right ?_
  constructor
  · rintro ⟨⟨protocol, rest⟩, first, refused⟩
    cases protocol with
    | requestResponse =>
      obtain refused | ⟨found, -, done⟩ := bind_eq_error_iff.mp refused
      · exact ⟨rest, Protocol.read_eq_ok_iff.mp first, Correlation.read_eq_error_iff.mp refused⟩
      · simp [pure, Except.pure] at done
    | singleMessage => simp [pure, Except.pure] at refused
  · rintro ⟨rest, whole, short⟩
    refine ⟨(.requestResponse, rest), Protocol.read_eq_ok_iff.mpr whole, ?_⟩
    exact bind_eq_error_iff.mpr (.inl (Correlation.read_eq_error_iff.mpr short))

end Envelope

namespace Headers

/-- The headers end where the message begins. -/
@[simp] theorem length_write (headers : Headers) : headers.write.length = headers.bodyOffset := by
  rw [write, List.length_append, Envelope.length_write, Descriptor.length_write]
  rfl

/-- The headers inside a frame are read back, and what stands behind them is the message. -/
theorem read_write (headers : Headers) (rest : Bytes) :
    read ⟨headers.frame, headers.write ++ rest⟩ = .ok (headers, rest) := by
  unfold read
  rw [write, List.append_assoc]
  simp only [bind, Except.bind, Envelope.read_write, Descriptor.read_write]
  rfl

/-- Headers are read exactly from a frame that has their header and opens with their bytes. -/
theorem read_eq_ok_iff {frame : Frame} {headers : Headers} {rest : Bytes} :
    read frame = .ok (headers, rest) ↔ frame = ⟨headers.frame, headers.write ++ rest⟩ := by
  constructor
  · intro found
    unfold read at found
    obtain ⟨⟨envelope, behind⟩, first, found⟩ := bind_eq_ok_iff.mp found
    obtain ⟨⟨descriptor, last⟩, second, same⟩ := bind_eq_ok_iff.mp found
    obtain ⟨rfl, rfl⟩ := Prod.mk.inj (Except.ok.inj same)
    have whole : frame.body = envelope.write ++ (descriptor.write ++ last) := by
      rw [Envelope.read_eq_ok_iff.mp first, Descriptor.read_eq_ok_iff.mp second]
    rw [write, List.append_assoc, ← whole]
  · rintro rfl
    exact headers.read_write rest

/-- Headers are refused exactly where the envelope is, or where the descriptor behind it is cut
short. -/
theorem read_eq_error_iff {frame : Frame} {fault : HeaderFault} :
    read frame = .error fault ↔
      Envelope.read frame.body = .error fault ∨
        ∃ envelope rest, frame.body = Envelope.write envelope ++ rest ∧
          rest.length < Descriptor.size ∧ fault = .noDescriptor rest.length := by
  unfold read
  rw [bind_eq_error_iff]
  refine or_congr_right ?_
  constructor
  · rintro ⟨⟨envelope, rest⟩, first, refused⟩
    obtain refused | ⟨found, -, done⟩ := bind_eq_error_iff.mp refused
    · exact ⟨envelope, rest, Envelope.read_eq_ok_iff.mp first,
        Descriptor.read_eq_error_iff.mp refused⟩
    · simp [pure, Except.pure] at done
  · rintro ⟨envelope, rest, whole, short⟩
    refine ⟨(envelope, rest), Envelope.read_eq_ok_iff.mpr whole, ?_⟩
    exact bind_eq_error_iff.mpr (.inl (Descriptor.read_eq_error_iff.mpr short))

/-- A frame with headers opens with the number of their protocol. -/
theorem wordAt_zero {frame : Frame} {headers : Headers} {rest : Bytes}
    (found : read frame = .ok (headers, rest)) :
    frame.wordAt 0 = headers.envelope.protocol.id := by
  have body : frame.body = [] ++ (Word.write16 headers.envelope.protocol.id ++
      (headers.envelope.correlation?.elim [] Correlation.write ++
        (headers.descriptor.write ++ rest))) := by
    rw [read_eq_ok_iff.mp found, write, Envelope.write_eq, Protocol.write]
    simp only [List.append_assoc, List.nil_append]
  exact Frame.wordAt_length body

/-- The bytes behind the headers of a frame begin at the offset that the headers give. -/
theorem eq_drop_of_read {frame : Frame} {headers : Headers} {rest : Bytes}
    (found : read frame = .ok (headers, rest)) : rest = frame.body.drop headers.bodyOffset := by
  rw [read_eq_ok_iff.mp found, ← headers.length_write, List.drop_left]

/-- The bytes in front of that offset are those of the headers. -/
theorem eq_take_of_read {frame : Frame} {headers : Headers} {rest : Bytes}
    (found : read frame = .ok (headers, rest)) :
    headers.write = frame.body.take headers.bodyOffset := by
  rw [read_eq_ok_iff.mp found, ← headers.length_write, List.take_left]

end Headers

end BrokerWire

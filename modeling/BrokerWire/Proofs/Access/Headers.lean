import BrokerWire.Proofs.Access.Basic
import BrokerWire.Proofs.Frame.Headers

/-!
# Headers by position

Once there are known to be enough bytes, the words of a header are fetched from their places, and
the headers behind it are looked for where its protocol puts them. This comes to what reading the
headers from the front comes to, and never names a place outside.
-/
namespace BrokerWire

open Access

namespace FrameHeader

/-- The header of a frame, by position; nothing where there are too few bytes. -/
def fetch {ε : Type} (bytes : Bytes) : Access ε (Option FrameHeader) :=
  if bytes.length < size then return none
  else do
    let length ← Word.fetch32 bytes 0
    let version ← bytes.fetch 4
    let flags ← bytes.fetch 5
    let kind ← Word.fetch16 bytes 6
    let stream ← Word.fetch32 bytes 8
    return some ⟨length, version, flags, kind, stream⟩

/-- A header is five words behind each other, two of them of one byte. -/
theorem fixed : FixedPart read write size :=
  (FixedPart.word32.pair (.pair .byte (.pair .byte (.pair .word16 .word32)))).made
    (fun (length, version, flags, kind, stream) => ⟨length, version, flags, kind, stream⟩)
    (fun header => (header.length, header.version, header.flags, header.kind, header.stream))
    (fun _ => rfl) (fun _ => rfl)
    (fun bytes => by
      simp only [read, Option.pure_def, Option.bind_eq_bind, Option.bind_assoc, Option.bind_some,
        Option.map_bind, Option.map_some, Function.comp_def])
    (fun _ => rfl)

/-- A header is fetched from its bytes. -/
theorem fetch_write {ε : Type} (header : FrameHeader) (rest : Bytes) :
    fetch (ε := ε) (header.write ++ rest) = .ok (some header) := by
  have long : ¬(header.write ++ rest).length < size := by
    rw [List.length_append, length_write]
    omega
  -- Twelve bytes are in front, so each word is computed from the four, one, one, two and four of
  -- its place.
  have fetched : fetch (ε := ε) (header.write ++ rest) = .ok (some
      ⟨UInt32.ofNat (Word.ofLittle (Word.write32 header.length)), header.version, header.flags,
        UInt16.ofNat (Word.ofLittle (Word.write16 header.kind)),
        UInt32.ofNat (Word.ofLittle (Word.write32 header.stream))⟩) := if_neg long
  rw [fetched, Word.ofLittle_write32, Word.ofLittle_write16, Word.ofLittle_write32]

/-- A header is fetched exactly where it is read, and no place outside is named. -/
theorem fetch_eq {ε : Type} (bytes : Bytes) :
    fetch (ε := ε) bytes = .ok ((read bytes).map Prod.fst) := by
  by_cases short : bytes.length < size
  · rw [fetch, if_pos short, (FixedPart.eq_none_iff fixed).mpr short]
    rfl
  · obtain ⟨header, rest, rfl⟩ := FixedPart.exists_write fixed (Nat.not_lt.mp short)
    rw [fetch_write, read_write]
    rfl

end FrameHeader

/-- The number of a protocol, by position. -/
def Protocol.fetch (bytes : Bytes) : Access HeaderFault Protocol :=
  if bytes.length < size then .error (.refused (.noProtocol bytes.length))
  else do
    let id ← Word.fetch16 bytes 0
    match ofId? id with
    | none => .error (.refused (.unsupportedProtocol id))
    | some protocol => return protocol

/-- A protocol is fetched exactly where it is read, and no place outside is named. -/
theorem Protocol.fetch_eq (bytes : Bytes) : fetch bytes = within ((read bytes).map Prod.fst) := by
  by_cases short : bytes.length < size
  · rw [fetch, if_pos short, read_eq_error_iff.mpr (.inl ⟨short, rfl⟩)]
    rfl
  · obtain ⟨id, rest, rfl⟩ := Word.exists_write16 (Nat.not_lt.mp short)
    have fetched : Word.fetch16 (ε := HeaderFault) (Word.write16 id ++ rest) 0 = .ok id :=
      Word.fetch16_of_eq [] rfl rfl
    rw [fetch, if_neg short, fetched, ok_bind]
    cases known : ofId? id <;> simp only [read, Word.read16_write16, known] <;> rfl

/-- Correlation words, by position. -/
def Correlation.fetch (bytes : Bytes) : Access HeaderFault Correlation :=
  if bytes.length < size then .error (.refused (.noCorrelation bytes.length))
  else do
    let connectionId ← Word.fetch64 bytes 0 8
    let requestId ← Word.fetch64 bytes 8 16
    return ⟨connectionId, requestId⟩

/-- Correlation words are fetched exactly where they are read, and no place outside is named. -/
theorem Correlation.fetch_eq (bytes : Bytes) :
    fetch bytes = within ((read bytes).map Prod.fst) := by
  by_cases short : bytes.length < size
  · rw [fetch, if_pos short, read_eq_error_iff.mpr ⟨short, rfl⟩]
    rfl
  · obtain ⟨correlation, rest, rfl⟩ := FixedPart.exists_write fixed (Nat.not_lt.mp short)
    have whole : correlation.write ++ rest =
        Word.write64 correlation.connectionId ++ (Word.write64 correlation.requestId ++ rest) :=
      List.append_assoc ..
    have first : Word.fetch64 (ε := HeaderFault) (correlation.write ++ rest) 0 8 =
        .ok correlation.connectionId := Word.fetch64_of_eq [] whole rfl rfl
    have second : Word.fetch64 (ε := HeaderFault) (correlation.write ++ rest) 8 16 =
        .ok correlation.requestId := Word.fetch64_of_eq _ whole rfl rfl
    rw [fetch, if_neg short, read_write, first, ok_bind, second, ok_bind]
    rfl

/-- A descriptor, by position. -/
def Descriptor.fetch (bytes : Bytes) : Access HeaderFault Descriptor :=
  if bytes.length < size then .error (.refused (.noDescriptor bytes.length))
  else do
    let templateId ← Word.fetch16 bytes 0
    let blockLength ← Word.fetch16 bytes 2
    let version ← Word.fetch16 bytes 4
    let reserved ← Word.fetch16 bytes 6
    return ⟨templateId, blockLength, version, reserved⟩

/-- A descriptor is fetched exactly where it is read, and no place outside is named. -/
theorem Descriptor.fetch_eq (bytes : Bytes) :
    fetch bytes = within ((read bytes).map Prod.fst) := by
  by_cases short : bytes.length < size
  · rw [fetch, if_pos short, read_eq_error_iff.mpr ⟨short, rfl⟩]
    rfl
  · obtain ⟨descriptor, rest, rfl⟩ := FixedPart.exists_write fixed (Nat.not_lt.mp short)
    have fetched : fetch (descriptor.write ++ rest) = .ok
        ⟨UInt16.ofNat (Word.ofLittle (Word.write16 descriptor.templateId)),
          UInt16.ofNat (Word.ofLittle (Word.write16 descriptor.blockLength)),
          UInt16.ofNat (Word.ofLittle (Word.write16 descriptor.version)),
          UInt16.ofNat (Word.ofLittle (Word.write16 descriptor.reserved))⟩ := if_neg short
    rw [fetched, read_write]
    simp only [Word.ofLittle_write16]
    rfl

/-- An envelope, by position: the correlation words of a request or response are looked for behind
the number of the protocol. -/
def Envelope.fetch (bytes : Bytes) : Access HeaderFault Envelope := do
  let protocol ← Protocol.fetch bytes
  match protocol with
  | .requestResponse =>
    let behind ← bytes.sliceFrom Protocol.size
    let correlation ← Correlation.fetch behind
    return .requestResponse correlation
  | .singleMessage => return .singleMessage

/-- An envelope is fetched exactly where it is read, and no place outside is named. -/
theorem Envelope.fetch_eq (bytes : Bytes) : fetch bytes = within ((read bytes).map Prod.fst) := by
  rw [fetch, read, Protocol.fetch_eq]
  refine within_bind_fst fun protocol rest first => ?_
  have whole := Protocol.read_eq_ok_iff.mp first
  cases protocol with
  | requestResponse =>
    have behind : bytes.sliceFrom (ε := HeaderFault) Protocol.size = .ok rest :=
      Bytes.sliceFrom_of_eq _ whole rfl
    simp only [behind, ok_bind, Correlation.fetch_eq]
    exact within_bind_fst fun correlation last second => rfl
  | singleMessage => rfl

namespace Headers

/-- The headers inside a frame, by position: the descriptor is looked for where the envelope puts
it. -/
def fetch (frame : Frame) : Access HeaderFault Headers := do
  let envelope ← Envelope.fetch frame.body
  let behind ← frame.body.sliceFrom envelope.protocol.descriptorOffset
  let descriptor ← Descriptor.fetch behind
  return ⟨frame.header, envelope, descriptor⟩

/-- Headers are fetched exactly where they are read, and no place outside is named. -/
theorem fetch_eq (frame : Frame) : fetch frame = within ((read frame).map Prod.fst) := by
  rw [fetch, read, Envelope.fetch_eq]
  refine within_bind_fst fun envelope rest first => ?_
  have whole := Envelope.read_eq_ok_iff.mp first
  have behind : frame.body.sliceFrom (ε := HeaderFault) envelope.protocol.descriptorOffset =
      .ok rest := Bytes.sliceFrom_of_eq _ whole envelope.length_write.symm
  rw [behind, ok_bind, Descriptor.fetch_eq]
  exact within_bind_fst fun descriptor last second => rfl

/-- The bytes behind headers that have been read are the slice from where the headers end. -/
theorem sliceFrom_of_read {ε : Type} {frame : Frame} {headers : Headers} {bytes : Bytes}
    (found : read frame = .ok (headers, bytes)) :
    frame.body.sliceFrom (ε := ε) headers.bodyOffset = .ok bytes := by
  have whole : frame.body = headers.write ++ bytes := by rw [read_eq_ok_iff.mp found]
  exact Bytes.sliceFrom_of_eq _ whole headers.length_write.symm

/-- Headers that are fetched are read. -/
theorem read_of_fetch {frame : Frame} {headers : Headers} (found : fetch frame = .ok headers) :
    ∃ bytes, read frame = .ok (headers, bytes) := by
  rw [fetch_eq] at found
  cases opened : read frame with
  | error fault => simp [opened, Except.map] at found
  | ok parts =>
    rw [opened] at found
    obtain rfl : parts.1 = headers := Except.ok.inj found
    exact ⟨parts.2, rfl⟩

end Headers

end BrokerWire

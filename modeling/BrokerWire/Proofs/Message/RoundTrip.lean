import BrokerWire.Proofs.Body.RoundTrip
import BrokerWire.Proofs.Frame.Headers
import BrokerWire.Proofs.MessagePack.RoundTrip
import BrokerWire.Proofs.Stream.Framing

/-!
# Messages written and read back

A letter is a message as it is put on the wire, with everything that its writer may choose. From
the frame that it is written in, and from any stream that brings that frame, exactly its message is
read, under every policy about unknown templates.
-/
namespace BrokerWire

/-- A message as it is put on the wire. -/
structure Letter where
  /-- The version of the framing. -/
  version : UInt8
  /-- Flags, uninterpreted. -/
  flags : UInt8
  /-- The type of the frame, uninterpreted. -/
  kind : UInt16
  /-- The stream the frame belongs to, uninterpreted. -/
  stream : UInt32
  /-- The protocol and its correlation words. -/
  envelope : Envelope
  /-- The template of the message. -/
  template : Template
  /-- The version of the template. -/
  schema : UInt16
  /-- A word without meaning. -/
  reserved : UInt16
  /-- The record of the template. -/
  body : Body
  /-- Further bytes of the block, behind the fields known here. -/
  extension : Bytes
  /-- The value of the payload. -/
  value : Value
  /-- Further bytes of the frame, behind the payload. -/
  trailing : Bytes
  /-- The record is one of the template. -/
  known : body.template? = some template
  /-- The record has the fields of its version and no newer ones. -/
  complete : body.HasFieldsOf schema
  /-- The payload of the record is the document of the value. -/
  carried : body.payload? = some (MessagePack.write value)
  /-- The value is canonical. -/
  canonical : value.Canonical
  /-- The value nests within the limit. -/
  shallow : value.depth ≤ 1023
  /-- The length of the block can be announced. -/
  blockFits : (body.writeBlock ++ extension).length ≤ 65535
  /-- The length of the payload can be announced. -/
  payloadFits : (MessagePack.write value).length ≤ 65535

namespace Letter

variable (letter : Letter)

/-- The block of the record, as long as it is announced. -/
def block : Bytes := letter.body.writeBlock ++ letter.extension

/-- What announces the message. -/
def descriptor : Descriptor :=
  ⟨letter.template.id, UInt16.ofNat letter.block.length, letter.schema, letter.reserved⟩

/-- The bytes inside the frame. -/
def contents : Bytes :=
  letter.envelope.write ++ letter.descriptor.write ++
    (letter.body.write letter.extension ++ letter.trailing)

/-- The frame of the letter. -/
def frame : Frame where
  header :=
    { length := UInt32.ofNat letter.contents.length
      version := letter.version
      flags := letter.flags
      kind := letter.kind
      stream := letter.stream }
  body := letter.contents

/-- The headers of the letter. -/
def headers : Headers := ⟨letter.frame.header, letter.envelope, letter.descriptor⟩

/-- The message that is to be read. -/
def message : Message := ⟨letter.headers, letter.body, some letter.value⟩

/-- The value of the payload is decoded from the bytes of the payload. -/
theorem decodeValue_payload :
    MessagePack.decodeValue (MessagePack.write letter.value) = .ok letter.value := by
  have short := letter.payloadFits
  exact MessagePack.decodeValue_write_of_canonical
    (MessagePack.fits_of_length_write (by omega)) letter.canonical letter.shallow

/-- The message is read from the frame. -/
theorem ofFrame_frame (unknown : UnknownTemplates) :
    Message.ofFrame unknown letter.frame = .ok letter.message := by
  have opened : Headers.read letter.frame =
      .ok (letter.headers, letter.body.write letter.extension ++ letter.trailing) :=
    letter.headers.read_write _
  have template : Template.ofId? letter.headers.descriptor.templateId = some letter.template :=
    Template.ofId?_eq_some_iff.mpr rfl
  have limit : Word.limit 2 = 65536 := rfl
  have blockFits := letter.blockFits
  have payloadFits := letter.payloadFits
  have body : Body.read letter.template letter.headers.descriptor.blockLength
      letter.headers.descriptor.version
      (letter.body.write letter.extension ++ letter.trailing) = .ok letter.body :=
    Body.read_write letter.known letter.complete letter.carried (by omega)
      (show _ < Word.limit 2 by omega) letter.trailing
  unfold Message.ofFrame Message.readHeaders
  rw [opened]
  simp only [bind, Except.bind, Message.read, template, body, letter.carried,
    letter.decodeValue_payload]
  rfl

/-- No letter is shorter than the smallest headers. -/
theorem leastLength_le_length : FrameHeader.leastLength ≤ letter.contents.length := by
  have envelope : 2 ≤ letter.envelope.write.length := by
    cases letter.envelope with
    | requestResponse correlation =>
      simp [Envelope.write, Protocol.write, Correlation.write, Word.write16, Word.write64]
    | singleMessage => simp [Envelope.write, Protocol.write, Word.write16]
  have descriptor : letter.descriptor.write.length = 8 := by
    simp [Descriptor.write, Word.write16]
  unfold contents FrameHeader.leastLength
  simp only [List.length_append]
  omega

/-- The frame of a letter announces its length when the length can be announced. -/
theorem announced {maximum : UInt32} (within : letter.contents.length ≤ maximum.toNat) :
    letter.frame.Announced := by
  exact UInt32.toNat_ofNat_of_lt' (Nat.lt_of_le_of_lt within maximum.toNat_lt)

/-- The frame of a letter is admitted when it is no longer than the maximum. -/
theorem admitted {settings : FrameSettings}
    (within : letter.contents.length ≤ settings.maximum.toNat) :
    settings.Admits letter.frame := by
  have length : letter.frame.header.length.toNat = letter.contents.length :=
    letter.announced within
  constructor
  · rw [length]
    exact letter.leastLength_le_length
  · rw [UInt32.le_iff_toNat_le, length]
    exact within

/-- A letter arrives: exactly its message is read from its frame, and from a stream that brings
the frame and its padding, of which nothing more is taken. -/
theorem arrives (settings : MessageSettings)
    (within : letter.contents.length ≤ settings.maximum.toNat) {padding : Bytes}
    (padded : padding.length = settings.padding letter.frame.wireLength) (more : Bytes)
    (later : List Delivery) (consumed : Nat) :
    let stream : Stream := ⟨.chunk (letter.frame.write ++ padding ++ more) :: later, consumed⟩
    let left : Stream :=
      ⟨.chunk more :: later, consumed + letter.frame.wireLength + padding.length⟩
    Message.ofFrame settings.unknown letter.frame = .ok letter.message ∧
      settings.readMessage stream = (.ok letter.message, left) ∧
      settings.nextMessage stream = (.ok (some letter.message), left) := by
  have announced := letter.announced within
  have admitted := letter.admitted within
  refine ⟨letter.ofFrame_frame settings.unknown, ?_, ?_⟩
  · unfold MessageSettings.readMessage
    rw [settings.readFrame_chunk announced admitted padded]
    simp only [Except.bind, letter.ofFrame_frame]
  · unfold MessageSettings.nextMessage
    rw [settings.nextFrame_chunk announced admitted padded]
    simp only [MessageSettings.ofFrameResult, letter.ofFrame_frame, Except.map]

/-- A command of the second schema version, with a further byte in its block and one behind its
payload. -/
def sequencedCommand : Letter where
  version := 3
  flags := 1
  kind := 2
  stream := 9
  envelope := .requestResponse ⟨7, 8⟩
  template := .executeCommandRequest
  schema := 1
  reserved := 5
  body := .executeCommandRequest ⟨4, 256, some 6, [0x81, 0xA3, 0x73, 0x65, 0x71, 0xCC, 0x80]⟩
  extension := [0xEE]
  value := .map [("seq", .uint 128)]
  trailing := [0xFF]
  known := rfl
  complete := rfl
  carried := by decide
  canonical := .intro (by simp [Value.Proper, Entries.names])
    (by simpa [Value.children] using .intro trivial (by simp [Value.children]))
  shallow := by decide
  blockFits := by decide
  payloadFits := by decide

/-- The command arrives on a stream whose frames begin at multiples of eight. -/
theorem sequencedCommand_arrives :
    ({ alignment := some 8 } : MessageSettings).nextMessage
        ⟨[.chunk (sequencedCommand.frame.write ++ [0, 0, 0, 0] ++ [1])], 0⟩ =
      (.ok (some sequencedCommand.message), ⟨[.chunk [1]], 64⟩) :=
  (sequencedCommand.arrives { alignment := some 8 } (by decide) (by decide) [1] [] 0).2.2

end Letter

end BrokerWire

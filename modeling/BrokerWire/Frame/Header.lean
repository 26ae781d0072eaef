import BrokerWire.Word

/-!
# Frames

A frame is a header of twelve bytes and as many further bytes as the header announces. Only the
announced length is interpreted; a length is admitted when the frame can hold the smallest headers
that follow and does not exceed the maximum in force.
-/
namespace BrokerWire

/-- The header of a frame. -/
structure FrameHeader where
  /-- How many bytes of the frame follow the header. -/
  length : UInt32
  /-- The version of the framing. -/
  version : UInt8
  /-- Flags, uninterpreted. -/
  flags : UInt8
  /-- The type of the frame, uninterpreted. -/
  kind : UInt16
  /-- The stream the frame belongs to, uninterpreted. -/
  stream : UInt32
  deriving DecidableEq, Repr

namespace FrameHeader

/-- The size of a frame header. -/
def size : Nat := 12

/-- The least admitted length: the smallest headers inside a frame. -/
def leastLength : Nat := 10

/-- The greatest admitted length unless another one is set. -/
def defaultMaximum : UInt32 := 16 * 1024 * 1024

/-- The bytes of a header. -/
def write (header : FrameHeader) : Bytes :=
  Word.write32 header.length ++ header.version :: header.flags ::
    (Word.write16 header.kind ++ Word.write32 header.stream)

/-- Take a header from the front. -/
def read (bytes : Bytes) : Option (FrameHeader × Bytes) := do
  let (length, rest) ← Word.read32 bytes
  let (version, rest) ← Word.read8 rest
  let (flags, rest) ← Word.read8 rest
  let (kind, rest) ← Word.read16 rest
  let (stream, rest) ← Word.read32 rest
  return (⟨length, version, flags, kind, stream⟩, rest)

/-- A header is read back from in front of any bytes. -/
theorem read_write (header : FrameHeader) (rest : Bytes) :
    read (header.write ++ rest) = some (header, rest) := by
  simp [read, write, Word.read8, Word.read16_write16, Word.read32_write32]

/-- A header takes twelve bytes. -/
@[simp] theorem length_write (header : FrameHeader) : header.write.length = size := by
  simp [write, Word.write16, Word.write32, size]

end FrameHeader

/-- Why an announced length is not admitted. -/
inductive LengthFault where
  /-- The frame cannot hold the smallest headers. -/
  | belowMinimum (length : UInt32)
  /-- The frame is longer than the maximum in force. -/
  | aboveMaximum (length maximum : UInt32)
  deriving DecidableEq, Repr

/-- The wording of a refused length. -/
def LengthFault.message : LengthFault → String
  | belowMinimum length => s!"Frame length {length} is below minimum {FrameHeader.leastLength}"
  | aboveMaximum length maximum => s!"Frame length {length} exceeds maximum {maximum}"

/-- Accept the announced length, or tell why not. -/
def FrameHeader.accept (header : FrameHeader) (maximum : UInt32) : Except LengthFault Unit :=
  if header.length.toNat < leastLength then .error (.belowMinimum header.length)
  else if maximum < header.length then .error (.aboveMaximum header.length maximum)
  else .ok ()

/-- A header and the bytes that follow it. -/
structure Frame where
  /-- The frame's header. -/
  header : FrameHeader
  /-- The bytes after the header. -/
  body : Bytes
  deriving DecidableEq, Repr

/-- The bytes that the frame takes on the wire. -/
def Frame.wireLength (frame : Frame) : Nat := FrameHeader.size + frame.body.length

/-- The bytes of a frame. -/
def Frame.write (frame : Frame) : Bytes := frame.header.write ++ frame.body

end BrokerWire

import BrokerWire.Proofs.Stream.Filling
import BrokerWire.Stream.MessageReader

/-!
# A frame on a stream

A frame whose header announces the length of its body, and whose length is admitted, is read from
the front of a chunk together with its padding, and nothing behind it is taken.
-/
namespace BrokerWire

/-- The frame's header announces the length of its body. -/
def Frame.Announced (frame : Frame) : Prop := frame.header.length.toNat = frame.body.length

namespace FrameSettings

variable (settings : FrameSettings)

/-- The frame is no shorter than the smallest headers and no longer than the maximum. -/
def Admits (frame : Frame) : Prop :=
  FrameHeader.leastLength ≤ frame.header.length.toNat ∧ frame.header.length ≤ settings.maximum

/-- The header of an admitted frame is accepted. -/
theorem accept_of_admits {frame : Frame} (admitted : settings.Admits frame) :
    frame.header.accept settings.maximum = .ok () := by
  obtain ⟨least, most⟩ := admitted
  unfold FrameHeader.accept
  rw [if_neg (Nat.not_lt.mpr least), if_neg (UInt32.not_lt.mpr most)]

/-- The next frame is read from the front of a chunk, with its padding. -/
theorem nextFrame_chunk {frame : Frame} (announced : frame.Announced)
    (admitted : settings.Admits frame) {padding : Bytes}
    (padded : padding.length = settings.padding frame.wireLength) (more : Bytes)
    (later : List Delivery) (consumed : Nat) :
    settings.nextFrame ⟨.chunk (frame.write ++ padding ++ more) :: later, consumed⟩ =
      (.ok (some frame),
        ⟨.chunk more :: later, consumed + frame.wireLength + padding.length⟩) := by
  have opened := frame.header.read_write []
  rw [List.append_nil] at opened
  have inHeader := Stream.fill_chunk frame.header.length_write
    (frame.body ++ (padding ++ more)) later consumed
  have inBody := Stream.fill_chunk announced.symm (padding ++ more) later
    (consumed + FrameHeader.size)
  have inPadding := Stream.fill_chunk padded more later
    (consumed + FrameHeader.size + frame.header.length.toNat)
  have accepted := settings.accept_of_admits admitted
  have read : settings.proceed .start
      ⟨.chunk (frame.write ++ padding ++ more) :: later, consumed⟩ =
      (.done (.ok (some frame)), ⟨.chunk more :: later, consumed + FrameHeader.size +
        frame.header.length.toNat + settings.padding frame.wireLength⟩) := by
    rw [Frame.write, List.append_assoc, List.append_assoc]
    simp only [proceed, Stage.start, readHeader, inHeader, opened, accepted, readBody, inBody,
      readPadding, inPadding]
  unfold nextFrame
  rw [read, padded, Frame.wireLength, announced, Nat.add_assoc consumed]

/-- One frame is read from the front of a chunk, with its padding. -/
theorem readFrame_chunk {frame : Frame} (announced : frame.Announced)
    (admitted : settings.Admits frame) {padding : Bytes}
    (padded : padding.length = settings.padding frame.wireLength) (more : Bytes)
    (later : List Delivery) (consumed : Nat) :
    settings.readFrame ⟨.chunk (frame.write ++ padding ++ more) :: later, consumed⟩ =
      (.ok frame, ⟨.chunk more :: later, consumed + frame.wireLength + padding.length⟩) := by
  unfold readFrame
  rw [settings.nextFrame_chunk announced admitted padded]
  rfl

end FrameSettings

end BrokerWire

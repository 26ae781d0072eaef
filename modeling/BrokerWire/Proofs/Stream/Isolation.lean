import BrokerWire.Proofs.Stream.Framing
import BrokerWire.Proofs.Stream.Requests

/-!
# Frames one behind the other

Frames that announce their lengths, each followed by the least padding that brings the next one to
a multiple of the alignment, are read one by one. Each request is answered from its own frame
alone, whatever the frames before it hold and whatever came of them, and the reader then stands
before the next header. Behind the last frame the stream is closed.
-/
namespace BrokerWire

namespace FrameSettings

variable (settings : FrameSettings)

/-- Frames begin at multiples of this number. It is one where they follow each other directly. -/
def unit : Nat := max 1 (settings.alignment.getD 1)

/-- The number that frames begin at multiples of is positive. -/
theorem unit_pos : 0 < settings.unit := Nat.le_max_left 1 _

/-- The padding, whether or not frames follow each other directly. -/
theorem padding_eq (length : Nat) :
    settings.padding length = (settings.unit - length % settings.unit) % settings.unit := by
  cases present : settings.alignment with
  | none => simp [padding, unit, present, Nat.mod_one]
  | some alignment =>
    cases alignment with
    | zero => simp [padding, unit, present, Nat.mod_one]
    | succ alignment =>
      have greater : max 1 (alignment + 1) = alignment + 1 := Nat.max_eq_right (by omega)
      simp only [padding, unit, present, Option.getD_some, greater]

/-- Padding brings every length to a multiple of the unit. -/
theorem unit_dvd_padded (length : Nat) : settings.unit ∣ length + settings.padding length := by
  have positive := settings.unit_pos
  have parts := Nat.div_add_mod length settings.unit
  have bound : length % settings.unit < settings.unit := Nat.mod_lt _ positive
  rw [padding_eq]
  by_cases whole : length % settings.unit = 0
  · rw [whole, Nat.sub_zero, Nat.mod_self, Nat.add_zero]
    exact Nat.dvd_of_mod_eq_zero whole
  · have short : settings.unit - length % settings.unit < settings.unit := by omega
    rw [Nat.mod_eq_of_lt short]
    refine ⟨length / settings.unit + 1, ?_⟩
    rw [Nat.mul_add, Nat.mul_one]
    omega

/-- No fewer bytes than the padding bring a length to a multiple of the unit. -/
theorem padding_le_of_dvd {length count : Nat} (fills : settings.unit ∣ length + count) :
    settings.padding length ≤ count := by
  have parts := Nat.div_add_mod length settings.unit
  rw [padding_eq]
  by_cases whole : length % settings.unit = 0
  · rw [whole, Nat.sub_zero, Nat.mod_self]
    exact Nat.zero_le _
  · have rounded : settings.unit ∣ length % settings.unit + count := by
      rw [← parts, Nat.add_assoc] at fills
      exact (Nat.dvd_add_right ⟨_, rfl⟩).mp fills
    have least := Nat.le_of_dvd (by omega) rounded
    have most := Nat.mod_le (settings.unit - length % settings.unit) settings.unit
    omega

end FrameSettings

/-- An admitted frame as it stands on a stream, with as few bytes behind it as bring the next one
to a multiple of the unit. -/
structure Packed (settings : FrameSettings) where
  /-- The frame. -/
  frame : Frame
  /-- The bytes behind it, whatever they are. -/
  padding : Bytes
  /-- The frame's header announces the length of its body. -/
  announced : frame.Announced
  /-- The announced length is admitted. -/
  admitted : settings.Admits frame
  /-- Frame and padding end at a multiple of the unit. -/
  fills : settings.unit ∣ frame.wireLength + padding.length
  /-- No fewer bytes would do. -/
  least : ∀ count, settings.unit ∣ frame.wireLength + count → padding.length ≤ count

namespace Packed

variable {settings : FrameSettings}

/-- A frame with zeros behind it. -/
def ofFrame (frame : Frame) (announced : frame.Announced) (admitted : settings.Admits frame) :
    Packed settings where
  frame
  padding := List.replicate (settings.padding frame.wireLength) 0
  announced
  admitted
  fills := by
    rw [List.length_replicate]
    exact settings.unit_dvd_padded _
  least count fills := by
    rw [List.length_replicate]
    exact settings.padding_le_of_dvd fills

/-- The bytes of a frame and its padding. -/
def write (packed : Packed settings) : Bytes := packed.frame.write ++ packed.padding

/-- How many bytes a frame takes with its padding. -/
theorem length_write (packed : Packed settings) :
    packed.write.length = packed.frame.wireLength + packed.padding.length := by
  rw [write, Frame.write, List.length_append, List.length_append,
    packed.frame.header.length_write, Frame.wireLength]

/-- The least padding is the one that the reader expects. -/
theorem length_padding (packed : Packed settings) :
    packed.padding.length = settings.padding packed.frame.wireLength :=
  Nat.le_antisymm (packed.least _ (settings.unit_dvd_padded _))
    (settings.padding_le_of_dvd packed.fills)

/-- Several frames with their padding end at a multiple of the unit. -/
theorem unit_dvd_length (frames : List (Packed settings)) :
    settings.unit ∣ (frames.flatMap write).length := by
  induction frames with
  | nil => exact Nat.dvd_zero _
  | cons packed frames ih =>
    rw [List.flatMap_cons, List.length_append, length_write]
    exact Nat.dvd_add packed.fills ih

/-- The stream that is left of frames when some of them have been read, in one chunk. -/
def streamAt (frames : List (Packed settings)) (index : Nat) : Stream :=
  ⟨[.chunk ((frames.drop index).flatMap write)], ((frames.take index).flatMap write).length⟩

/-- Where some frames have been read, the next one is read, or the stream is closed. -/
theorem nextFrame_streamAt (frames : List (Packed settings)) (index : Nat) :
    SameOutcome (settings.nextFrame (streamAt frames index))
      (.ok (frames[index]?.map frame), streamAt frames (index + 1)) := by
  cases inside : frames[index]? with
  | none =>
    have behind : frames.length ≤ index := List.getElem?_eq_none_iff.mp inside
    have all : streamAt frames index =
        ⟨[.chunk []], (frames.flatMap write).length⟩ := by
      simp [streamAt, List.drop_of_length_le behind, List.take_of_length_le behind]
    have still : streamAt frames (index + 1) =
        ⟨[.chunk []], (frames.flatMap write).length⟩ := by
      simp [streamAt, List.drop_of_length_le (Nat.le_succ_of_le behind),
        List.take_of_length_le (Nat.le_succ_of_le behind)]
    rw [all, still]
    exact ⟨rfl, rfl, rfl⟩
  | some packed =>
    obtain ⟨within, rfl⟩ := List.getElem?_eq_some_iff.mp inside
    have next : streamAt frames (index + 1) =
        ⟨[.chunk ((frames.drop (index + 1)).flatMap write)],
          ((frames.take index).flatMap write).length + frames[index].frame.wireLength +
            frames[index].padding.length⟩ := by
      simp only [streamAt, List.take_add_one, inside, Option.toList_some, List.flatMap_append,
        List.flatMap_cons, List.flatMap_nil, List.append_nil, List.length_append, length_write,
        Nat.add_assoc]
    have read := settings.nextFrame_chunk frames[index].announced frames[index].admitted
      frames[index].length_padding ((frames.drop (index + 1)).flatMap write) []
      ((frames.take index).flatMap write).length
    have here : streamAt frames index =
        ⟨[.chunk (frames[index].frame.write ++ frames[index].padding ++
          (frames.drop (index + 1)).flatMap write)],
          ((frames.take index).flatMap write).length⟩ := by
      simp only [streamAt, List.drop_eq_getElem_cons within, List.flatMap_cons, write]
    rw [here, read, next]
    exact ⟨rfl, rfl, rfl⟩

end Packed

namespace Request

/-- The request is answered from a frame. -/
def takesFrame : Request → Bool
  | message | next | headers => true
  | parse _ _ => false

/-- The answer to a request that has nothing to go by but one frame, or the end of the stream in
its place. -/
def answerFrom (unknown : UnknownTemplates) : Request → Option Frame → Answer
  | message, some frame => .message (Message.ofFrame unknown frame)
  | message, none => .message (.error (.incompleteRead FrameHeader.size 0))
  | next, some frame => .next ((Message.ofFrame unknown frame).map some)
  | next, none => .next (.ok none)
  | headers, some frame => .headers (Message.readHeaders frame)
  | headers, none => .headers (.error (.incompleteRead FrameHeader.size 0))
  | parse _ _, _ => .unkept

end Request

namespace Reader

variable {settings : MessageSettings} {frames : List (Packed settings.toFrameSettings)}
  {reader : Reader} {index : Nat}

/-- A request that takes a frame is answered from the next one alone, which is then behind the
reader. -/
theorem answer_streamAt (stands : reader.stream.Alike (Packed.streamAt frames index))
    {request : Request} (takes : request.takesFrame = true) :
    (reader.answer settings request).1 =
        request.answerFrom settings.unknown (frames[index]?.map Packed.frame) ∧
      (reader.answer settings request).2.stream.Alike (Packed.streamAt frames (index + 1)) := by
  have read := settings.nextFrame_alike stands
  have known := Packed.nextFrame_streamAt frames index
  have result : (settings.nextFrame reader.stream).1 = .ok (frames[index]?.map Packed.frame) :=
    read.result.trans known.result
  have left : (settings.nextFrame reader.stream).2.Alike (Packed.streamAt frames (index + 1)) :=
    read.left.trans known.left
  cases request with
  | message =>
    refine ⟨?_, left⟩
    simp only [answer, MessageSettings.readMessage, FrameSettings.readFrame, result]
    cases frames[index]? <;> rfl
  | next =>
    refine ⟨?_, left⟩
    simp only [answer, MessageSettings.nextMessage, result]
    cases frames[index]? <;> rfl
  | headers =>
    refine ⟨?_, left⟩
    simp only [answer, MessageSettings.readHeaders, FrameSettings.readFrame, result]
    cases frames[index]? <;> rfl
  | parse _ _ => contradiction

/-- A request that takes no frame leaves the reader where it is. -/
theorem answer_of_not_takesFrame {request : Request} (takes : request.takesFrame = false) :
    (reader.answer settings request).2 = reader := by
  cases request with
  | message | next | headers => contradiction
  | parse headers bytes =>
    simp only [answer]
    split <;> rfl

/-- Requests take one frame each, those for a message behind kept headers apart. -/
theorem run_streamAt (stands : reader.stream.Alike (Packed.streamAt frames index))
    (requests : List Request) :
    (reader.run settings requests).2.stream.Alike
      (Packed.streamAt frames (index + requests.countP Request.takesFrame)) := by
  induction requests generalizing reader index with
  | nil => exact stands
  | cons request requests ih =>
    cases takes : request.takesFrame with
    | true =>
      have further := ih (answer_streamAt stands takes).2
      rw [List.countP_cons_of_pos takes]
      have order : index + 1 + requests.countP Request.takesFrame =
          index + (requests.countP Request.takesFrame + 1) := by omega
      rw [order] at further
      exact further
    | false =>
      have still : (reader.answer settings request).2 = reader := answer_of_not_takesFrame takes
      have here : (reader.answer settings request).2.stream.Alike
          (Packed.streamAt frames index) := by
        rw [still]
        exact stands
      have further := ih here
      rw [List.countP_cons_of_neg (by simp [takes])]
      exact further

/-- A reader stands before the frame of an index: it has taken exactly the frames before it, and
whatever is asked of it next is answered from that frame alone. -/
structure StandsBefore (settings : MessageSettings)
    (frames : List (Packed settings.toFrameSettings)) (index : Nat) (reader : Reader) : Prop where
  /-- The bytes taken are those of the frames before, with their padding. -/
  consumed : reader.stream.consumed = ((frames.take index).flatMap Packed.write).length
  /-- They are a multiple of the unit. -/
  aligned : settings.unit ∣ reader.stream.consumed
  /-- The bytes left are those of the other frames. -/
  remaining : reader.stream.remaining = (frames.drop index).flatMap Packed.write
  /-- The next answer is the one that this frame gives, or the closed stream behind the last. -/
  answers : ∀ request : Request, request.takesFrame = true →
    (reader.answer settings request).1 =
      request.answerFrom settings.unknown (frames[index]?.map Packed.frame)

/-- Frames are read in isolation: however they are cut into deliveries, and whatever came of the
requests so far, the reader stands before the frame that comes next. -/
theorem run_standsBefore (settings : MessageSettings)
    (frames : List (Packed settings.toFrameSettings)) {deliveries : List Delivery}
    (passing : ∀ delivery ∈ deliveries, delivery.passes = true)
    (carried : (Stream.ofDeliveries deliveries).remaining = frames.flatMap Packed.write)
    (requests : List Request) :
    ((ofDeliveries deliveries).run settings requests).2.StandsBefore settings frames
      (requests.countP Request.takesFrame) := by
  have first : (ofDeliveries deliveries).stream.Alike (Packed.streamAt frames 0) := by
    have chunk := Stream.alike_chunk passing
    rw [carried] at chunk
    exact chunk
  have stands : ((ofDeliveries deliveries).run settings requests).2.stream.Alike
      (Packed.streamAt frames (0 + requests.countP Request.takesFrame)) :=
    run_streamAt first requests
  rw [Nat.zero_add] at stands
  refine ⟨stands.consumed, ?_, ?_, fun request takes => (answer_streamAt stands takes).1⟩
  · rw [stands.consumed]
    exact Packed.unit_dvd_length _
  · rw [stands.remaining]
    simp [Packed.streamAt, Stream.remaining, Delivery.bytes]

/-- A frame of an unknown protocol and one that can be read, at multiples of eight, arrive in two
parts around an interrupted read. Behind the refused frame the reader stands before the other. -/
theorem run_standsBefore_behind_refused :
    let settings : MessageSettings := { alignment := some 8 }
    let frames : List (Packed settings.toFrameSettings) :=
      [.ofFrame ⟨⟨10, 0, 0, 0, 0⟩, [9, 0, 0, 0, 0, 0, 0, 0, 0, 0]⟩ rfl ⟨by decide, by decide⟩,
        .ofFrame ⟨⟨13, 0, 0, 0, 0⟩, [1, 0, 11, 0, 0, 0, 0, 0, 0, 0, 1, 0, 192]⟩ rfl
          ⟨by decide, by decide⟩]
    let bytes := frames.flatMap Packed.write
    let deliveries : List Delivery :=
      [.chunk (bytes.take 5), .interruption, .chunk (bytes.drop 5)]
    let reader := ((ofDeliveries deliveries).run settings [.message]).2
    (∀ delivery ∈ deliveries, delivery.passes = true) ∧
      (Stream.ofDeliveries deliveries).remaining = bytes ∧ reader.stream.consumed = 24 ∧
      reader.StandsBefore settings frames 1 :=
  ⟨by decide, by decide, by decide, run_standsBefore _ _ (by decide) (by decide) [.message]⟩

end Reader

end BrokerWire

import BrokerWire.Proofs.Stream.Framing

/-!
# Frames that come of a stream

Whatever a stream brings, a frame that is read from it has a header that is admitted and a body of
the length that the header announces. The stages of reading keep to it: behind an accepted header
no more bytes are taken into the body than it announces.
-/
namespace BrokerWire

namespace FrameSettings

variable (settings : FrameSettings)

/-- A header is accepted exactly within the bounds on its length. -/
theorem accept_eq_ok_iff {header : FrameHeader} {maximum : UInt32} :
    header.accept maximum = .ok () ↔
      FrameHeader.leastLength ≤ header.length.toNat ∧ header.length ≤ maximum := by
  unfold FrameHeader.accept
  by_cases short : header.length.toNat < FrameHeader.leastLength
  · simp [if_pos short, Nat.not_le.mpr short]
  · by_cases long : maximum < header.length
    · simp [if_neg short, if_pos long, UInt32.not_le.mpr long]
    · simp [if_neg short, if_neg long, Nat.not_lt.mp short, UInt32.not_lt.mp long]

/-- The frame is admitted and as long as announced. -/
def Sound (frame : Frame) : Prop := settings.Admits frame ∧ frame.Announced

/-- The stage has an admitted header in front, and no more of the body than announced. -/
def SoundStage : Stage → Prop
  | .header _ => True
  | .body header received =>
    settings.Admits ⟨header, received⟩ ∧ received.length ≤ header.length.toNat
  | .padding frame _ => settings.Sound frame

/-- A frame that has been reached is sound, and so is a stage to go on from. -/
def SoundProgress : Progress Frame → Prop
  | .done (.ok (some frame)) => settings.Sound frame
  | .done _ => True
  | .waiting stage => settings.SoundStage stage

/-- The end of a stream gives no frame. -/
theorem endOfStream_ne_frame {α : Type} (stage : Stage) (result : α) :
    settings.endOfStream stage ≠ .ok (some result) := by
  cases stage with
  | header received => cases received <;> simp [endOfStream]
  | body header received => simp [endOfStream]
  | padding frame received => simp [endOfStream]

/-- The end of a stream is sound at any stage, as it gives no frame. -/
theorem soundProgress_endOfStream (stage : Stage) :
    settings.SoundProgress (.done (settings.endOfStream stage)) := by
  have none := settings.endOfStream_ne_frame (α := Frame) stage
  cases ended : settings.endOfStream (α := Frame) stage with
  | error failure => trivial
  | ok frame? =>
    cases frame? with
    | none => trivial
    | some frame => exact absurd ended (none frame)

/-- The padding of a sound frame changes nothing in it. -/
theorem readPadding_sound {frame : Frame} (sound : settings.Sound frame) (received : Bytes)
    (stream : Stream) : settings.SoundProgress (settings.readPadding frame received stream).1 := by
  rw [readPadding]
  cases stream.fill (settings.padding frame.wireLength) received with
  | mk outcome left =>
    cases outcome with
    | full _ | waiting _ => exact sound
    | ended _ | failed _ => trivial

/-- Behind an admitted header the body is filled up to the announced length. -/
theorem readBody_sound {header : FrameHeader} {received : Bytes}
    (sound : settings.SoundStage (.body header received)) (stream : Stream) :
    settings.SoundProgress (settings.readBody header received stream).1 := by
  obtain ⟨admitted, within⟩ := sound
  obtain ⟨taken, -, accounts⟩ := stream.fill_accounts header.length.toNat received
  rw [readBody]
  cases filled : stream.fill header.length.toNat received with
  | mk outcome left =>
    rw [filled] at accounts
    cases outcome with
    | full body =>
      obtain ⟨rfl, count⟩ := accounts
      have announced : (⟨header, received ++ taken⟩ : Frame).Announced := by
        simp only [Frame.Announced, List.length_append]
        omega
      have sound : settings.Sound ⟨header, received ++ taken⟩ := ⟨admitted, announced⟩
      exact settings.readPadding_sound sound [] left
    | waiting got =>
      obtain ⟨rfl, count, -⟩ := accounts
      refine ⟨admitted, ?_⟩
      rw [List.length_append]
      omega
    | ended _ | failed _ => trivial

/-- A header is accepted before any of the body is taken. -/
theorem readHeader_sound (received : Bytes) (stream : Stream) :
    settings.SoundProgress (settings.readHeader received stream).1 := by
  rw [readHeader]
  cases stream.fill FrameHeader.size received with
  | mk outcome left =>
    cases outcome with
    | full bytes =>
      cases opened : FrameHeader.read bytes with
      | none => simp only [opened, SoundProgress]
      | some found =>
        obtain ⟨header, rest⟩ := found
        cases accepted : header.accept settings.maximum with
        | error fault => simp only [opened, accepted, SoundProgress]
        | ok =>
          simp only [opened, accepted]
          exact settings.readBody_sound ⟨accept_eq_ok_iff.mp accepted, Nat.zero_le _⟩ left
    | ended got => exact settings.soundProgress_endOfStream (.header got)
    | failed _ | waiting _ => trivial

/-- Going on from a sound stage comes to a sound frame or another sound stage. -/
theorem proceed_sound {stage : Stage} (sound : settings.SoundStage stage) (stream : Stream) :
    settings.SoundProgress (settings.proceed stage stream).1 := by
  cases stage with
  | header received => exact settings.readHeader_sound received stream
  | body header received => exact settings.readBody_sound sound stream
  | padding frame received => exact settings.readPadding_sound sound received stream

/-- The next frame of a stream is admitted and as long as announced. -/
theorem nextFrame_sound {stream left : Stream} {frame : Frame}
    (found : settings.nextFrame stream = (.ok (some frame), left)) : settings.Sound frame := by
  have start : settings.SoundStage .start := trivial
  have reached := settings.proceed_sound start stream
  rw [nextFrame] at found
  cases came : settings.proceed .start stream with
  | mk progress rest =>
    rw [came] at found reached
    cases progress with
    | done result =>
      obtain ⟨rfl, -⟩ := Prod.mk.inj found
      exact reached
    | waiting stage =>
      exact absurd (Prod.mk.inj found).1 (settings.endOfStream_ne_frame stage frame)

/-- One frame is read exactly where it is the next one. -/
theorem readFrame_eq_ok_iff {stream left : Stream} {frame : Frame} :
    settings.readFrame stream = (.ok frame, left) ↔
      settings.nextFrame stream = (.ok (some frame), left) := by
  unfold readFrame
  cases settings.nextFrame stream with
  | mk result rest =>
    cases result with
    | error failure => simp [required]
    | ok frame? => cases frame? <;> simp [required]

end FrameSettings

end BrokerWire

import BrokerWire.Proofs.Stream.Filling
import BrokerWire.Stream.MessageReader

/-!
# Going on from a stage

A reader that has run out of deliveries hands back how far it has come. Going on from there gives
exactly what reading all of the deliveries at once gives, and a result that has been reached before
is not changed by anything delivered later. Whatever comes of it, reading takes bytes from the
front of the stream only, and no frame is read without the bytes of a header.
-/
namespace BrokerWire

namespace FrameSettings

variable (settings : FrameSettings)

/-- What comes of reading once more has been delivered: a result stands, and a stage is gone on
from. -/
def resume (later : List Delivery) : Progress Frame × Stream → Progress Frame × Stream
  | (.done result, stream) => (.done result, stream.append later)
  | (.waiting stage, stream) => settings.proceed stage (stream.append later)

/-- The padding may be delivered in parts. -/
theorem readPadding_append (frame : Frame) (received : Bytes) (stream : Stream)
    (later : List Delivery) :
    settings.readPadding frame received (stream.append later) =
      settings.resume later (settings.readPadding frame received stream) := by
  rw [readPadding, Stream.fill_append, readPadding]
  cases stream.fill (settings.padding frame.wireLength) received with
  | mk outcome left => cases outcome <;> rfl

/-- The body may be delivered in parts. -/
theorem readBody_append (header : FrameHeader) (received : Bytes) (stream : Stream)
    (later : List Delivery) :
    settings.readBody header received (stream.append later) =
      settings.resume later (settings.readBody header received stream) := by
  rw [readBody, Stream.fill_append, readBody]
  cases stream.fill header.length.toNat received with
  | mk outcome left =>
    cases outcome with
    | full body => exact settings.readPadding_append ⟨header, body⟩ [] left later
    | ended _ | failed _ | waiting _ => rfl

/-- The header may be delivered in parts. -/
theorem readHeader_append (received : Bytes) (stream : Stream) (later : List Delivery) :
    settings.readHeader received (stream.append later) =
      settings.resume later (settings.readHeader received stream) := by
  rw [readHeader, Stream.fill_append, readHeader]
  cases stream.fill FrameHeader.size received with
  | mk outcome left =>
    cases outcome with
    | full bytes =>
      cases opened : FrameHeader.read bytes with
      | none => simp only [opened, resume]
      | some found =>
        obtain ⟨header, rest⟩ := found
        cases admitted : header.accept settings.maximum with
        | error fault => simp only [opened, admitted, resume]
        | ok =>
          simp only [opened, admitted]
          exact settings.readBody_append header [] left later
    | ended _ | failed _ | waiting _ => rfl

/-- A frame may be delivered in parts, from whatever stage it is read on. -/
theorem proceed_append (stage : Stage) (stream : Stream) (later : List Delivery) :
    settings.proceed stage (stream.append later) =
      settings.resume later (settings.proceed stage stream) := by
  cases stage with
  | header received => exact settings.readHeader_append received stream later
  | body header received => exact settings.readBody_append header received stream later
  | padding frame received => exact settings.readPadding_append frame received stream later

/-- Whoever waits inside the padding has used up the deliveries. -/
theorem readPadding_waiting {frame : Frame} {received : Bytes} {stream left : Stream}
    {stage : Stage} (waits : settings.readPadding frame received stream = (.waiting stage, left)) :
    left.deliveries = [] := by
  obtain ⟨taken, -, accounts⟩ := stream.fill_accounts (settings.padding frame.wireLength) received
  rw [readPadding] at waits
  cases filled : stream.fill (settings.padding frame.wireLength) received with
  | mk outcome rest =>
    rw [filled] at accounts waits
    cases outcome with
    | waiting got =>
      obtain ⟨-, rfl⟩ := Prod.mk.inj waits
      exact accounts.2.2
    | full _ | ended _ | failed _ => simp at waits

/-- Whoever waits inside the body or behind it has used up the deliveries. -/
theorem readBody_waiting {header : FrameHeader} {received : Bytes} {stream left : Stream}
    {stage : Stage} (waits : settings.readBody header received stream = (.waiting stage, left)) :
    left.deliveries = [] := by
  obtain ⟨taken, -, accounts⟩ := stream.fill_accounts header.length.toNat received
  rw [readBody] at waits
  cases filled : stream.fill header.length.toNat received with
  | mk outcome rest =>
    rw [filled] at accounts waits
    cases outcome with
    | full body => exact settings.readPadding_waiting waits
    | waiting got =>
      obtain ⟨-, rfl⟩ := Prod.mk.inj waits
      exact accounts.2.2
    | ended _ | failed _ => simp at waits

/-- Whoever waits inside a header or behind it has used up the deliveries. -/
theorem readHeader_waiting {received : Bytes} {stream left : Stream} {stage : Stage}
    (waits : settings.readHeader received stream = (.waiting stage, left)) :
    left.deliveries = [] := by
  obtain ⟨taken, -, accounts⟩ := stream.fill_accounts FrameHeader.size received
  rw [readHeader] at waits
  cases filled : stream.fill FrameHeader.size received with
  | mk outcome rest =>
    rw [filled] at accounts waits
    cases outcome with
    | full bytes =>
      cases opened : FrameHeader.read bytes with
      | none => simp [opened] at waits
      | some found =>
        obtain ⟨header, behind⟩ := found
        cases admitted : header.accept settings.maximum with
        | error fault => simp [opened, admitted] at waits
        | ok =>
          simp only [opened, admitted] at waits
          exact settings.readBody_waiting waits
    | waiting got =>
      obtain ⟨-, rfl⟩ := Prod.mk.inj waits
      exact accounts.2.2
    | ended _ | failed _ => simp at waits

/-- Whoever waits has used up the deliveries. -/
theorem proceed_waiting {stage next : Stage} {stream left : Stream}
    (waits : settings.proceed stage stream = (.waiting next, left)) : left.deliveries = [] := by
  cases stage with
  | header received => exact settings.readHeader_waiting waits
  | body header received => exact settings.readBody_waiting waits
  | padding frame received => exact settings.readPadding_waiting waits

/-- Padding is taken from the front of the stream. -/
theorem readPadding_leftAfter (frame : Frame) (received : Bytes) (stream : Stream) :
    ∃ taken, stream.LeftAfter taken (settings.readPadding frame received stream).2 := by
  obtain ⟨taken, after, -⟩ :=
    stream.fill_accounts (settings.padding frame.wireLength) received
  refine ⟨taken, ?_⟩
  simp only [readPadding]
  cases filled : stream.fill (settings.padding frame.wireLength) received with
  | mk outcome left =>
    rw [filled] at after
    cases outcome <;> exact after

/-- A body and its padding are taken from the front of the stream. -/
theorem readBody_leftAfter (header : FrameHeader) (received : Bytes) (stream : Stream) :
    ∃ taken, stream.LeftAfter taken (settings.readBody header received stream).2 := by
  obtain ⟨taken, after, -⟩ := stream.fill_accounts header.length.toNat received
  simp only [readBody]
  cases filled : stream.fill header.length.toNat received with
  | mk outcome left =>
    rw [filled] at after
    cases outcome with
    | full body =>
      obtain ⟨more, behind⟩ := settings.readPadding_leftAfter ⟨header, body⟩ [] left
      exact ⟨taken ++ more, after.trans behind⟩
    | ended _ | failed _ | waiting _ => exact ⟨taken, after⟩

/-- A frame is taken from the front of the stream, and not without all of its header. -/
theorem readHeader_leftAfter (received : Bytes) (stream : Stream) :
    ∃ taken, stream.LeftAfter taken (settings.readHeader received stream).2 ∧
      ∀ frame, (settings.readHeader received stream).1 = .done (.ok (some frame)) →
        FrameHeader.size ≤ received.length + taken.length := by
  obtain ⟨taken, after, accounts⟩ := stream.fill_accounts FrameHeader.size received
  simp only [readHeader]
  cases filled : stream.fill FrameHeader.size received with
  | mk outcome left =>
    rw [filled] at after accounts
    cases outcome with
    | full bytes =>
      obtain ⟨-, length⟩ := accounts
      cases opened : FrameHeader.read bytes with
      | none => exact ⟨taken, by simpa only [opened] using after, by simp [opened]⟩
      | some found =>
        obtain ⟨header, rest⟩ := found
        cases admitted : header.accept settings.maximum with
        | error fault =>
          exact ⟨taken, by simpa only [opened, admitted] using after, by simp [opened, admitted]⟩
        | ok =>
          simp only [opened, admitted]
          obtain ⟨more, behind⟩ := settings.readBody_leftAfter header [] left
          refine ⟨taken ++ more, after.trans behind, fun _ _ => ?_⟩
          simp only [List.length_append]
          omega
    | ended got =>
      refine ⟨taken, after, fun frame found => ?_⟩
      cases got <;> simp [endOfStream] at found
    | failed _ | waiting _ => exact ⟨taken, after, by simp⟩

/-- Every frame of a stream takes bytes. -/
theorem nextFrame_shortens {stream left : Stream} {frame : Frame}
    (found : settings.nextFrame stream = (.ok (some frame), left)) :
    left.remaining.length < stream.remaining.length := by
  obtain ⟨taken, after, whole⟩ := settings.readHeader_leftAfter [] stream
  simp only [nextFrame, proceed, Stage.start] at found
  cases reached : settings.readHeader [] stream with
  | mk progress rest =>
    rw [reached] at found after whole
    cases progress with
    | done result =>
      simp only [Prod.mk.injEq] at found
      obtain ⟨rfl, rfl⟩ := found
      have long := whole frame rfl
      have parts := after.length_eq
      simp only [FrameHeader.size, List.length_nil, Nat.zero_add] at long
      change rest.remaining.length < _
      change stream.remaining.length = taken.length + rest.remaining.length at parts
      omega
    | waiting stage =>
      cases stage with
      | header received => cases received <;> simp [endOfStream] at found
      | body header received => simp [endOfStream] at found
      | padding frame received => simp [endOfStream] at found

end FrameSettings

end BrokerWire

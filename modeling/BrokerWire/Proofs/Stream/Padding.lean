import BrokerWire.Proofs.Stream.Taking
import BrokerWire.Proofs.Subscription.Faithful

/-!
# Frames whose padding is cut short

The padding behind a frame is part of what the reader waits for. A stream may end with a whole
frame and less than its padding, and then the frame is not read: the padding is reported as cut
short, and the frame is lost with it. So the end of a stream is reported in three parts of a frame,
the header, the body and the padding, and a subscription passes on a failure in place of the
frame.
-/
namespace BrokerWire

/-- A stream that is cut short by its end has no other reason. -/
theorem Stream.cut_eq_incompleteRead_iff {stream : Stream} {size got expected received : Nat} :
    stream.cut size got = .incompleteRead expected received ↔
      stream.fault? = none ∧ size = expected ∧ got = received := by
  unfold cut
  cases stream.fault? <;> simp

namespace FrameSettings

variable (settings : FrameSettings) {stream : Stream} {frame : Frame} {behind : Bytes}

/-- What flows behind the header of a frame settles what comes of it. -/
theorem takesBehind_of_flow (flow : stream.flow = frame.write ++ behind) :
    settings.TakesBehind stream frame.header := by
  have opened : stream.flow = frame.header.write ++ (frame.body ++ behind) := by
    rw [flow, Frame.write, List.append_assoc]
  exact settings.takesBehind opened

/-- A frame that announces its length takes as many bytes behind its header. -/
theorem wireLength_of_announced (announced : frame.Announced) :
    12 + frame.header.length.toNat = frame.wireLength := by
  rw [announced]
  rfl

/-- What flows of a frame and behind it. -/
theorem length_flow (flow : stream.flow = frame.write ++ behind) :
    stream.flow.length = frame.wireLength + behind.length := by
  rw [flow, Frame.write, List.length_append, List.length_append, frame.header.length_write,
    Frame.wireLength]

/-- A frame is read where its padding flows as well, and nothing is taken behind it. -/
theorem gives_of_padded (flow : stream.flow = frame.write ++ behind) (announced : frame.Announced)
    (admitted : settings.Admits frame)
    (padded : settings.padding frame.wireLength ≤ behind.length) :
    ∃ left, settings.Gives stream (.ok frame) left ∧
      stream.Advanced (frame.wireLength + settings.padding frame.wireLength) left := by
  have whole := (settings.takesBehind_of_flow flow).whole admitted.1 admitted.2
  rw [wireLength_of_announced announced, length_flow flow] at whole
  obtain ⟨left, gives, advanced⟩ := whole (Nat.add_le_add_left padded _)
  have inside : stream.flow.drop 12 = frame.body ++ behind := by
    rw [flow, Frame.write, List.append_assoc]
    exact List.drop_left' frame.header.length_write
  rw [inside, announced, List.take_left] at gives
  exact ⟨left, gives, advanced⟩

/-- Where less than its padding flows behind a frame, the frame is lost. -/
theorem gives_of_unpadded (flow : stream.flow = frame.write ++ behind)
    (announced : frame.Announced) (admitted : settings.Admits frame)
    (short : behind.length < settings.padding frame.wireLength) :
    settings.Gives stream
      (.error (stream.cut (settings.padding frame.wireLength) behind.length)) stream.spent := by
  have lost := (settings.takesBehind_of_flow flow).padding admitted.1 admitted.2
  rw [wireLength_of_announced announced, length_flow flow, Nat.add_sub_cancel_left] at lost
  exact lost (Nat.le_add_right ..) (Nat.add_lt_add_left short _)

/-- A stream ends inside a part of a frame that is to have so many bytes, and so many of them are
there. -/
inductive EndsInside (settings : FrameSettings) (stream : Stream) : Nat → Nat → Prop where
  /-- It ends inside a header. -/
  | header (begun : stream.flow ≠ []) (short : stream.flow.length < 12) :
      EndsInside settings stream 12 stream.flow.length
  /-- It ends inside the body behind a header whose length is admitted. -/
  | body {header : FrameHeader} {body : Bytes} (flow : stream.flow = header.write ++ body)
      (least : 10 ≤ header.length.toNat) (most : header.length ≤ settings.maximum)
      (short : body.length < header.length.toNat) :
      EndsInside settings stream header.length.toNat body.length
  /-- It ends inside the padding behind a whole frame. -/
  | padding {frame : Frame} {behind : Bytes} (flow : stream.flow = frame.write ++ behind)
      (announced : frame.Announced) (admitted : settings.Admits frame)
      (short : behind.length < settings.padding frame.wireLength) :
      EndsInside settings stream (settings.padding frame.wireLength) behind.length

/-- A header and the bytes behind it are all that flows. -/
theorem length_opened {header : FrameHeader} {rest : Bytes}
    (opened : stream.flow = header.write ++ rest) : stream.flow.length = 12 + rest.length := by
  rw [opened, List.length_append, header.length_write]
  rfl

/-- Bytes behind a header that are enough for the body are the body of a frame and others. -/
theorem exists_frame_of_flow {header : FrameHeader} {rest : Bytes}
    (opened : stream.flow = header.write ++ rest) (inside : header.length.toNat ≤ rest.length) :
    ∃ frame behind, stream.flow = Frame.write frame ++ behind ∧ frame.header = header ∧
      frame.Announced := by
  refine ⟨⟨header, rest.take header.length.toNat⟩, rest.drop header.length.toNat, ?_, rfl, ?_⟩
  · rw [opened, Frame.write, List.append_assoc, List.take_append_drop]
  · exact (List.length_take_of_le inside).symm

/-- A stream that ends inside a part of a frame cuts that part short. -/
theorem nextFrame_of_endsInside {expected received : Nat}
    (ends : settings.EndsInside stream expected received) :
    (settings.nextFrame stream).1 = .error (stream.cut expected received) := by
  cases ends with
  | header begun short =>
    rw [settings.nextFrame_of_short short, if_neg fun both => begun both.1]
    rfl
  | body flow least most short =>
    have count := length_opened flow
    have lacking := (settings.takesBehind flow).body least most (by omega)
    rw [lacking.1, count, Nat.add_sub_cancel_left]
    rfl
  | padding flow announced admitted short =>
    rw [(settings.gives_of_unpadded flow announced admitted short).1]
    rfl

/-- A stream that does not end inside a part of a frame does not cut one short. -/
theorem endsInside_or (stream : Stream) :
    (∃ expected received, settings.EndsInside stream expected received) ∨
      ∀ expected received,
        (settings.nextFrame stream).1 ≠ .error (.incompleteRead expected received) := by
  by_cases few : stream.flow.length < 12
  · by_cases begun : stream.flow = []
    · right
      rw [settings.nextFrame_of_short few, Stream.cut]
      cases stream.fault? <;> simp [begun]
    · exact .inl ⟨_, _, .header begun few⟩
  · obtain ⟨header, rest, opened⟩ := FrameHeader.fixed.exists_write (Nat.not_lt.mp few)
    have takes := settings.takesBehind opened
    by_cases least : 10 ≤ header.length.toNat
    · by_cases most : header.length ≤ settings.maximum
      · by_cases inside : header.length.toNat ≤ rest.length
        · obtain ⟨frame, behind, flow, rfl, announced⟩ := exists_frame_of_flow opened inside
          by_cases padded : settings.padding frame.wireLength ≤ behind.length
          · obtain ⟨left, gives, -⟩ :=
              settings.gives_of_padded flow announced ⟨least, most⟩ padded
            exact .inr fun expected received => by simp [gives.1, Except.map]
          · exact .inl ⟨_, _, .padding flow announced ⟨least, most⟩ (Nat.not_le.mp padded)⟩
        · exact .inl ⟨_, _, .body opened least most (Nat.not_le.mp inside)⟩
      · obtain ⟨left, gives, -⟩ := takes.aboveMaximum least (UInt32.not_le.mp most)
        exact .inr fun expected received => by simp [gives.1, Except.map]
    · obtain ⟨left, gives, -⟩ := takes.belowMinimum (Nat.not_le.mp least)
      exact .inr fun expected received => by simp [gives.1, Except.map]

/-- The next frame is reported as cut short exactly where the stream ends inside a header, a body
or a padding. -/
theorem nextFrame_eq_incompleteRead_iff {expected received : Nat} :
    (settings.nextFrame stream).1 = .error (.incompleteRead expected received) ↔
      stream.fault? = none ∧ settings.EndsInside stream expected received := by
  constructor
  · intro reported
    obtain ⟨size, got, ends⟩ | never := settings.endsInside_or stream
    · rw [settings.nextFrame_of_endsInside ends] at reported
      obtain ⟨quiet, rfl, rfl⟩ :=
        Stream.cut_eq_incompleteRead_iff.mp (Except.error.inj reported)
      exact ⟨quiet, ends⟩
    · exact absurd reported (never expected received)
  · rintro ⟨quiet, ends⟩
    rw [settings.nextFrame_of_endsInside ends,
      Stream.cut_eq_incompleteRead_iff.mpr ⟨quiet, rfl, rfl⟩]

end FrameSettings

namespace MessageSettings

/-- These are the messages of the frames. -/
def Carries (settings : MessageSettings) (frames : List (Packed settings.toFrameSettings))
    (messages : List Message) : Prop :=
  frames.map (fun packed => Message.ofFrame settings.unknown packed.frame) = messages.map .ok

/-- Plain reading passes over packed frames that carry messages, and goes on behind them. -/
theorem reads_of_carries (settings : MessageSettings)
    {frames : List (Packed settings.toFrameSettings)} {messages : List Message}
    (carries : settings.Carries frames messages) {stream : Stream} {rest : Bytes}
    (flow : stream.flow = frames.flatMap Packed.write ++ rest) :
    ∃ left, left.flow = rest ∧ left.fault? = stream.fault? ∧
      ∀ items, settings.Reads left items → settings.Reads stream (messages.map .ok ++ items) := by
  induction frames generalizing messages stream with
  | nil =>
    obtain rfl : messages = [] := List.map_eq_nil_iff.mp carries.symm
    exact ⟨stream, flow, rfl, fun _ reads => reads⟩
  | cons packed frames ih =>
    obtain ⟨message, others, rfl, read, carries⟩ := List.map_eq_cons_iff.mp carries.symm
    have opened : stream.flow =
        packed.frame.write ++ (packed.padding ++ (frames.flatMap Packed.write ++ rest)) := by
      rw [flow, List.flatMap_cons, Packed.write, List.append_assoc, List.append_assoc]
    have padded : settings.padding packed.frame.wireLength ≤
        (packed.padding ++ (frames.flatMap Packed.write ++ rest)).length := by
      rw [List.length_append, packed.length_padding]
      exact Nat.le_add_right ..
    obtain ⟨middle, gives, advanced⟩ :=
      settings.gives_of_padded opened packed.announced packed.admitted padded
    have behind : middle.flow = frames.flatMap Packed.write ++ rest := by
      rw [advanced.flow, flow, List.flatMap_cons, List.append_assoc, ← packed.length_padding,
        ← packed.length_write, List.drop_left]
    obtain ⟨left, same, quiet, further⟩ := ih carries.symm behind
    have next : settings.nextMessage stream = (.ok (some message), middle) := by
      simp only [nextMessage, gives.1, Except.map, ofFrameResult, ← read]
    exact ⟨left, same, quiet.trans advanced.fault, fun items reads =>
      .message next (further items reads)⟩

/-- The item of a frame that comes last, with these bytes behind it: what its message comes to
where all of its padding flows, and otherwise the padding that is cut short. -/
def lastItem (settings : MessageSettings) (frame : Frame) (behind : Bytes) : Item :=
  if settings.padding frame.wireLength ≤ behind.length then Message.ofFrame settings.unknown frame
  else .error (.incompleteRead (settings.padding frame.wireLength) behind.length)

/-- Plain reading of a whole frame, with no more than its padding behind it, gives one item. -/
theorem reads_lastItem (settings : MessageSettings) {frame : Frame} {behind : Bytes}
    {stream : Stream} (flow : stream.flow = frame.write ++ behind) (quiet : stream.fault? = none)
    (announced : frame.Announced) (admitted : settings.Admits frame)
    (within : behind.length ≤ settings.padding frame.wireLength) :
    settings.Reads stream [settings.lastItem frame behind] := by
  by_cases padded : settings.padding frame.wireLength ≤ behind.length
  · obtain ⟨left, gives, advanced⟩ := settings.gives_of_padded flow announced admitted padded
    have nothing : left.flow = [] := by
      rw [advanced.flow, List.drop_eq_nil_iff, FrameSettings.length_flow flow]
      exact Nat.add_le_add_left within _
    have short : left.flow.length < FrameHeader.size := by
      rw [nothing]
      exact Nat.zero_lt_succ _
    have done := settings.nextFrame_of_short short
    rw [if_pos ⟨nothing, advanced.fault.trans quiet⟩] at done
    have closed : settings.nextMessage left = (.ok none, left.spent) := by
      rw [nextMessage, done]
      rfl
    have next : settings.nextMessage stream =
        ((Message.ofFrame settings.unknown frame).map some, left) := by
      rw [nextMessage, gives.1]
      rfl
    rw [lastItem, if_pos padded]
    cases read : Message.ofFrame settings.unknown frame with
    | ok message =>
      rw [read] at next
      exact .message next (.closed closed)
    | error failure =>
      rw [read] at next
      exact .failed next
  · have gives := settings.gives_of_unpadded flow announced admitted (Nat.not_le.mp padded)
    rw [Stream.cut_eq_incompleteRead_iff.mpr ⟨quiet, rfl, rfl⟩] at gives
    have next : settings.nextMessage stream = (.error (.incompleteRead
        (settings.padding frame.wireLength) behind.length), stream.spent) := by
      rw [nextMessage, gives.1]
      rfl
    rw [lastItem, if_neg padded]
    exact .failed next

end MessageSettings

/-- Once the stream of a session has ended, each request gets the next item of plain reading. -/
theorem Session.run_takes_of_reads {settings : SubscriptionSettings} {operations : List Operation}
    (ordered : Operation.FeedsBeforeEnd operations) (finished : .finish ∈ operations)
    {items : List Item}
    (reads : settings.Reads (Stream.ofDeliveries (Operation.deliveries operations)) items)
    {requests : List Operation} (only : ∀ operation ∈ requests, operation.isTake = true) :
    ((start settings).run (operations ++ requests)).taken =
      items.take (((start settings).run operations).taken.length + requests.length) := by
  have live : (start settings).subscription.ended = false := Subscription.settle_ended _
  have accounts := run_accounts (start_accounts settings) operations ordered (by simp [live])
  rw [List.nil_append] at accounts
  rw [run_append]
  exact run_takes accounts ((run_ended _ _).mpr (.inr finished)) reads requests only

/-- What the padding behind a whole frame decides. -/
structure PaddingDecides (settings : SubscriptionSettings) (frame : Frame) : Prop where
  /-- Where all of the padding flows behind the frame, the frame is read, and it and its padding
  are all that is taken. -/
  read : ∀ (stream : Stream) (behind : Bytes), stream.flow = frame.write ++ behind →
    settings.padding frame.wireLength ≤ behind.length → ∃ left,
      settings.Gives stream (.ok frame) left ∧
      stream.Advanced (frame.wireLength + settings.padding frame.wireLength) left
  /-- Where less of it does, the frame is lost with all that flows. -/
  lost : ∀ (stream : Stream) (behind : Bytes), stream.flow = frame.write ++ behind →
    behind.length < settings.padding frame.wireLength →
      settings.Gives stream
        (.error (stream.cut (settings.padding frame.wireLength) behind.length)) stream.spent
  /-- So a stream is cut short by its end in a padding as well as in a header or a body. -/
  reported : ∀ (stream : Stream) (expected received : Nat),
    (settings.nextFrame stream).1 = .error (.incompleteRead expected received) ↔
      stream.fault? = none ∧ settings.EndsInside stream expected received
  /-- A subscription passes on the messages in front of a frame that comes last, and then the one
  item of the frame. -/
  passedOn : ∀ (frames : List (Packed settings.toFrameSettings)) (messages : List Message)
    (behind : Bytes) (operations requests : List Operation),
    settings.Carries frames messages →
    behind.length ≤ settings.padding frame.wireLength →
    Operation.FeedsBeforeEnd operations → .finish ∈ operations →
    (Stream.ofDeliveries (Operation.deliveries operations)).flow =
      frames.flatMap Packed.write ++ (frame.write ++ behind) →
    (Stream.ofDeliveries (Operation.deliveries operations)).fault? = none →
    (∀ operation ∈ requests, operation.isTake = true) →
    ((Session.start settings).run (operations ++ requests)).taken =
      (messages.map Except.ok ++ [settings.lastItem frame behind]).take
        (((Session.start settings).run operations).taken.length + requests.length)

/-- The padding behind a whole frame decides whether the frame is read, for every alignment and
every maximum that admits the frame. -/
theorem padding_decides (settings : SubscriptionSettings) {frame : Frame}
    (announced : frame.Announced) (admitted : settings.Admits frame) :
    PaddingDecides settings frame where
  read stream behind flow padded := settings.gives_of_padded flow announced admitted padded
  lost stream behind flow short := settings.gives_of_unpadded flow announced admitted short
  reported stream expected received := settings.nextFrame_eq_incompleteRead_iff
  passedOn frames messages behind operations requests carries within ordered finished flow quiet
      only := by
    obtain ⟨left, same, fault, reads⟩ := settings.reads_of_carries carries flow
    have last := settings.reads_lastItem same (fault.trans quiet) announced admitted within
    exact Session.run_takes_of_reads ordered finished (reads _ last) only

/-- A frame of 22 bytes and its least padding under an alignment of eight. -/
theorem padding_decides_of_alignment_eight :
    let settings : SubscriptionSettings := { alignment := some 8 }
    let frame : Frame := ⟨⟨10, 0, 0, 0, 0⟩, List.replicate 10 1⟩
    frame.Announced ∧ settings.Admits frame ∧ settings.padding frame.wireLength = 2 ∧
      PaddingDecides settings frame :=
  ⟨rfl, ⟨by decide, by decide⟩, by decide, padding_decides _ rfl ⟨by decide, by decide⟩⟩

/-- Not every whole frame is read: one that ends its stream is lost where its padding is missing. -/
theorem not_forall_nextFrame_eq_frame :
    ¬ ∀ (settings : FrameSettings) (stream : Stream) (frame : Frame) (behind : Bytes),
      frame.Announced → settings.Admits frame → stream.flow = frame.write ++ behind →
      stream.fault? = none → (settings.nextFrame stream).1 = .ok (some frame) := by
  intro kept
  let frame : Frame := ⟨⟨10, 0, 0, 0, 0⟩, List.replicate 10 1⟩
  let settings : FrameSettings := { alignment := some 8 }
  let stream : Stream := Stream.ofDeliveries [.chunk frame.write]
  have announced : frame.Announced := rfl
  have admitted : settings.Admits frame := ⟨by decide, by decide⟩
  have flow : stream.flow = frame.write ++ [] := rfl
  have read := kept settings stream frame [] announced admitted flow rfl
  have lost := settings.gives_of_unpadded flow announced admitted (by decide)
  rw [lost.1] at read
  contradiction

end BrokerWire

import BrokerWire.Proofs.Access.Stream
import BrokerWire.Proofs.Message.Stages
import BrokerWire.Proofs.Stream.Beginning

/-!
# Ways of reading a message

A message can be read from a stream at once, as the next one if there is any, or headers first and
the message behind them later. All three take the same bytes and come to the same message or the
same failure, at whatever byte the stream stops; only a stream that is closed is no failure where
the next message is asked for. Headers are all that is needed to read the bytes behind those of
another frame as their own.
-/
namespace BrokerWire

/-- The deliveries end before they give another byte. -/
def Delivery.endFirst : List Delivery → Bool
  | [] => true
  | .nothing :: _ => true
  | .interruption :: deliveries => endFirst deliveries
  | .chunk bytes :: deliveries => bytes.isEmpty && endFirst deliveries
  | .failure _ :: _ => false

namespace Stream

/-- The stream ends before it gives another byte. -/
def isClosed (stream : Stream) : Bool := Delivery.endFirst stream.deliveries

/-- Filling a buffer of some size takes nothing exactly where no byte is delivered before the
end. -/
theorem endFirst_iff_fillFrom {missing : Nat} (positive : 0 < missing) (consumed : Nat)
    (deliveries : List Delivery) :
    Delivery.endFirst deliveries = true ↔ ∃ left,
      fillFrom missing [] consumed deliveries = (.ended [], left) ∨
        fillFrom missing [] consumed deliveries = (.waiting [], left) := by
  have some : missing ≠ 0 := Nat.pos_iff_ne_zero.mp positive
  induction deliveries generalizing consumed with
  | nil => simp [Delivery.endFirst, fillFrom, some]
  | cons delivery deliveries ih =>
    cases delivery with
    | nothing => simp [Delivery.endFirst, fillFrom, some]
    | interruption => simpa only [Delivery.endFirst, fillFrom, if_neg some] using ih consumed
    | failure reason => simp [Delivery.endFirst, fillFrom, some]
    | chunk bytes =>
      cases split : Bytes.split? missing bytes with
      | some parts =>
        obtain ⟨taken, left⟩ := parts
        obtain ⟨rfl, length⟩ := Bytes.split?_eq_some_iff.mp split
        have filled : (taken ++ left).isEmpty = false := by
          cases taken with
          | nil => exact absurd length.symm some
          | cons byte others => rfl
        simp [Delivery.endFirst, fillFrom, some, split, filled]
      | none =>
        simp only [Delivery.endFirst, fillFrom, if_neg some, split]
        cases bytes with
        | nil => simpa using ih consumed
        | cons byte others =>
          -- What has been received stays in front of all that is taken behind it.
          obtain ⟨taken, -, accounts⟩ := fillFrom_accounts (missing - (byte :: others).length)
            ([] ++ byte :: others) (consumed + (byte :: others).length) deliveries
          refine iff_of_false (by simp) ?_
          rintro ⟨left, filled | filled⟩ <;>
            · rw [filled] at accounts
              exact absurd accounts.1 (by simp)

/-- A stream is closed exactly where filling a buffer of some size takes nothing. -/
theorem isClosed_iff_fill {size : Nat} (positive : 0 < size) (stream : Stream) :
    stream.isClosed = true ↔ ∃ left, stream.fill size [] = (.ended [], left) ∨
      stream.fill size [] = (.waiting [], left) :=
  endFirst_iff_fillFrom positive stream.consumed stream.deliveries

end Stream

namespace FrameSettings

variable (settings : FrameSettings)

/-- The next frame of a stream is none where the stream is closed. -/
theorem nextFrame_of_isClosed {stream : Stream} (closed : stream.isClosed = true) :
    (settings.nextFrame stream).1 = .ok none := by
  have positive : 0 < FrameHeader.size := by decide
  obtain ⟨left, filled⟩ := (stream.isClosed_iff_fill positive).mp closed
  simp only [nextFrame, proceed, Stage.start, readHeader]
  obtain filled | filled := filled <;> rw [filled] <;> rfl

/-- The next frame of a stream is none only where the stream is closed. -/
theorem isClosed_of_nextFrame {stream left : Stream}
    (none : settings.nextFrame stream = (.ok none, left)) : stream.isClosed = true := by
  have positive : 0 < FrameHeader.size := by decide
  exact (stream.isClosed_iff_fill positive).mpr ⟨left, settings.fill_of_closed none⟩

end FrameSettings

/-- One message, the next message and headers with the message behind them, read from the same
stream, agree. -/
structure WaysAgree {ε : Type} (stream : Stream) (short : ε) (one : Except ε Message × Stream)
    (next : Except ε (Option Message) × Stream) (opened : Except ε (Headers × Bytes) × Stream)
    (parse : Headers → Bytes → Except ε Message) : Prop where
  /-- All of them leave the stream at the same place. -/
  left : next.2 = one.2 ∧ opened.2 = one.2
  /-- The message behind the headers, or the failure of either phase, is that of the one message. -/
  phases : (opened.1 >>= fun (headers, bytes) => parse headers bytes) = one.1
  /-- While the stream is not closed, the next message is the one message, and fails as it does. -/
  going : stream.isClosed = false → next.1 = one.1.map some
  /-- Where it is closed no byte is taken, and only the next message is no failure. -/
  closed : stream.isClosed = true → stream.LeftAfter [] one.2 ∧ next.1 = .ok none ∧
    one.1 = .error short ∧ opened.1 = .error short

/-- Ways that agree in plain reading agree by position, where no place outside is named. -/
theorem WaysAgree.within {stream : Stream} {short : Failure} {one : Except Failure Message × Stream}
    {next : Except Failure (Option Message) × Stream}
    {opened : Except Failure (Headers × Bytes) × Stream}
    {parse : Headers → Bytes → Except Failure Message}
    (agree : WaysAgree stream short one next opened parse) :
    WaysAgree stream (Halt.refused short) (Drawn.within one) (Drawn.within next)
      (Drawn.within opened) fun headers bytes => Access.within (parse headers bytes) where
  left := agree.left
  phases := by
    have phases := congrArg Access.within agree.phases
    rw [Access.within_bind] at phases
    exact phases
  going going := by
    have next := congrArg Access.within (agree.going going)
    rw [Access.within_map] at next
    exact next
  closed closed := by
    obtain ⟨after, next, one, opened⟩ := agree.closed closed
    exact ⟨after, congrArg Access.within next, congrArg Access.within one,
      congrArg Access.within opened⟩

namespace MessageSettings

variable (settings : MessageSettings)

/-- The ways of reading a message agree on every stream. -/
theorem waysAgree (stream : Stream) :
    WaysAgree stream (.incompleteRead FrameHeader.size 0) (settings.readMessage stream)
      (settings.nextMessage stream) (settings.readHeaders stream) settings.parse := by
  cases found : settings.nextFrame stream with
  | mk result left =>
    have whole : settings.readFrame stream = (FrameSettings.required result, left) := by
      rw [FrameSettings.readFrame, found]
    have one : settings.readMessage stream =
        ((FrameSettings.required result).bind (Message.ofFrame settings.unknown), left) := by
      rw [readMessage, whole]
    have opened : settings.readHeaders stream =
        ((FrameSettings.required result).bind Message.readHeaders, left) := by
      rw [readHeaders, whole]
    have next : settings.nextMessage stream = (settings.ofFrameResult result, left) := by
      rw [nextMessage, found]
    rw [one, opened, next]
    refine ⟨⟨rfl, rfl⟩, ?_, fun going => ?_, fun closed => ?_⟩
    · cases FrameSettings.required result with
      | error failure => rfl
      | ok frame => rfl
    · obtain failure | _ | frame := result
      · rfl
      · have closed := settings.isClosed_of_nextFrame found
        rw [closed] at going
        contradiction
      · rfl
    · have empty := settings.nextFrame_of_isClosed closed
      rw [found] at empty
      obtain rfl : result = .ok none := empty
      exact ⟨settings.nextFrame_closed found, rfl, rfl, rfl⟩

end MessageSettings

/-- Behind the headers of a frame any bytes are read as they are behind the bytes of those headers
in a frame of the same header. -/
theorem Message.read_eq_ofFrame {unknown : UnknownTemplates} {frame : Frame} {headers : Headers}
    {bytes : Bytes} (opened : Headers.read frame = .ok (headers, bytes)) (others : Bytes) :
    read unknown headers others =
      ofFrame unknown ⟨frame.header, frame.body.take headers.bodyOffset ++ others⟩ := by
  have header : frame.header = headers.frame := by rw [Headers.read_eq_ok_iff.mp opened]
  rw [← Headers.eq_take_of_read opened, header]
  exact (ofFrame_of_opened (headers.read_write others)).symm

/-- What the ways of reading messages have in common, for settings of a reader. -/
structure ReadAlike (settings : MessageSettings) : Prop where
  /-- In plain reading they agree on every stream. -/
  plainly : ∀ stream, WaysAgree stream (.incompleteRead FrameHeader.size 0)
    (settings.readMessage stream) (settings.nextMessage stream) (settings.readHeaders stream)
    settings.parse
  /-- By position they agree on every stream, each with a reading of the frame header and a slice of
  its own. -/
  byPosition : ∀ stream, WaysAgree stream (.refused (.incompleteRead FrameHeader.size 0))
    (settings.fetchMessage stream) (settings.fetchNextMessage stream)
    (settings.fetchHeaders stream) settings.fetchParse
  /-- The headers of one frame read the bytes behind those of another as a frame does that is made
  of the two. -/
  recombined : ∀ first second headers others bytes behind,
    Headers.read first = .ok (headers, bytes) → Headers.read second = .ok (others, behind) →
      settings.parse headers (second.body.drop others.bodyOffset) =
        Message.ofFrame settings.unknown ⟨first.header,
          first.body.take headers.bodyOffset ++ second.body.drop others.bodyOffset⟩
  /-- So they do by position. -/
  recombinedByPosition : ∀ first second headers others,
    Headers.fetch first = .ok headers → Headers.fetch second = .ok others →
      (second.body.sliceFrom others.bodyOffset >>= settings.fetchParse headers) =
        Message.fetch settings.unknown ⟨first.header,
          first.body.take headers.bodyOffset ++ second.body.drop others.bodyOffset⟩

/-- The ways of reading messages agree on every stream, and headers read any bytes as if they stood
behind them. -/
theorem MessageSettings.readAlike (settings : MessageSettings) : ReadAlike settings where
  plainly := settings.waysAgree
  byPosition stream := by
    have agree := (settings.waysAgree stream).within
    have parse : (fun headers bytes => Access.within (settings.parse headers bytes)) =
        settings.fetchParse := by
      funext headers bytes
      exact (Message.fetchBehind_eq settings.unknown headers bytes).symm
    rw [← settings.fetchMessage_eq, ← settings.fetchNextMessage_eq, ← settings.fetchHeaders_eq,
      parse] at agree
    exact agree
  recombined first second headers others bytes behind opened _ :=
    Message.read_eq_ofFrame opened (second.body.drop others.bodyOffset)
  recombinedByPosition first second headers others opened openedToo := by
    obtain ⟨bytes, opened⟩ := Headers.read_of_fetch opened
    obtain ⟨behind, openedToo⟩ := Headers.read_of_fetch openedToo
    rw [Headers.sliceFrom_of_read openedToo, ok_bind, Headers.eq_drop_of_read openedToo, fetchParse,
      Message.fetchBehind_eq, Message.read_eq_ofFrame opened, Message.fetch_eq]

/-- A frame that arrives in two parts is read as one message in every way. -/
example :
    let frame : Bytes :=
      [13, 0, 0, 0, 0, 0, 0, 0, 0, 0, 0, 0, 1, 0, 11, 0, 0, 0, 0, 0, 0, 0, 1, 0, 192]
    let stream := Stream.ofDeliveries [.chunk (frame.take 15), .interruption,
      .chunk (frame.drop 15)]
    let settings : MessageSettings := {}
    let answer : Message := ⟨⟨⟨13, 0, 0, 0, 0⟩, .singleMessage, ⟨11, 0, 0, 0⟩⟩,
      .controlMessageResponse ⟨[192]⟩, some .nil⟩
    (settings.readMessage stream).1 = .ok answer ∧
      (settings.nextMessage stream).1 = .ok (some answer) ∧
      (settings.readHeaders stream).1 = .ok (answer.headers, [1, 0, 192]) ∧
      settings.parse answer.headers [1, 0, 192] = .ok answer ∧
      (settings.fetchMessage stream).1 = .ok answer :=
  ⟨rfl, rfl, rfl, rfl, rfl⟩

end BrokerWire

import BrokerWire.Proofs.Stream.Fragmentation
import BrokerWire.Stream.MessageReader

/-!
# Requests to a reader of messages

Whoever reads messages off a stream makes one request after the other: for a message, for the next
message if there is one, for headers alone, or for the message behind headers read before. A
failure ends no session. How the stream is cut into deliveries shows neither in the answers nor in
how far each of them has come.
-/
namespace BrokerWire

/-- What can be asked of a reader of messages. -/
inductive Request where
  /-- Exactly one message. -/
  | message
  /-- The next message, or nothing where the stream is closed. -/
  | next
  /-- The headers of one message and the bytes behind them, which are kept as a pair. -/
  | headers
  /-- The message behind the headers of one kept pair, read from the bytes of another. -/
  | parse (headers bytes : Nat)
  deriving DecidableEq, Repr

/-- What a reader of messages answers. -/
inductive Answer where
  /-- A message, or why there is none. -/
  | message (outcome : Except Failure Message)
  /-- The next message, nothing where the stream is closed, or why there is none. -/
  | next (outcome : Except Failure (Option Message))
  /-- Headers and the bytes behind them, or why there are none. -/
  | headers (outcome : Except Failure (Headers × Bytes))
  /-- No such pair has been kept. -/
  | unkept

/-- A stream that ends behind its deliveries, and the pairs kept of it so far. -/
structure Reader where
  /-- The stream as the requests so far have left it. -/
  stream : Stream
  /-- The headers and bytes that have been asked for, oldest first. -/
  kept : List (Headers × Bytes)

namespace Reader

/-- A reader that has not been asked for anything. -/
def ofDeliveries (deliveries : List Delivery) : Reader := ⟨Stream.ofDeliveries deliveries, []⟩

variable (settings : MessageSettings)

/-- The answer to a request, and the reader after it. -/
def answer (reader : Reader) : Request → Answer × Reader
  | .message =>
    let (outcome, stream) := settings.readMessage reader.stream
    (.message outcome, { reader with stream })
  | .next =>
    let (outcome, stream) := settings.nextMessage reader.stream
    (.next outcome, { reader with stream })
  | .headers =>
    let (outcome, stream) := settings.readHeaders reader.stream
    (.headers outcome, ⟨stream, reader.kept ++ outcome.toOption.toList⟩)
  | .parse headers bytes =>
    match reader.kept[headers]?, reader.kept[bytes]? with
    | some (headers, _), some (_, bytes) => (.message (settings.parse headers bytes), reader)
    | _, _ => (.unkept, reader)

/-- The answers to requests one after the other, each with the bytes taken by then, and the reader
after them. -/
def run : Reader → List Request → List (Answer × Nat) × Reader
  | reader, [] => ([], reader)
  | reader, request :: requests =>
    let (answer, next) := reader.answer settings request
    let (answers, last) := run next requests
    ((answer, next.stream.consumed) :: answers, last)

/-- Two readers that cannot be told apart by requests. -/
structure Alike (first second : Reader) : Prop where
  /-- Their streams cannot be told apart. -/
  stream : first.stream.Alike second.stream
  /-- They have kept the same pairs. -/
  kept : first.kept = second.kept

variable {first second : Reader}

/-- A request gets the same answer of readers that cannot be told apart, and leaves them so. -/
theorem Alike.answer (alike : first.Alike second) (request : Request) :
    (first.answer settings request).1 = (second.answer settings request).1 ∧
      (first.answer settings request).2.Alike (second.answer settings request).2 := by
  have frame := settings.readFrame_alike alike.stream
  cases request with
  | message =>
    have same := frame.map (·.bind (Message.ofFrame settings.unknown))
    exact ⟨congrArg Answer.message same.result, same.left, alike.kept⟩
  | next =>
    have same := (settings.nextFrame_alike alike.stream).map settings.ofFrameResult
    exact ⟨congrArg Answer.next same.result, same.left, alike.kept⟩
  | headers =>
    have same := frame.map (·.bind Message.readHeaders)
    have pairs : first.kept ++ (settings.readHeaders first.stream).1.toOption.toList =
        second.kept ++ (settings.readHeaders second.stream).1.toOption.toList := by
      rw [alike.kept]
      exact congrArg (second.kept ++ ·.toOption.toList) same.result
    exact ⟨congrArg Answer.headers same.result, same.left, pairs⟩
  | parse headers bytes =>
    have kept := alike.kept
    simp only [Reader.answer, kept]
    split
    · exact ⟨rfl, alike⟩
    · exact ⟨rfl, alike⟩

/-- Requests get the same answers of readers that cannot be told apart, with as many bytes taken
at each, and leave them so. -/
theorem Alike.run (alike : first.Alike second) (requests : List Request) :
    (first.run settings requests).1 = (second.run settings requests).1 ∧
      (first.run settings requests).2.Alike (second.run settings requests).2 := by
  induction requests generalizing first second with
  | nil => exact ⟨rfl, alike⟩
  | cons request requests ih =>
    obtain ⟨same, next⟩ := alike.answer settings request
    obtain ⟨others, last⟩ := ih next
    have taken := next.stream.consumed
    refine ⟨?_, last⟩
    simp only [Reader.run, same, taken, others]

/-- Interruptions and the cutting into chunks do not show: two streams whose deliveries are the
same when merged give the same answers to any requests, with as many bytes taken at each of them,
and the same bytes are left in the end. -/
theorem run_eq_of_merge_eq (settings : MessageSettings) {first second : List Delivery}
    (same : Delivery.merge first = Delivery.merge second) (requests : List Request) :
    ((ofDeliveries first).run settings requests).1 =
        ((ofDeliveries second).run settings requests).1 ∧
      ((ofDeliveries first).run settings requests).2.stream.remaining =
        ((ofDeliveries second).run settings requests).2.stream.remaining := by
  have alike : (ofDeliveries first).Alike (ofDeliveries second) :=
    ⟨Stream.alike_of_merge_eq same, rfl⟩
  obtain ⟨answers, last⟩ := alike.run settings requests
  exact ⟨answers, last.stream.remaining⟩

/-- Two frames, of which the first is followed by the beginning of a header and a read that returns
nothing, and the second by a failing read, arrive cut in two ways. After a message and a header
that is cut short, headers are kept and their message is read, and then the stream fails. -/
theorem run_eq_cut_in_header_and_body :
    let frame : Bytes :=
      [13, 0, 0, 0, 0, 0, 0, 0, 0, 0, 0, 0, 1, 0, 11, 0, 0, 0, 0, 0, 0, 0, 1, 0, 192]
    let first : List Delivery := [.chunk (frame.take 7), .interruption,
      .chunk (frame.drop 7 ++ frame.take 3), .nothing, .chunk frame, .failure "reset"]
    let second : List Delivery := [.interruption, .chunk frame, .chunk (frame.take 3), .nothing,
      .chunk (frame.take 20), .interruption, .chunk (frame.drop 20), .failure "reset"]
    let requests : List Request := [.next, .message, .headers, .parse 0 0, .next]
    Delivery.merge first = Delivery.merge second ∧
      ((ofDeliveries second).run {} requests).1.map Prod.snd = [25, 28, 53, 53, 53] ∧
      ((ofDeliveries second).run {} requests).2.kept.length = 1 ∧
      ((ofDeliveries first).run {} requests).1 = ((ofDeliveries second).run {} requests).1 ∧
      ((ofDeliveries first).run {} requests).2.stream.remaining =
        ((ofDeliveries second).run {} requests).2.stream.remaining :=
  ⟨by decide, by decide, by decide, run_eq_of_merge_eq {} (by decide) _⟩

end Reader

end BrokerWire

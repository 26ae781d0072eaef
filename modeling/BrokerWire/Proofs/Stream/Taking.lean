import BrokerWire.Proofs.Access.Stream
import BrokerWire.Proofs.Stream.Admission
import BrokerWire.Proofs.Stream.Isolation

/-!
# What one frame takes of a stream

The bytes of a stream flow until a read returns nothing or fails, or until there is nothing more to
read. A buffer is filled exactly when as many bytes flow as it is to hold. Otherwise all of them
are taken, and the read behind them decides what the attempt comes to. A frame is read by three such
attempts, so the number of bytes that flow and the length announced in front of them settle what is
read, how many bytes are taken, and which failure there is.
-/
namespace BrokerWire

namespace Delivery

/-- The bytes that are delivered before a read returns nothing or fails. -/
def flow : List Delivery → Bytes
  | .chunk bytes :: deliveries => bytes ++ flow deliveries
  | .interruption :: deliveries => flow deliveries
  | .nothing :: _ | .failure _ :: _ | [] => []

/-- Why the read behind these bytes fails. It has no reason where it returns nothing, and there is
none at the end of the deliveries. -/
def fault? : List Delivery → Option String
  | .chunk _ :: deliveries | .interruption :: deliveries => fault? deliveries
  | .failure reason :: _ => some reason
  | .nothing :: _ | [] => none

/-- The deliveries behind that read. -/
def beyond : List Delivery → List Delivery
  | .chunk _ :: deliveries | .interruption :: deliveries => beyond deliveries
  | .failure _ :: deliveries | .nothing :: deliveries => deliveries
  | [] => []

end Delivery

namespace Stream

/-- The bytes that flow before a read returns nothing or fails. -/
def flow (stream : Stream) : Bytes := Delivery.flow stream.deliveries

/-- Why the read behind these bytes fails, if it does. -/
def fault? (stream : Stream) : Option String := Delivery.fault? stream.deliveries

/-- What is left of a stream when all bytes that flow have been taken, and the read behind them. -/
def spent (stream : Stream) : Stream :=
  ⟨Delivery.beyond stream.deliveries, stream.consumed + stream.flow.length⟩

/-- The failure of a part that is cut short by the read behind the bytes that flow. -/
def cut (stream : Stream) (expected received : Nat) : Failure :=
  match stream.fault? with
  | some reason => .stream reason
  | none => .incompleteRead expected received

/-- Exactly so many of the bytes that flow have been taken, and nothing else. -/
structure Advanced (stream : Stream) (count : Nat) (left : Stream) : Prop where
  /-- They have been counted. -/
  consumed : left.consumed = stream.consumed + count
  /-- The others still flow. -/
  flow : left.flow = stream.flow.drop count
  /-- The read behind them is the same. -/
  fault : left.fault? = stream.fault?
  /-- So is what comes behind that read. -/
  beyond : Delivery.beyond left.deliveries = Delivery.beyond stream.deliveries

variable {stream middle left : Stream} {count more : Nat}

/-- Bytes taken one after the other have all been taken. -/
theorem Advanced.trans (first : stream.Advanced count middle) (next : middle.Advanced more left) :
    stream.Advanced (count + more) left where
  consumed := by rw [next.consumed, first.consumed, Nat.add_assoc]
  flow := by rw [next.flow, first.flow, List.drop_drop]
  fault := next.fault.trans first.fault
  beyond := next.beyond.trans first.beyond

/-- Where the bytes that are left run out, all of them have been taken. -/
theorem Advanced.spent (first : stream.Advanced count left) (enough : count ≤ stream.flow.length) :
    left.spent = stream.spent := by
  have length : left.consumed + left.flow.length = stream.consumed + stream.flow.length := by
    rw [first.consumed, first.flow, List.length_drop]
    omega
  rw [Stream.spent, Stream.spent, length, first.beyond]

/-- What cuts the bytes that are left short is what cuts all of them short. -/
theorem Advanced.cut (first : stream.Advanced count left) : left.cut = stream.cut := by
  funext expected received
  rw [Stream.cut, Stream.cut, first.fault]

end Stream

/-- An attempt to fill a buffer has stopped short of it with these bytes, for that reason. -/
def Fill.StopsAt (fault : Option String) (got : Bytes) : Fill → Prop
  | .full _ => False
  | .ended received | .waiting received => fault = none ∧ received = got
  | .failed reason => fault = some reason

namespace Stream

/-- Where enough bytes flow, exactly the missing ones are taken. -/
theorem fillFrom_of_enough {missing : Nat} (received : Bytes) (consumed : Nat)
    {deliveries : List Delivery} (enough : missing ≤ (Delivery.flow deliveries).length) :
    ∃ left, fillFrom missing received consumed deliveries =
        (.full (received ++ (Delivery.flow deliveries).take missing), left) ∧
      (⟨deliveries, consumed⟩ : Stream).Advanced missing left := by
  induction deliveries generalizing missing received consumed with
  | nil =>
    obtain rfl : missing = 0 := Nat.le_zero.mp enough
    exact ⟨⟨[], consumed⟩, by simp [fillFrom, Delivery.flow], rfl, rfl, rfl, rfl⟩
  | cons delivery deliveries ih =>
    by_cases none : missing = 0
    · subst none
      refine ⟨⟨delivery :: deliveries, consumed⟩, by simp [fillFrom], rfl, ?_, rfl, rfl⟩
      exact List.drop_zero.symm
    cases delivery with
    | chunk bytes =>
      simp only [Delivery.flow, List.length_append] at enough
      cases split : Bytes.split? missing bytes with
      | some parts =>
        obtain ⟨taken, rest⟩ := parts
        obtain ⟨rfl, rfl⟩ := Bytes.split?_eq_some_iff.mp split
        refine ⟨⟨.chunk rest :: deliveries, consumed + taken.length⟩, ?_, rfl, ?_, rfl, rfl⟩
        · simp [fillFrom, none, split, Delivery.flow]
        · simp [flow, Delivery.flow]
      | none =>
        have short := Bytes.split?_eq_none_iff.mp split
        obtain ⟨left, filled, advanced⟩ := ih (received ++ bytes) (consumed + bytes.length)
          (show missing - bytes.length ≤ (Delivery.flow deliveries).length by omega)
        have inside := Nat.le_of_lt short
        refine ⟨left, ?_, ?_, ?_, advanced.fault, advanced.beyond⟩
        · have taken : (Delivery.flow (.chunk bytes :: deliveries)).take missing =
              bytes ++ (Delivery.flow deliveries).take (missing - bytes.length) := by
            rw [Delivery.flow, List.take_append, List.take_of_length_le inside]
          simp only [fillFrom, none, ↓reduceIte, split, filled, taken, List.append_assoc]
        · have counted := advanced.consumed
          simp only at counted ⊢
          omega
        · have rest : (Delivery.flow (.chunk bytes :: deliveries)).drop missing =
              (Delivery.flow deliveries).drop (missing - bytes.length) := by
            rw [Delivery.flow, List.drop_append, List.drop_of_length_le inside, List.nil_append]
          exact advanced.flow.trans rest.symm
    | interruption =>
      obtain ⟨left, filled, advanced⟩ := ih received consumed enough
      refine ⟨left, ?_, advanced.consumed, advanced.flow, advanced.fault, advanced.beyond⟩
      simp only [fillFrom, none, ↓reduceIte, filled, Delivery.flow]
    | nothing | failure _ =>
      exact absurd (Nat.le_zero.mp enough) none

/-- Where too few bytes flow, all of them are taken, and the read behind them stops the attempt. -/
theorem fillFrom_of_short {missing : Nat} (received : Bytes) (consumed : Nat)
    {deliveries : List Delivery} (short : (Delivery.flow deliveries).length < missing) :
    ∃ outcome, fillFrom missing received consumed deliveries =
        (outcome, (⟨deliveries, consumed⟩ : Stream).spent) ∧
      outcome.StopsAt (Delivery.fault? deliveries) (received ++ Delivery.flow deliveries) := by
  induction deliveries generalizing missing received consumed with
  | nil =>
    have some : missing ≠ 0 := Nat.ne_of_gt short
    refine ⟨.waiting received, ?_, rfl, (List.append_nil received).symm⟩
    simp only [fillFrom, some, ↓reduceIte]
    rfl
  | cons delivery deliveries ih =>
    have some : missing ≠ 0 := by omega
    cases delivery with
    | chunk bytes =>
      simp only [Delivery.flow, List.length_append] at short
      have lacking : Bytes.split? missing bytes = none :=
        Bytes.split?_eq_none_iff.mpr (by omega)
      obtain ⟨outcome, filled, stops⟩ := ih (received ++ bytes) (consumed + bytes.length)
        (show (Delivery.flow deliveries).length < missing - bytes.length by omega)
      refine ⟨outcome, ?_, ?_⟩
      · simp only [fillFrom, some, ↓reduceIte, lacking, filled, spent, flow, Delivery.flow,
          Delivery.beyond, List.length_append, Nat.add_assoc]
      · rw [List.append_assoc] at stops
        exact stops
    | interruption =>
      obtain ⟨outcome, filled, stops⟩ := ih received consumed short
      refine ⟨outcome, ?_, stops⟩
      simp only [fillFrom, some, ↓reduceIte, filled]
      rfl
    | nothing =>
      refine ⟨.ended received, ?_, rfl, (List.append_nil received).symm⟩
      simp only [fillFrom, some, ↓reduceIte]
      rfl
    | failure reason =>
      refine ⟨.failed reason, ?_, rfl⟩
      simp only [fillFrom, some, ↓reduceIte]
      rfl

variable {stream : Stream} {size : Nat}

/-- A buffer is filled where enough bytes flow, with exactly as many of them. -/
theorem fill_of_enough (enough : size ≤ stream.flow.length) :
    ∃ left, stream.fill size [] = (.full (stream.flow.take size), left) ∧
      stream.Advanced size left :=
  fillFrom_of_enough [] stream.consumed enough

/-- A buffer is not filled where too few bytes flow, and all of them are taken. -/
theorem fill_of_short (short : stream.flow.length < size) :
    ∃ outcome, stream.fill size [] = (outcome, stream.spent) ∧
      outcome.StopsAt stream.fault? stream.flow :=
  fillFrom_of_short [] stream.consumed short

end Stream

namespace FrameSettings

variable (settings : FrameSettings) {stream : Stream}

/-- Padding is skipped where enough bytes flow. -/
theorem readPadding_of_enough {frame : Frame}
    (enough : settings.padding frame.wireLength ≤ stream.flow.length) :
    ∃ left, settings.settled (settings.readPadding frame [] stream) = (.ok (some frame), left) ∧
      stream.Advanced (settings.padding frame.wireLength) left := by
  obtain ⟨left, filled, advanced⟩ := Stream.fill_of_enough enough
  refine ⟨left, ?_, advanced⟩
  rw [readPadding, filled]
  rfl

/-- Where too few bytes flow for the padding, it is cut short. -/
theorem readPadding_of_short {frame : Frame}
    (short : stream.flow.length < settings.padding frame.wireLength) :
    settings.settled (settings.readPadding frame [] stream) =
      (.error (stream.cut (settings.padding frame.wireLength) stream.flow.length),
        stream.spent) := by
  obtain ⟨outcome, filled, stops⟩ := Stream.fill_of_short short
  rw [readPadding, filled, Stream.cut]
  cases outcome with
  | full bytes => contradiction
  | ended received | waiting received =>
    obtain ⟨none, rfl⟩ := stops
    rw [none]
    rfl
  | failed reason =>
    have some : stream.fault? = .some reason := stops
    rw [some]
    rfl

/-- A body is read where enough bytes flow, and then its padding. -/
theorem readBody_of_enough (header : FrameHeader)
    (enough : header.length.toNat ≤ stream.flow.length) :
    ∃ left, settings.readBody header [] stream =
        settings.readPadding ⟨header, stream.flow.take header.length.toNat⟩ [] left ∧
      stream.Advanced header.length.toNat left := by
  obtain ⟨left, filled, advanced⟩ := Stream.fill_of_enough enough
  refine ⟨left, ?_, advanced⟩
  rw [readBody, filled]

/-- Where too few bytes flow for the body, it is cut short. -/
theorem readBody_of_short {header : FrameHeader}
    (short : stream.flow.length < header.length.toNat) :
    settings.settled (settings.readBody header [] stream) =
      (.error (stream.cut header.length.toNat stream.flow.length), stream.spent) := by
  obtain ⟨outcome, filled, stops⟩ := Stream.fill_of_short short
  rw [readBody, filled, Stream.cut]
  cases outcome with
  | full bytes => contradiction
  | ended received | waiting received =>
    obtain ⟨none, rfl⟩ := stops
    rw [none]
    rfl
  | failed reason =>
    have some : stream.fault? = .some reason := stops
    rw [some]
    rfl

/-- Where too few bytes flow for the header, a stream that ends before the first of them is closed,
and any other is cut short. -/
theorem nextFrame_of_short (short : stream.flow.length < FrameHeader.size) :
    settings.nextFrame stream =
      (if stream.flow = [] ∧ stream.fault? = none then .ok none
        else .error (stream.cut FrameHeader.size stream.flow.length), stream.spent) := by
  obtain ⟨outcome, filled, stops⟩ := Stream.fill_of_short short
  rw [nextFrame_eq_settled, readHeader, filled, Stream.cut]
  cases outcome with
  | full bytes => contradiction
  | ended received | waiting received =>
    obtain ⟨none, rfl⟩ := stops
    rw [none]
    cases stream.flow <;> rfl
  | failed reason =>
    have some : stream.fault? = .some reason := stops
    simp only [some, reduceCtorEq, and_false, ↓reduceIte]
    rfl

/-- Where a header flows first, enough bytes flow for one. -/
theorem size_le_flow {header : FrameHeader} {rest : Bytes}
    (opened : stream.flow = header.write ++ rest) : FrameHeader.size ≤ stream.flow.length := by
  rw [opened, List.length_append, header.length_write]
  exact Nat.le_add_right ..

/-- Where enough bytes flow for the header, what comes behind it decides. -/
theorem nextFrame_of_enough {header : FrameHeader} {rest : Bytes}
    (opened : stream.flow = header.write ++ rest) :
    ∃ left, settings.nextFrame stream = settings.settled (settings.readRest header.write left) ∧
      stream.Advanced FrameHeader.size left := by
  have enough := size_le_flow opened
  have raw : stream.flow.take FrameHeader.size = header.write := by
    rw [opened, List.take_left' header.length_write]
  obtain ⟨left, filled, advanced⟩ := Stream.fill_of_enough enough
  refine ⟨left, ?_, advanced⟩
  rw [nextFrame_eq_settled, readHeader, filled, raw]
  rfl

/-- Behind the bytes of a header, its length is accepted or refused before anything is taken. -/
theorem readRest_write (header : FrameHeader) (stream : Stream) :
    settings.readRest header.write stream =
      match header.accept settings.maximum with
      | .error fault => (.done (.error (.length fault)), stream)
      | .ok () => settings.readBody header [] stream := by
  have opened := header.read_write []
  rw [List.append_nil] at opened
  cases accepted : header.accept settings.maximum with
  | error fault => simp only [readRest, opened, accepted]
  | ok _ => simp only [readRest, opened, accepted]

/-- A length below the least one is refused. -/
theorem accept_of_belowMinimum {header : FrameHeader}
    (short : header.length.toNat < FrameHeader.leastLength) :
    header.accept settings.maximum = .error (.belowMinimum header.length) := by
  rw [FrameHeader.accept, if_pos short]

/-- A length above the maximum is refused where it is not below the least one. -/
theorem accept_of_aboveMaximum {header : FrameHeader}
    (least : FrameHeader.leastLength ≤ header.length.toNat)
    (long : settings.maximum < header.length) :
    header.accept settings.maximum = .error (.aboveMaximum header.length settings.maximum) := by
  rw [FrameHeader.accept, if_neg (Nat.not_lt.mpr least), if_pos long]

/-- The padding is no more than what brings a length to a multiple of an alignment above one, and
there is none without such an alignment. -/
structure LeastPadding (length padding : Nat) : Prop where
  /-- Without an alignment above one there is no padding. -/
  direct : (∀ alignment, settings.alignment = some alignment → alignment ≤ 1) → padding = 0
  /-- The padding reaches a multiple of an alignment above one. -/
  fills : ∀ alignment, settings.alignment = some alignment → 1 < alignment →
    alignment ∣ length + padding
  /-- No fewer bytes reach one. -/
  least : ∀ alignment, settings.alignment = some alignment → 1 < alignment →
    ∀ count, alignment ∣ length + count → padding ≤ count

/-- The padding that the reader expects is the least. -/
theorem leastPadding (length : Nat) :
    settings.LeastPadding length (settings.padding length) := by
  have unit : ∀ alignment, settings.alignment = some alignment → 1 < alignment →
      settings.unit = alignment := by
    intro alignment given above
    rw [FrameSettings.unit, given, Option.getD_some]
    exact Nat.max_eq_right (Nat.le_of_lt above)
  refine ⟨fun direct => ?_, fun alignment given above => ?_, fun alignment given above => ?_⟩
  · apply settings.padding_eq_zero
    rw [Option.filter_eq_none_iff]
    intro alignment given
    have small := direct alignment given
    simpa using small
  · rw [← unit alignment given above]
    exact settings.unit_dvd_padded length
  · intro count reached
    rw [← unit alignment given above] at reached
    exact settings.padding_le_of_dvd reached

/-- Reading the next frame and reading exactly one frame give this result, and leave the stream
so. -/
def Gives (stream : Stream) (result : Except Failure Frame) (left : Stream) : Prop :=
  settings.nextFrame stream = (result.map some, left) ∧
    settings.readFrame stream = (result, left)

/-- What the next frame gives, unless the stream is closed, exactly one frame gives as well. -/
theorem gives_of_nextFrame {result : Except Failure Frame} {left : Stream}
    (next : settings.nextFrame stream = (result.map some, left)) :
    settings.Gives stream result left := by
  refine ⟨next, ?_⟩
  rw [readFrame, next]
  cases result <;> rfl

/-- What a frame takes behind its header, and what comes of it. -/
structure TakesBehind (stream : Stream) (header : FrameHeader) : Prop where
  /-- A length below the least one is refused right behind the header. -/
  belowMinimum : header.length.toNat < 10 → ∃ left,
    settings.Gives stream (.error (.length (.belowMinimum header.length))) left ∧
      stream.Advanced 12 left
  /-- So is one above the maximum. -/
  aboveMaximum : 10 ≤ header.length.toNat → settings.maximum < header.length → ∃ left,
    settings.Gives stream (.error (.length (.aboveMaximum header.length settings.maximum))) left ∧
      stream.Advanced 12 left
  /-- Where too few bytes flow for the body of an admitted length, all of them are taken, and it is
  cut short. -/
  body : 10 ≤ header.length.toNat → header.length ≤ settings.maximum →
    stream.flow.length < 12 + header.length.toNat →
      settings.Gives stream
        (.error (stream.cut header.length.toNat (stream.flow.length - 12))) stream.spent
  /-- Where too few bytes flow for the padding behind the body, all of them are taken, and it is
  cut short. -/
  padding : 10 ≤ header.length.toNat → header.length ≤ settings.maximum →
    12 + header.length.toNat ≤ stream.flow.length →
    stream.flow.length <
        12 + header.length.toNat + settings.padding (12 + header.length.toNat) →
      settings.Gives stream
        (.error (stream.cut (settings.padding (12 + header.length.toNat))
          (stream.flow.length - (12 + header.length.toNat)))) stream.spent
  /-- Otherwise the frame is read, and it and its padding are all that is taken. -/
  whole : 10 ≤ header.length.toNat → header.length ≤ settings.maximum →
    12 + header.length.toNat + settings.padding (12 + header.length.toNat) ≤
        stream.flow.length → ∃ left,
      settings.Gives stream
        (.ok ⟨header, (stream.flow.drop 12).take header.length.toNat⟩) left ∧
      stream.Advanced
        (12 + header.length.toNat + settings.padding (12 + header.length.toNat)) left

/-- What one frame takes of a stream, and what comes of it. -/
structure TakesFrame (stream : Stream) : Prop where
  /-- The padding behind a frame is the least. -/
  least : ∀ length, settings.LeastPadding length (settings.padding length)
  /-- A stream that ends before its first byte is closed. There is no next frame, and one that has
  to be there is cut short before its header. -/
  closed : stream.flow = [] → stream.fault? = none →
    settings.nextFrame stream = (.ok none, stream.spent) ∧
      settings.readFrame stream = (.error (.incompleteRead 12 0), stream.spent)
  /-- Where otherwise too few bytes flow for the header, all of them are taken, and it is cut
  short. -/
  header : stream.flow.length < 12 → (stream.flow = [] → stream.fault? ≠ none) →
    settings.Gives stream (.error (stream.cut 12 stream.flow.length)) stream.spent
  /-- Otherwise the first bytes are a header, and its length decides. -/
  behind : 12 ≤ stream.flow.length → ∃ header : FrameHeader,
    header.write = stream.flow.take 12 ∧ settings.TakesBehind stream header

/-- Where the length of a header is admitted, the body decides. -/
theorem nextFrame_of_admitted {header : FrameHeader} {rest : Bytes}
    (opened : stream.flow = header.write ++ rest) (least : 10 ≤ header.length.toNat)
    (most : header.length ≤ settings.maximum) :
    ∃ left, settings.nextFrame stream = settings.settled (settings.readBody header [] left) ∧
      stream.Advanced 12 left := by
  obtain ⟨left, next, advanced⟩ := settings.nextFrame_of_enough opened
  refine ⟨left, ?_, advanced⟩
  rw [next, readRest_write, accept_eq_ok_iff.mpr ⟨least, most⟩]

/-- Where enough bytes flow for the body as well, the padding decides. -/
theorem nextFrame_of_body {header : FrameHeader} {rest : Bytes}
    (opened : stream.flow = header.write ++ rest) (least : 10 ≤ header.length.toNat)
    (most : header.length ≤ settings.maximum)
    (inside : 12 + header.length.toNat ≤ stream.flow.length) :
    ∃ frame left, frame = ⟨header, (stream.flow.drop 12).take header.length.toNat⟩ ∧
      frame.wireLength = 12 + header.length.toNat ∧
      settings.nextFrame stream = settings.settled (settings.readPadding frame [] left) ∧
      stream.Advanced (12 + header.length.toNat) left := by
  obtain ⟨middle, next, advanced⟩ := settings.nextFrame_of_admitted opened least most
  have flow : middle.flow = stream.flow.drop 12 := advanced.flow
  have enough : header.length.toNat ≤ middle.flow.length := by
    rw [flow, List.length_drop]
    omega
  obtain ⟨left, read, further⟩ := settings.readBody_of_enough header enough
  rw [flow] at read enough
  refine ⟨_, left, rfl, ?_, ?_, advanced.trans further⟩
  · rw [Frame.wireLength, List.length_take_of_le enough]
    rfl
  · rw [next, read]

/-- What comes behind a header is settled by its length and by how many bytes flow. -/
theorem takesBehind {header : FrameHeader} {rest : Bytes}
    (opened : stream.flow = header.write ++ rest) : settings.TakesBehind stream header where
  belowMinimum short := by
    obtain ⟨left, next, advanced⟩ := settings.nextFrame_of_enough opened
    rw [readRest_write, settings.accept_of_belowMinimum short] at next
    exact ⟨left, settings.gives_of_nextFrame next, advanced⟩
  aboveMaximum least long := by
    obtain ⟨left, next, advanced⟩ := settings.nextFrame_of_enough opened
    rw [readRest_write, settings.accept_of_aboveMaximum least long] at next
    exact ⟨left, settings.gives_of_nextFrame next, advanced⟩
  body least most short := by
    obtain ⟨left, next, advanced⟩ := settings.nextFrame_of_admitted opened least most
    have headed : 12 ≤ stream.flow.length := size_le_flow opened
    have remaining : left.flow.length = stream.flow.length - 12 := by
      rw [advanced.flow, List.length_drop]
    have few : left.flow.length < header.length.toNat := by omega
    have lacking := settings.readBody_of_short few
    rw [remaining, advanced.spent headed, advanced.cut] at lacking
    exact settings.gives_of_nextFrame (next.trans lacking)
  padding least most inside short := by
    obtain ⟨frame, left, -, wire, next, advanced⟩ :=
      settings.nextFrame_of_body opened least most inside
    have remaining : left.flow.length = stream.flow.length - (12 + header.length.toNat) := by
      rw [advanced.flow, List.length_drop]
    have few : left.flow.length < settings.padding frame.wireLength := by
      rw [wire]
      omega
    have lacking := settings.readPadding_of_short few
    rw [wire, remaining, advanced.spent inside, advanced.cut] at lacking
    exact settings.gives_of_nextFrame (next.trans lacking)
  whole least most enough := by
    have inside : 12 + header.length.toNat ≤ stream.flow.length := by omega
    obtain ⟨frame, middle, same, wire, next, advanced⟩ :=
      settings.nextFrame_of_body opened least most inside
    have many : settings.padding frame.wireLength ≤ middle.flow.length := by
      rw [wire, advanced.flow, List.length_drop]
      omega
    obtain ⟨left, skipped, further⟩ := settings.readPadding_of_enough many
    rw [wire] at further
    rw [same] at next skipped
    exact ⟨left, settings.gives_of_nextFrame (next.trans skipped), advanced.trans further⟩

/-- What the next frame, or exactly one frame, takes of a stream and comes to is settled by the
bytes that flow and the read behind them. -/
theorem takesOneFrame (settings : FrameSettings) (stream : Stream) :
    settings.TakesFrame stream where
  least := settings.leastPadding
  closed empty quiet := by
    have short : stream.flow.length < FrameHeader.size := by
      rw [empty]
      exact Nat.zero_lt_succ _
    have next := settings.nextFrame_of_short short
    rw [if_pos ⟨empty, quiet⟩] at next
    refine ⟨next, ?_⟩
    rw [readFrame, next]
    rfl
  header short going := by
    have next := settings.nextFrame_of_short short
    rw [if_neg fun both => going both.1 both.2] at next
    exact settings.gives_of_nextFrame next
  behind enough := by
    obtain ⟨header, rest, opened⟩ := FrameHeader.fixed.exists_write enough
    refine ⟨header, ?_, settings.takesBehind opened⟩
    rw [opened]
    exact (List.take_left' header.length_write).symm

end FrameSettings

end BrokerWire

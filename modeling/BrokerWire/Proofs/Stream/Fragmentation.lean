import BrokerWire.Proofs.Stream.Resumption

/-!
# Streams cut into deliveries

The same stream can be delivered in many ways: a chunk may come in several, and reads may be
interrupted between them. What a reader can notice is the sequence of signals, the single bytes
and the reads that return nothing or fail. Filling a buffer is a function of the signals, so two
streams with the same signals give a reader the same results and leave it the same signals again,
wherever it stops.
-/
namespace BrokerWire

/-- What a reader of single bytes notices of a stream. -/
inductive Signal where
  /-- A byte. -/
  | byte (value : UInt8)
  /-- A read that returns nothing. -/
  | nothing
  /-- A read that fails. -/
  | failure (reason : String)

/-- The byte of a signal, if it is one. -/
def Signal.byte? : Signal → Option UInt8
  | byte value => some value
  | nothing | failure _ => none

namespace Delivery

/-- The signals of a delivery. An interruption is none. -/
def signals : Delivery → List Signal
  | chunk bytes => bytes.map .byte
  | nothing => [.nothing]
  | interruption => []
  | failure reason => [.failure reason]

/-- A delivery in front of others, put together with the first of them if both are chunks. -/
def mergeOnto : Delivery → List Delivery → List Delivery
  | chunk bytes, chunk more :: deliveries => chunk (bytes ++ more) :: deliveries
  | delivery, deliveries => delivery :: deliveries

/-- Deliveries without interruptions, adjacent chunks put together. -/
def merge (deliveries : List Delivery) : List Delivery :=
  (deliveries.filter (· ≠ interruption)).foldr mergeOnto []

/-- Putting a delivery together with the next one keeps their signals. -/
theorem signals_mergeOnto (delivery : Delivery) (deliveries : List Delivery) :
    (mergeOnto delivery deliveries).flatMap signals =
      delivery.signals ++ deliveries.flatMap signals := by
  fun_cases mergeOnto with
  | case1 bytes more deliveries =>
    simp only [List.flatMap_cons, signals, List.map_append, List.append_assoc]
  | case2 => exact List.flatMap_cons

/-- The delivery neither ends nor fails a read that waits for bytes. -/
def passes : Delivery → Bool
  | chunk _ | interruption => true
  | nothing | failure _ => false

/-- The signals of a delivery that neither ends nor fails a read are its bytes. -/
theorem signals_of_passes {delivery : Delivery} (passes : delivery.passes = true) :
    delivery.signals = delivery.bytes.map .byte := by
  cases delivery with
  | chunk _ | interruption => rfl
  | nothing | failure _ => contradiction

/-- Deliveries that are merged have the signals that they had. -/
theorem signals_merge (deliveries : List Delivery) :
    (merge deliveries).flatMap signals = deliveries.flatMap signals := by
  induction deliveries with
  | nil => rfl
  | cons delivery deliveries ih =>
    by_cases interrupted : delivery = interruption
    · subst interrupted
      exact ih
    · have kept : merge (delivery :: deliveries) = mergeOnto delivery (merge deliveries) := by
        simp [merge, interrupted]
      rw [kept, signals_mergeOnto, ih, List.flatMap_cons]

/-- The bytes of a delivery are those among its signals. -/
theorem filterMap_signals (delivery : Delivery) :
    delivery.signals.filterMap Signal.byte? = delivery.bytes := by
  cases delivery with
  | chunk bytes =>
    have each : Signal.byte? ∘ Signal.byte = some := rfl
    simp only [signals, Delivery.bytes, List.filterMap_map, each, List.filterMap_some]
  | nothing | interruption | failure _ => rfl

end Delivery

/-- Fill a buffer by single signals, up to that many missing bytes behind those received. -/
def Signal.fill : Nat → Bytes → List Signal → Fill × List Signal
  | 0, received, signals => (.full received, signals)
  | _ + 1, received, [] => (.waiting received, [])
  | missing + 1, received, .byte value :: signals => fill missing (received ++ [value]) signals
  | _ + 1, received, .nothing :: signals => (.ended received, signals)
  | _ + 1, _, .failure reason :: signals => (.failed reason, signals)

/-- Bytes that are all missing are all received. -/
theorem Signal.fill_bytes (bytes : Bytes) (missing : Nat) (received : Bytes)
    (signals : List Signal) :
    fill (bytes.length + missing) received (bytes.map .byte ++ signals) =
      fill missing (received ++ bytes) signals := by
  induction bytes generalizing received with
  | nil => simp
  | cons value bytes ih =>
    have one : (value :: bytes).length + missing = bytes.length + missing + 1 := by
      simp only [List.length_cons]
      omega
    rw [one, List.map_cons, List.cons_append, fill, ih, List.append_assoc, List.singleton_append]

namespace Stream

/-- The signals of a stream. -/
def signals (stream : Stream) : List Signal := stream.deliveries.flatMap Delivery.signals

/-- The bytes of a stream are those among its signals. -/
theorem filterMap_signals (stream : Stream) :
    stream.signals.filterMap Signal.byte? = stream.remaining := by
  simp only [signals, remaining, List.filterMap_flatMap, Delivery.filterMap_signals]

/-- Filling a buffer from deliveries does what filling it from their signals does. -/
theorem fillFrom_signals (missing : Nat) (received : Bytes) (consumed : Nat)
    (deliveries : List Delivery) :
    ((fillFrom missing received consumed deliveries).1,
        (fillFrom missing received consumed deliveries).2.signals) =
      Signal.fill missing received (deliveries.flatMap Delivery.signals) := by
  induction deliveries generalizing missing received consumed with
  | nil => cases missing <;> rfl
  | cons delivery deliveries ih =>
    cases missing with
    | zero => rfl
    | succ missing =>
      have some : missing + 1 ≠ 0 := Nat.succ_ne_zero missing
      rw [List.flatMap_cons]
      cases delivery with
      | chunk bytes =>
        cases split : Bytes.split? (missing + 1) bytes with
        | some parts =>
          obtain ⟨taken, left⟩ := parts
          obtain ⟨rfl, whole⟩ := Bytes.split?_eq_some_iff.mp split
          have full := Signal.fill_bytes taken 0 received
            (left.map .byte ++ deliveries.flatMap Delivery.signals)
          rw [Nat.add_zero, whole] at full
          simp only [fillFrom, some, ↓reduceIte, split, Delivery.signals, List.map_append,
            List.append_assoc, full]
          rfl
        | none =>
          have short := Bytes.split?_eq_none_iff.mp split
          have rest := Signal.fill_bytes bytes (missing + 1 - bytes.length) received
            (deliveries.flatMap Delivery.signals)
          rw [Nat.add_sub_of_le (Nat.le_of_lt short)] at rest
          simp only [fillFrom, some, ↓reduceIte, split, Delivery.signals, rest]
          exact ih _ _ _
      | interruption =>
        simp only [fillFrom, some, ↓reduceIte]
        exact ih _ _ _
      | nothing | failure _ => simp [fillFrom, Signal.fill, Delivery.signals, Stream.signals]

/-- Two streams that a reader cannot tell apart: the same signals, and as many bytes taken. -/
structure Alike (first second : Stream) : Prop where
  /-- The signals are the same. -/
  signals : first.signals = second.signals
  /-- As many bytes have been taken. -/
  consumed : first.consumed = second.consumed

/-- What cannot be told apart from the same stream cannot be told apart. -/
theorem Alike.trans {first second third : Stream} (alike : first.Alike second)
    (further : second.Alike third) : first.Alike third :=
  ⟨alike.signals.trans further.signals, alike.consumed.trans further.consumed⟩

/-- Streams that a reader cannot tell apart bring the same bytes. -/
theorem Alike.remaining {first second : Stream} (alike : first.Alike second) :
    first.remaining = second.remaining := by
  rw [← filterMap_signals, ← filterMap_signals, alike.signals]

/-- A stream that neither ends nor fails a read cannot be told apart from its bytes in one chunk. -/
theorem alike_chunk {deliveries : List Delivery}
    (passing : ∀ delivery ∈ deliveries, delivery.passes = true) :
    (ofDeliveries deliveries).Alike
      (ofDeliveries [.chunk (ofDeliveries deliveries).remaining]) := by
  refine ⟨?_, rfl⟩
  have each : deliveries.flatMap Delivery.signals =
      deliveries.flatMap fun delivery => delivery.bytes.map .byte := by
    rw [List.flatMap_def, List.flatMap_def, List.map_congr_left fun delivery among =>
      Delivery.signals_of_passes (passing delivery among)]
  simp only [signals, ofDeliveries, remaining, each, List.flatMap_singleton, Delivery.signals,
    List.map_flatMap]

/-- Streams of deliveries that are the same when merged cannot be told apart. -/
theorem alike_of_merge_eq {first second : List Delivery}
    (same : Delivery.merge first = Delivery.merge second) :
    (ofDeliveries first).Alike (ofDeliveries second) := by
  refine ⟨?_, rfl⟩
  have kept := congrArg (List.flatMap Delivery.signals) same
  rw [Delivery.signals_merge, Delivery.signals_merge] at kept
  exact kept

end Stream

/-- Two outcomes that a reader cannot tell apart: the same result, on streams that it cannot tell
apart. -/
structure SameOutcome {α : Type} (first second : α × Stream) : Prop where
  /-- The results are the same. -/
  result : first.1 = second.1
  /-- The streams left cannot be told apart. -/
  left : first.2.Alike second.2

/-- The same is made of the same results. -/
theorem SameOutcome.map {α β : Type} {first second : α × Stream} (f : α → β)
    (same : SameOutcome first second) :
    SameOutcome (f first.1, first.2) (f second.1, second.2) :=
  ⟨congrArg f same.result, same.left⟩

/-- A buffer is filled alike from streams that cannot be told apart. -/
theorem Stream.Alike.fill {first second : Stream} (alike : first.Alike second) (size : Nat)
    (received : Bytes) :
    SameOutcome (first.fill size received) (second.fill size received) := by
  have one := fillFrom_signals (size - received.length) received first.consumed first.deliveries
  have other := fillFrom_signals (size - received.length) received second.consumed
    second.deliveries
  have signals : first.deliveries.flatMap Delivery.signals =
      second.deliveries.flatMap Delivery.signals := alike.signals
  rw [signals, ← other, Prod.mk.injEq] at one
  obtain ⟨result, kept⟩ := one
  have left : (first.fill size received).2.remaining = (second.fill size received).2.remaining := by
    have bytes := congrArg (List.filterMap Signal.byte?) kept
    rw [filterMap_signals, filterMap_signals] at bytes
    exact bytes
  -- The count of bytes taken follows from what was there and what is left.
  have consumed : (first.fill size received).2.consumed =
      (second.fill size received).2.consumed := by
    obtain ⟨taken, after, -⟩ := first.fill_accounts size received
    obtain ⟨others, afterwards, -⟩ := second.fill_accounts size received
    have length := after.length_eq
    have lengths := afterwards.length_eq
    have before := alike.consumed
    rw [alike.remaining, left] at length
    rw [after.consumed, afterwards.consumed]
    omega
  exact ⟨result, kept, consumed⟩

namespace FrameSettings

variable (settings : FrameSettings) {first second : Stream}

/-- Padding is read alike from streams that cannot be told apart. -/
theorem readPadding_alike (alike : first.Alike second) (frame : Frame) (received : Bytes) :
    SameOutcome (settings.readPadding frame received first)
      (settings.readPadding frame received second) := by
  obtain ⟨result, left⟩ := alike.fill (settings.padding frame.wireLength) received
  rw [readPadding, readPadding]
  cases one : first.fill (settings.padding frame.wireLength) received with
  | mk outcome rest =>
    cases other : second.fill (settings.padding frame.wireLength) received with
    | mk outcomes rests =>
      rw [one, other] at result left
      obtain rfl : outcome = outcomes := result
      cases outcome <;> exact ⟨rfl, left⟩

/-- A body is read alike from streams that cannot be told apart. -/
theorem readBody_alike (alike : first.Alike second) (header : FrameHeader) (received : Bytes) :
    SameOutcome (settings.readBody header received first)
      (settings.readBody header received second) := by
  obtain ⟨result, left⟩ := alike.fill header.length.toNat received
  rw [readBody, readBody]
  cases one : first.fill header.length.toNat received with
  | mk outcome rest =>
    cases other : second.fill header.length.toNat received with
    | mk outcomes rests =>
      rw [one, other] at result left
      obtain rfl : outcome = outcomes := result
      cases outcome with
      | full body => exact settings.readPadding_alike left ⟨header, body⟩ []
      | ended _ | failed _ | waiting _ => exact ⟨rfl, left⟩

/-- A header is read alike from streams that cannot be told apart. -/
theorem readHeader_alike (alike : first.Alike second) (received : Bytes) :
    SameOutcome (settings.readHeader received first) (settings.readHeader received second) := by
  obtain ⟨result, left⟩ := alike.fill FrameHeader.size received
  rw [readHeader, readHeader]
  cases one : first.fill FrameHeader.size received with
  | mk outcome rest =>
    cases other : second.fill FrameHeader.size received with
    | mk outcomes rests =>
      rw [one, other] at result left
      obtain rfl : outcome = outcomes := result
      cases outcome with
      | full bytes =>
        cases opened : FrameHeader.read bytes with
        | none => exact ⟨by simp only [opened], by simpa only [opened] using left⟩
        | some found =>
          obtain ⟨header, behind⟩ := found
          cases admitted : header.accept settings.maximum with
          | error fault =>
            exact ⟨by simp only [opened, admitted], by simpa only [opened, admitted] using left⟩
          | ok =>
            simp only [opened, admitted]
            exact settings.readBody_alike left header []
      | ended _ | failed _ | waiting _ => exact ⟨rfl, left⟩

/-- The next frame is read alike from streams that cannot be told apart. -/
theorem nextFrame_alike (alike : first.Alike second) :
    SameOutcome (settings.nextFrame first) (settings.nextFrame second) := by
  obtain ⟨result, left⟩ := settings.readHeader_alike alike []
  simp only [nextFrame, proceed, Stage.start]
  cases one : settings.readHeader [] first with
  | mk progress rest =>
    cases other : settings.readHeader [] second with
    | mk progresses rests =>
      rw [one, other] at result left
      obtain rfl : progress = progresses := result
      cases progress <;> exact ⟨rfl, left⟩

/-- Exactly one frame is read alike from streams that cannot be told apart. -/
theorem readFrame_alike (alike : first.Alike second) :
    SameOutcome (settings.readFrame first) (settings.readFrame second) :=
  (settings.nextFrame_alike alike).map required

end FrameSettings

end BrokerWire

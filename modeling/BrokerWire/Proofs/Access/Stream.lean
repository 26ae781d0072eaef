import BrokerWire.Proofs.Access.Message
import BrokerWire.Stream.MessageReader

/-!
# Streams read into buffers

A buffer of a known size is filled read by read: each read is offered the room behind the bytes that
are there already. Frames, headers and messages read from a stream in this way, each with its own
reading of the frame header, come to what reading the stream plainly comes to. None of them names a
place outside, at whatever byte the stream stops.
-/
namespace BrokerWire

open Access

/-- What comes of drawing from a stream, and what is left of it. -/
abbrev Drawn (α : Type) := Access Failure α × Stream

namespace Drawn

variable {α β : Type}

/-- The outcome of a reading that names no place outside, and what it leaves. -/
def within (outcome : Except Failure α × Stream) : Drawn α := (Access.within outcome.1, outcome.2)

/-- Go on with what has been drawn, where the stream has been left. -/
def andThen (drawn : Drawn α) (next : α → Stream → Drawn β) : Drawn β :=
  match drawn with
  | (.ok result, stream) => next result stream
  | (.error halt, stream) => (.error halt, stream)

/-- Make something of what has been drawn. -/
def map (make : α → β) (drawn : Drawn α) : Drawn β := (drawn.1.map make, drawn.2)

/-- What is made in two steps is made in one. -/
theorem map_map {γ : Type} (make : α → β) (more : β → γ) (drawn : Drawn α) :
    (drawn.map make).map more = drawn.map fun result => more (make result) := by
  obtain ⟨_ | _, stream⟩ := drawn <;> rfl

/-- What is made in the end is made of what is gone on to. -/
theorem map_andThen {γ : Type} (make : β → γ) (drawn : Drawn α) (next : α → Stream → Drawn β) :
    (drawn.andThen next).map make = drawn.andThen fun result stream =>
      (next result stream).map make := by
  obtain ⟨_ | _, stream⟩ := drawn <;> rfl

end Drawn

namespace Stream

/-- Put what is delivered into a buffer behind so many bytes of it, read by read. A chunk is given
out by as many reads as it takes, so one that has more than there is room for fills the buffer. -/
def pourFrom (buffer : Bytes) (filled consumed : Nat) (deliveries : List Delivery) :
    Drawn (Bytes × Nat) :=
  if filled < buffer.length then
    match buffer.sliceFrom filled with
    | .error halt => (.error halt, ⟨deliveries, consumed⟩)
    | .ok room =>
      match deliveries with
      | [] => (.ok (buffer, filled), ⟨[], consumed⟩)
      | .nothing :: deliveries => (.ok (buffer, filled), ⟨deliveries, consumed⟩)
      | .interruption :: deliveries => pourFrom buffer filled consumed deliveries
      | .failure reason :: deliveries =>
        (.error (.refused (.stream reason)), ⟨deliveries, consumed⟩)
      | .chunk bytes :: deliveries =>
        let taken := bytes.take room.length
        let buffer := buffer.take filled ++ taken ++ room.drop taken.length
        if room.length ≤ bytes.length then
          (.ok (buffer, filled + taken.length),
            ⟨.chunk (bytes.drop room.length) :: deliveries, consumed + taken.length⟩)
        else pourFrom buffer (filled + taken.length) (consumed + taken.length) deliveries
  else (.ok (buffer, filled), ⟨deliveries, consumed⟩)

/-- Fill a new buffer of a size, and tell how many bytes of it have been filled. -/
def pour (stream : Stream) (size : Nat) : Drawn (Bytes × Nat) :=
  pourFrom (List.replicate size 0) 0 stream.consumed stream.deliveries

/-- A buffer of a size has been filled as the outcome of filling says: wholly with its bytes, or
with fewer than there is room for. -/
def Poured (size : Nat) (filled : Fill × Stream) (poured : Drawn (Bytes × Nat)) : Prop :=
  match filled with
  | (.full bytes, left) => bytes.length = size ∧ poured = (.ok (bytes, size), left)
  | (.ended got, left) | (.waiting got, left) =>
    got.length < size ∧ ∃ buffer, poured = (.ok (buffer, got.length), left)
  | (.failed reason, left) => poured = (.error (.refused (.stream reason)), left)

/-- Whatever goes on with a filled buffer is settled by how the buffer was filled. -/
theorem Poured.andThen {β : Type} {size : Nat} {filled : Fill × Stream}
    {poured : Drawn (Bytes × Nat)} (agree : Poured size filled poured)
    {next : Bytes × Nat → Stream → Drawn β} {outcome : Drawn β}
    (full : ∀ bytes left, filled = (.full bytes, left) → bytes.length = size →
      next (bytes, size) left = outcome)
    (short : ∀ buffer got left, filled = (.ended got, left) ∨ filled = (.waiting got, left) →
      got.length < size → next (buffer, got.length) left = outcome)
    (failed : ∀ reason left, filled = (.failed reason, left) →
      (.error (.refused (.stream reason)), left) = outcome) :
    poured.andThen next = outcome := by
  obtain ⟨fill, left⟩ := filled
  cases fill with
  | full bytes =>
    obtain ⟨length, rfl⟩ := agree
    exact full bytes left rfl length
  | ended got =>
    obtain ⟨few, buffer, rfl⟩ := agree
    exact short buffer got left (.inl rfl) few
  | waiting got =>
    obtain ⟨few, buffer, rfl⟩ := agree
    exact short buffer got left (.inr rfl) few
  | failed reason =>
    obtain rfl := agree
    exact failed reason left rfl

/-- The room behind some bytes is what a read is offered. -/
theorem sliceFrom_room (received blank : Bytes) :
    (received ++ blank).sliceFrom (ε := Failure) received.length = .ok blank :=
  Bytes.sliceFrom_of_eq received rfl rfl

/-- A chunk that has as much as there is room for fills the buffer, and keeps what it has more. -/
theorem pourFrom_chunk_append {received blank taken : Bytes} (left : Bytes) (consumed : Nat)
    (deliveries : List Delivery) (none : blank.length ≠ 0) (length : taken.length = blank.length) :
    pourFrom (received ++ blank) received.length consumed (.chunk (taken ++ left) :: deliveries) =
      (.ok (received ++ taken, (received ++ blank).length),
        ⟨.chunk left :: deliveries, consumed + blank.length⟩) := by
  have below : received.length < (received ++ blank).length := by
    rw [List.length_append]
    omega
  have enough : blank.length ≤ (taken ++ left).length := by
    rw [List.length_append]
    omega
  have full : received ++ taken ++ blank.drop taken.length = received ++ taken := by
    rw [length, List.drop_length, List.append_nil]
  rw [pourFrom, if_pos below, sliceFrom_room]
  simp only [if_pos enough]
  simp only [← length, List.take_left, List.drop_left, full, List.length_append]

/-- A chunk that has less than there is room for is put behind the bytes, and reading goes on. -/
theorem pourFrom_chunk {received blank bytes : Bytes} (consumed : Nat)
    (deliveries : List Delivery) (short : bytes.length < blank.length) :
    pourFrom (received ++ blank) received.length consumed (.chunk bytes :: deliveries) =
      pourFrom (received ++ bytes ++ blank.drop bytes.length) (received ++ bytes).length
        (consumed + bytes.length) deliveries := by
  have below : received.length < (received ++ blank).length := by
    rw [List.length_append]
    omega
  rw [pourFrom, if_pos below, sliceFrom_room]
  simp only [if_neg (Nat.not_le.mpr short), List.take_left,
    List.take_of_length_le (Nat.le_of_lt short), List.length_append]

/-- Filling the room behind some bytes puts what is taken from the stream behind them. -/
theorem pourFrom_poured (received blank : Bytes) (consumed : Nat) (deliveries : List Delivery) :
    Poured (received ++ blank).length (fillFrom blank.length received consumed deliveries)
      (pourFrom (received ++ blank) received.length consumed deliveries) := by
  induction deliveries generalizing received blank consumed with
  | nil =>
    by_cases none : blank.length = 0
    · obtain rfl := List.eq_nil_of_length_eq_zero none
      simp [fillFrom, pourFrom, Poured]
    have below : received.length < (received ++ blank).length := by
      rw [List.length_append]
      omega
    rw [pourFrom, if_pos below, sliceFrom_room, fillFrom, if_neg none]
    exact ⟨below, _, rfl⟩
  | cons delivery deliveries ih =>
    by_cases none : blank.length = 0
    · obtain rfl := List.eq_nil_of_length_eq_zero none
      simp [fillFrom, pourFrom, Poured]
    have below : received.length < (received ++ blank).length := by
      rw [List.length_append]
      omega
    cases delivery with
    | chunk bytes =>
      cases split : Bytes.split? blank.length bytes with
      | some parts =>
        obtain ⟨taken, left⟩ := parts
        obtain ⟨rfl, length⟩ := Bytes.split?_eq_some_iff.mp split
        simp only [fillFrom, if_neg none, split]
        exact ⟨by rw [List.length_append, List.length_append, length],
          pourFrom_chunk_append left consumed deliveries none length⟩
      | none =>
        have short := Bytes.split?_eq_none_iff.mp split
        have further := ih (received ++ bytes) (blank.drop bytes.length) (consumed + bytes.length)
        have size : (received ++ bytes ++ blank.drop bytes.length).length =
            (received ++ blank).length := by
          simp only [List.length_append, List.length_drop]
          omega
        rw [size, List.length_drop, ← pourFrom_chunk consumed deliveries short] at further
        simp only [fillFrom, if_neg none, split]
        exact further
    | nothing =>
      rw [pourFrom, if_pos below, sliceFrom_room, fillFrom, if_neg none]
      exact ⟨below, _, rfl⟩
    | interruption =>
      rw [pourFrom, if_pos below, sliceFrom_room, fillFrom, if_neg none]
      exact ih received blank consumed
    | failure reason =>
      rw [pourFrom, if_pos below, sliceFrom_room, fillFrom, if_neg none]
      rfl

/-- A new buffer is filled as plain filling says. -/
theorem pour_poured (stream : Stream) (size : Nat) :
    Poured size (stream.fill size []) (stream.pour size) := by
  have poured := pourFrom_poured [] (List.replicate size 0) stream.consumed stream.deliveries
  rw [List.nil_append, List.length_replicate] at poured
  exact poured

end Stream

namespace FrameSettings

variable (settings : FrameSettings)

/-- Skip the padding behind so many bytes, in a buffer of its own. An alignment of zero or one is
none. -/
def fetchPadding (frameLength : Nat) (stream : Stream) : Drawn Unit :=
  match settings.alignment.filter (1 < ·) with
  | none => (.ok (), stream)
  | some alignment =>
    let padding := (alignment - frameLength % alignment) % alignment
    if padding = 0 then (.ok (), stream)
    else (stream.pour padding).andThen fun (_, received) stream =>
      if received < padding then (.error (.refused (.incompleteRead padding received)), stream)
      else (.ok (), stream)

/-- The frame behind the bytes of its header. -/
def fetchRest (raw : Bytes) (stream : Stream) : Drawn Frame :=
  match FrameHeader.fetch raw with
  | .error halt => (.error halt, stream)
  | .ok none => (.error (.refused (.incompleteRead FrameHeader.size raw.length)), stream)
  | .ok (some header) =>
    match header.accept settings.maximum with
    | .error fault => (.error (.refused (.length fault)), stream)
    | .ok () =>
      let length := header.length.toNat
      (stream.pour length).andThen fun (body, received) stream =>
        if received < length then (.error (.refused (.incompleteRead length received)), stream)
        else (settings.fetchPadding (FrameHeader.size + length) stream).map fun _ => ⟨header, body⟩

/-- The next frame of a stream, with its header in a buffer of its own; nothing where the stream is
closed. -/
def fetchNextFrame (stream : Stream) : Drawn (Option Frame) :=
  (stream.pour FrameHeader.size).andThen fun (raw, received) stream =>
    if received = 0 then (.ok none, stream)
    else if received < FrameHeader.size then
      (.error (.refused (.incompleteRead FrameHeader.size received)), stream)
    else (settings.fetchRest raw stream).map some

/-- One frame of a stream, with its header in a buffer of its own. -/
def fetchFrame (stream : Stream) : Drawn Frame :=
  (stream.pour FrameHeader.size).andThen fun (raw, received) stream =>
    if received < FrameHeader.size then
      (.error (.refused (.incompleteRead FrameHeader.size received)), stream)
    else settings.fetchRest raw stream

/-- What progress on a stream comes to that ends behind its deliveries. -/
def settled {α : Type} (progress : Progress α × Stream) : Except Failure (Option α) × Stream :=
  match progress with
  | (.done result, stream) => (result, stream)
  | (.waiting stage, stream) => (settings.endOfStream stage, stream)

/-- The next frame is what reading a header from the start settles to. -/
theorem nextFrame_eq_settled (stream : Stream) :
    settings.nextFrame stream = settings.settled (settings.readHeader [] stream) := by
  simp only [nextFrame, proceed, Stage.start]
  obtain ⟨_ | _, left⟩ := settings.readHeader [] stream <;> rfl

/-- Without an alignment of more than one there is no padding. -/
theorem padding_eq_zero (direct : settings.alignment.filter (1 < ·) = none) (length : Nat) :
    settings.padding length = 0 := by
  unfold padding
  cases given : settings.alignment with
  | none => rfl
  | some alignment =>
    have small : alignment ≤ 1 := by simpa [given] using direct
    obtain rfl | rfl : alignment = 0 ∨ alignment = 1 := by omega
    · simp
    · simp [Nat.mod_one]

/-- With an alignment of more than one the padding reaches its next multiple. -/
theorem padding_eq_of_some {alignment : Nat}
    (aligned : settings.alignment.filter (1 < ·) = some alignment) (length : Nat) :
    settings.padding length = (alignment - length % alignment) % alignment := by
  obtain ⟨given, -⟩ := Option.filter_eq_some_iff.mp aligned
  rw [padding, given]

/-- Nothing is taken for a buffer of no size. -/
theorem fill_zero (stream : Stream) : stream.fill 0 [] = (.full [], stream) := by
  unfold Stream.fill
  obtain ⟨deliveries, consumed⟩ := stream
  cases deliveries <;> simp [Stream.fillFrom]

/-- Padding is skipped as plain reading takes it. -/
theorem fetchPadding_eq (frame : Frame) (stream : Stream) :
    (settings.fetchPadding frame.wireLength stream).map (fun _ => some frame) =
      .within (settings.settled (settings.readPadding frame [] stream)) := by
  rw [fetchPadding, readPadding]
  cases aligned : settings.alignment.filter (1 < ·) with
  | none =>
    rw [settings.padding_eq_zero aligned, fill_zero]
    rfl
  | some alignment =>
    simp only [← settings.padding_eq_of_some aligned]
    by_cases zero : settings.padding frame.wireLength = 0
    · rw [zero, fill_zero]
      rfl
    · rw [if_neg zero, Drawn.map_andThen]
      refine (stream.pour_poured (settings.padding frame.wireLength)).andThen ?_ ?_ ?_
      · intro bytes left filled length
        simp only [filled, Nat.lt_irrefl, ↓reduceIte]
        rfl
      · rintro buffer got left (filled | filled) few <;> simp only [filled, few, ↓reduceIte] <;> rfl
      · intro reason left filled
        rw [filled]
        rfl

/-- What plain reading goes on to behind the bytes of a header. -/
def readRest (raw : Bytes) (stream : Stream) : Progress Frame × Stream :=
  match FrameHeader.read raw with
  | none => (.done (.error (.incompleteRead FrameHeader.size raw.length)), stream)
  | some (header, _) =>
    match header.accept settings.maximum with
    | .error fault => (.done (.error (.length fault)), stream)
    | .ok () => settings.readBody header [] stream

/-- The frame behind a header is fetched as plain reading takes it. -/
theorem fetchRest_eq (raw : Bytes) (stream : Stream) :
    (settings.fetchRest raw stream).map some =
      .within (settings.settled (settings.readRest raw stream)) := by
  rw [fetchRest, readRest, FrameHeader.fetch_eq]
  cases opened : FrameHeader.read raw with
  | none => rfl
  | some found =>
    obtain ⟨header, rest⟩ := found
    cases accepted : header.accept settings.maximum with
    | error fault =>
      simp only [Option.map_some, accepted]
      rfl
    | ok =>
      simp only [Option.map_some, accepted, Drawn.map_andThen, readBody]
      refine (stream.pour_poured header.length.toNat).andThen ?_ ?_ ?_
      · intro body left filled length
        have wire : FrameHeader.size + header.length.toNat =
            (⟨header, body⟩ : Frame).wireLength := by
          rw [Frame.wireLength, length]
        simp only [filled, Nat.lt_irrefl, ↓reduceIte, wire, Drawn.map_map]
        exact settings.fetchPadding_eq ⟨header, body⟩ left
      · rintro buffer got left (filled | filled) few <;> simp only [filled, few, ↓reduceIte] <;> rfl
      · intro reason left filled
        rw [filled]
        rfl

/-- The next frame is fetched exactly where it is read, and no place outside is named. -/
theorem fetchNextFrame_eq (stream : Stream) :
    settings.fetchNextFrame stream = .within (settings.nextFrame stream) := by
  rw [fetchNextFrame, nextFrame_eq_settled, readHeader]
  refine (stream.pour_poured FrameHeader.size).andThen ?_ ?_ ?_
  · intro raw left filled length
    simp only [filled, Nat.lt_irrefl, ↓reduceIte]
    exact settings.fetchRest_eq raw left
  · intro buffer got left came few
    cases got with
    | nil => obtain filled | filled := came <;> rw [filled] <;> rfl
    | cons byte others =>
      have some : (byte :: others).length ≠ 0 := Nat.succ_ne_zero _
      obtain filled | filled := came <;> simp only [filled, if_neg some, if_pos few] <;> rfl
  · intro reason left filled
    rw [filled]
    rfl

/-- What is fetched where there has to be something is what has been fetched with nothing else in
its place. -/
theorem eq_within_required {α : Type} {fetched : Access Failure α}
    {outcome : Except Failure (Option α)} (same : fetched.map some = within outcome) :
    fetched = within (required outcome) := by
  cases fetched with
  | error halt =>
    cases outcome with
    | error failure =>
      obtain rfl : halt = .refused failure := Except.error.inj same
      rfl
    | ok found => simp [Except.map] at same
  | ok result =>
    cases outcome with
    | error failure => simp [Except.map] at same
    | ok found =>
      obtain rfl : some result = found := by simpa [Except.map] using same
      rfl

/-- One frame is fetched exactly where it is read, and no place outside is named. -/
theorem fetchFrame_eq (stream : Stream) :
    settings.fetchFrame stream = .within (settings.readFrame stream) := by
  rw [fetchFrame, readFrame, nextFrame_eq_settled, readHeader]
  refine (stream.pour_poured FrameHeader.size).andThen ?_ ?_ ?_
  · intro raw left filled length
    have rest := settings.fetchRest_eq raw left
    obtain ⟨same, place⟩ := Prod.mk.inj rest
    simp only [filled, Nat.lt_irrefl, ↓reduceIte]
    exact Prod.ext (eq_within_required same) place
  · rintro buffer got left (filled | filled) few <;> simp only [filled, few, ↓reduceIte] <;>
      cases got <;> rfl
  · intro reason left filled
    rw [filled]
    rfl

end FrameSettings

namespace MessageSettings

variable (settings : MessageSettings)

/-- The headers of one frame of a stream, and the bytes behind them, by position. -/
def fetchHeaders (stream : Stream) : Drawn (Headers × Bytes) :=
  (settings.fetchFrame stream).andThen fun frame stream => (Message.fetchHeaders frame, stream)

/-- The message behind headers fetched before, by position. -/
def fetchParse (headers : Headers) (bytes : Bytes) : Access Failure Message :=
  Message.fetchBehind settings.unknown headers bytes

/-- Exactly one message of a stream, by position. -/
def fetchMessage (stream : Stream) : Drawn Message :=
  (settings.fetchFrame stream).andThen fun frame stream =>
    (Message.fetch settings.unknown frame, stream)

/-- The next message of a stream, by position; nothing where the stream is closed. -/
def fetchNextMessage (stream : Stream) : Drawn (Option Message) :=
  (settings.fetchNextFrame stream).andThen fun frame? stream =>
    match frame? with
    | none => (.ok none, stream)
    | some frame => ((Message.fetch settings.unknown frame).map some, stream)

/-- Headers are fetched from a stream exactly where they are read, and no place outside is named. -/
theorem fetchHeaders_eq (stream : Stream) :
    settings.fetchHeaders stream = .within (settings.readHeaders stream) := by
  rw [fetchHeaders, readHeaders, settings.fetchFrame_eq]
  obtain ⟨failure | frame, left⟩ := settings.readFrame stream
  · rfl
  · exact Prod.ext (Message.fetchHeaders_eq frame) rfl

/-- One message is fetched exactly where it is read, and no place outside is named. -/
theorem fetchMessage_eq (stream : Stream) :
    settings.fetchMessage stream = .within (settings.readMessage stream) := by
  rw [fetchMessage, readMessage, settings.fetchFrame_eq]
  obtain ⟨failure | frame, left⟩ := settings.readFrame stream
  · rfl
  · exact Prod.ext (Message.fetch_eq settings.unknown frame) rfl

/-- The next message is fetched exactly where it is read, and no place outside is named. -/
theorem fetchNextMessage_eq (stream : Stream) :
    settings.fetchNextMessage stream = .within (settings.nextMessage stream) := by
  rw [fetchNextMessage, nextMessage, settings.fetchNextFrame_eq]
  obtain ⟨failure | _ | frame, left⟩ := settings.nextFrame stream
  · rfl
  · rfl
  · refine Prod.ext ?_ rfl
    change (Message.fetch settings.unknown frame).map some = _
    rw [Message.fetch_eq]
    exact (within_map some (Message.ofFrame settings.unknown frame)).symm

end MessageSettings

end BrokerWire

import BrokerWire.Proofs.Stream.Items

/-!
# The first items of a stream

Plain reading of a few items takes exactly their frames off the front of a stream. What is
delivered behind them changes nothing, unless the end of the stream has to stand in for it. A
closed stream is found closed without a byte being taken.
-/
namespace BrokerWire

namespace FrameSettings

variable (settings : FrameSettings)

/-- The progress is not one that finds the stream closed, even if the stream ends here. -/
def NotClosed : Progress Frame → Prop
  | .done result => result ≠ .ok none
  | .waiting stage => (settings.endOfStream stage : Except Failure (Option Frame)) ≠ .ok none

/-- Inside the padding no stream is closed. -/
theorem readPadding_notClosed (frame : Frame) (received : Bytes) (stream : Stream) :
    settings.NotClosed (settings.readPadding frame received stream).1 := by
  rw [readPadding]
  cases stream.fill (settings.padding frame.wireLength) received with
  | mk outcome left => cases outcome <;> simp [NotClosed, endOfStream]

/-- Inside the body no stream is closed. -/
theorem readBody_notClosed (header : FrameHeader) (received : Bytes) (stream : Stream) :
    settings.NotClosed (settings.readBody header received stream).1 := by
  rw [readBody]
  cases stream.fill header.length.toNat received with
  | mk outcome left =>
    cases outcome with
    | full body => exact settings.readPadding_notClosed ⟨header, body⟩ [] left
    | ended _ | failed _ | waiting _ => simp [NotClosed, endOfStream]

/-- A stream is found closed where it ends before the first byte of a header. -/
theorem fill_of_closed {stream left : Stream}
    (closed : settings.nextFrame stream = (.ok none, left)) :
    stream.fill FrameHeader.size [] = (.ended [], left) ∨
      stream.fill FrameHeader.size [] = (.waiting [], left) := by
  simp only [nextFrame, proceed, Stage.start, readHeader] at closed
  cases filled : stream.fill FrameHeader.size [] with
  | mk outcome rest =>
    rw [filled] at closed
    cases outcome with
    | full bytes =>
      cases opened : FrameHeader.read bytes with
      | none => simp [opened] at closed
      | some found =>
        obtain ⟨header, behind⟩ := found
        cases admitted : header.accept settings.maximum with
        | error fault => simp [opened, admitted] at closed
        | ok =>
          simp only [opened, admitted] at closed
          have inside := settings.readBody_notClosed header [] rest
          cases read : settings.readBody header [] rest with
          | mk progress last =>
            rw [read] at closed inside
            cases progress with
            | done result => exact absurd (Prod.mk.inj closed).1 inside
            | waiting stage => exact absurd (Prod.mk.inj closed).1 inside
    | ended got =>
      cases got with
      | nil => exact .inl (by rw [(Prod.mk.inj closed).2])
      | cons byte others => simp [endOfStream] at closed
    | waiting got =>
      cases got with
      | nil => exact .inr (by rw [(Prod.mk.inj closed).2])
      | cons byte others => simp [endOfStream] at closed
    | failed reason => simp at closed

/-- A stream is found closed without a byte being taken. -/
theorem nextFrame_closed {stream left : Stream}
    (closed : settings.nextFrame stream = (.ok none, left)) : stream.LeftAfter [] left := by
  obtain ⟨taken, after, accounts⟩ := stream.fill_accounts FrameHeader.size []
  obtain filled | filled := settings.fill_of_closed closed <;>
    · rw [filled] at after accounts
      obtain ⟨none, -⟩ := accounts
      obtain rfl : taken = [] := none.symm
      exact after

/-- The next frame is taken from the front of the stream. -/
theorem nextFrame_leftAfter (stream : Stream) :
    ∃ taken, stream.LeftAfter taken (settings.nextFrame stream).2 := by
  obtain ⟨taken, after, -⟩ := settings.readHeader_leftAfter [] stream
  refine ⟨taken, ?_⟩
  simp only [nextFrame, proceed, Stage.start]
  cases reached : settings.readHeader [] stream with
  | mk progress left =>
    rw [reached] at after
    cases progress <;> exact after

end FrameSettings

namespace MessageSettings

variable (settings : MessageSettings)

/-- A stream is found closed without a byte being taken. -/
theorem nextMessage_closed {stream left : Stream}
    (closed : settings.nextMessage stream = (.ok none, left)) : stream.LeftAfter [] left := by
  simp only [nextMessage, Prod.mk.injEq] at closed
  obtain ⟨result, rfl⟩ := closed
  cases next : settings.nextFrame stream with
  | mk frame? left =>
    rw [next] at result
    cases frame? with
    | error failure => simp [ofFrameResult] at result
    | ok frame? =>
      cases frame? with
      | none => exact settings.nextFrame_closed next
      | some frame =>
        cases read : Message.ofFrame settings.unknown frame <;>
          simp [ofFrameResult, read, Except.map] at result

/-- Whoever waits for a message waits for its frame. -/
theorem proceed_of_waiting {ended : Bool} {stage next : Stage} {stream left : Stream}
    (waits : settings.proceedUntilEnd ended stage stream = (.waiting next, left)) :
    settings.proceed stage stream = (.waiting next, left) := by
  rw [proceedUntilEnd, proceedMessage] at waits
  cases reached : settings.proceed stage stream with
  | mk progress rest =>
    rw [reached] at waits
    cases progress with
    | done result => simp at waits
    | waiting further =>
      cases ended with
      | true => simp at waits
      | false => simpa using waits

/-- What reading a message comes to stands when more is delivered, unless the stream has ended. A
message stands in any case. -/
theorem nextMessage_append {ended : Bool} {stream left : Stream}
    {result : Except Failure (Option Message)}
    (done : settings.proceedUntilEnd ended .start stream = (.done result, left))
    (later : List Delivery)
    (last : (ended = true → later = []) ∨ ∃ message, result = .ok (some message)) :
    settings.nextMessage (stream.append later) = (result, left.append later) := by
  have whole := settings.proceedUntilEnd_start (stream.append later)
  have parts := settings.proceedMessage_append .start stream later
  rw [proceedUntilEnd] at done whole
  cases reached : settings.proceedMessage .start stream with
  | mk progress rest =>
    rw [reached] at done parts
    cases progress with
    | done outcome =>
      simp only [Prod.mk.injEq, Progress.done.injEq] at done
      obtain ⟨rfl, rfl⟩ := done
      simp only [parts, Prod.mk.injEq, Progress.done.injEq] at whole
      exact Prod.ext whole.1.symm whole.2.symm
    | waiting stage =>
      cases ended with
      | false => simp at done
      | true =>
        simp only [↓reduceIte, Prod.mk.injEq, Progress.done.injEq] at done
        obtain ⟨rfl, rfl⟩ := done
        have never : ∀ message,
            (settings.endOfStream stage : Except Failure (Option Message)) ≠
              .ok (some message) := by
          cases stage with
          | header received => cases received <;> simp [FrameSettings.endOfStream]
          | body _ _ | padding _ _ => simp [FrameSettings.endOfStream]
        have none : later = [] := by
          obtain ends | ⟨message, gives⟩ := last
          · exact ends rfl
          · exact absurd gives (never message)
        subst none
        rw [Stream.append_nil] at whole ⊢
        simp only [reached, ↓reduceIte, Prod.mk.injEq, Progress.done.injEq] at whole
        rw [Stream.append_nil]
        exact Prod.ext whole.1.symm whole.2.symm

/-- Plain reading of as many items gives these, and leaves the stream so. -/
def FirstItems (stream : Stream) (items : List (Except Failure Message)) (left : Stream) : Prop :=
  settings.readUpTo items.length stream = (items, left)

variable {settings} {stream middle left : Stream} {items others : List (Except Failure Message)}

/-- Reading no items leaves the stream as it is. -/
theorem firstItems_nil : settings.FirstItems stream [] stream := rfl

/-- A failure may be the first item. -/
theorem firstItems_failure {failure : Failure}
    (next : settings.nextMessage stream = (.error failure, left)) :
    settings.FirstItems stream [.error failure] left := by
  simp only [FirstItems, List.length_singleton, readUpTo, next]

/-- A message is the first item exactly when the others are those behind it. -/
theorem firstItems_cons_iff {message : Message} :
    settings.FirstItems stream (.ok message :: items) left ↔
      ∃ middle, settings.nextMessage stream = (.ok (some message), middle) ∧
        settings.FirstItems middle items left := by
  simp only [FirstItems, List.length_cons, readUpTo]
  cases next : settings.nextMessage stream with
  | mk result rest =>
    cases result with
    | error failure => simp
    | ok message? =>
      cases message? with
      | none => simp
      | some found =>
        simp only [Prod.mk.injEq, List.cons.injEq, Except.ok.injEq, Option.some.injEq]
        constructor
        · rintro ⟨⟨rfl, first⟩, behind⟩
          exact ⟨rest, ⟨rfl, rfl⟩, Prod.ext first behind⟩
        · rintro ⟨middle, ⟨rfl, rfl⟩, first⟩
          exact ⟨⟨rfl, congrArg Prod.fst first⟩, congrArg Prod.snd first⟩

/-- Behind messages reading goes on. -/
theorem FirstItems.append (first : settings.FirstItems stream items middle)
    (messages : ∀ failure, .error failure ∉ items)
    (next : settings.FirstItems middle others left) :
    settings.FirstItems stream (items ++ others) left := by
  induction items generalizing stream with
  | nil =>
    obtain rfl : stream = middle := congrArg Prod.snd first
    exact next
  | cons item items ih =>
    cases item with
    | error failure => exact absurd List.mem_cons_self (messages failure)
    | ok message =>
      obtain ⟨behind, found, rest⟩ := firstItems_cons_iff.mp first
      have further := ih rest fun failure among =>
        messages failure (List.mem_cons_of_mem _ among)
      exact firstItems_cons_iff.mpr ⟨behind, found, further⟩

/-- Behind messages all other items are read. -/
theorem FirstItems.reads (first : settings.FirstItems stream items middle)
    (messages : ∀ failure, .error failure ∉ items) (rest : settings.Reads middle others) :
    settings.Reads stream (items ++ others) := by
  induction items generalizing stream with
  | nil =>
    obtain rfl : stream = middle := congrArg Prod.snd first
    exact rest
  | cons item items ih =>
    cases item with
    | error failure => exact absurd List.mem_cons_self (messages failure)
    | ok message =>
      obtain ⟨behind, found, further⟩ := firstItems_cons_iff.mp first
      exact .message found
        (ih further fun failure among => messages failure (List.mem_cons_of_mem _ among))

/-- The first items are taken from the front of the stream. -/
theorem readUpTo_leftAfter (settings : MessageSettings) (count : Nat) (stream : Stream) :
    ∃ taken, stream.LeftAfter taken (settings.readUpTo count stream).2 := by
  induction count generalizing stream with
  | zero => exact ⟨[], .refl stream⟩
  | succ count ih =>
    obtain ⟨taken, after⟩ := settings.nextFrame_leftAfter stream
    have front : stream.LeftAfter taken (settings.nextMessage stream).2 := after
    simp only [readUpTo]
    cases next : settings.nextMessage stream with
    | mk result left =>
      rw [next] at front
      cases result with
      | error failure => exact ⟨taken, front⟩
      | ok message? =>
        cases message? with
        | none => exact ⟨taken, front⟩
        | some message =>
          obtain ⟨more, behind⟩ := ih left
          exact ⟨taken ++ more, front.trans behind⟩

end MessageSettings

end BrokerWire

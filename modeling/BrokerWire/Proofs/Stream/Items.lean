import BrokerWire.Proofs.Stream.Resumption

/-!
# Items of a stream

Reading message after message until the stream is closed or fails gives a list of items, of which
only the last may be a failure. `Reads` says so without a bound on the number of messages, and
`readAll` finds that list. From any stage inside a frame there are items still to come, and they do
not depend on how many of the deliveries have arrived when the reading starts.
-/
namespace BrokerWire.MessageSettings

variable (settings : MessageSettings)

/-- The items of a stream that ends behind its deliveries: its messages one after the other until
it is closed or one cannot be read, and then that failure. -/
inductive Reads (settings : MessageSettings) : Stream → List (Except Failure Message) → Prop where
  /-- A closed stream has no items. -/
  | closed {stream left : Stream} (next : settings.nextMessage stream = (.ok none, left)) :
    Reads settings stream []
  /-- A failure is the last item. -/
  | failed {stream left : Stream} {failure : Failure}
    (next : settings.nextMessage stream = (.error failure, left)) :
    Reads settings stream [.error failure]
  /-- A message comes before the items of the stream behind it. -/
  | message {stream left : Stream} {message : Message} {items : List (Except Failure Message)}
    (next : settings.nextMessage stream = (.ok (some message), left))
    (others : Reads settings left items) : Reads settings stream (.ok message :: items)

/-- Every message of a stream takes bytes. -/
theorem nextMessage_shortens {stream left : Stream} {message : Message}
    (next : settings.nextMessage stream = (.ok (some message), left)) :
    left.remaining.length < stream.remaining.length := by
  simp only [nextMessage, Prod.mk.injEq] at next
  obtain ⟨result, rfl⟩ := next
  cases found : settings.nextFrame stream with
  | mk frame? rest =>
    rw [found] at result
    cases frame? with
    | error failure => simp [ofFrameResult] at result
    | ok frame? =>
      cases frame? with
      | none => simp [ofFrameResult] at result
      | some frame => exact settings.nextFrame_shortens found

/-- A bound on the number of messages that exceeds the number of bytes is never reached. -/
theorem reads_readUpTo {count : Nat} {stream : Stream} (enough : stream.remaining.length < count) :
    settings.Reads stream (settings.readUpTo count stream).1 := by
  induction count generalizing stream with
  | zero => contradiction
  | succ count ih =>
    simp only [readUpTo]
    cases next : settings.nextMessage stream with
    | mk result left =>
      match result with
      | .ok none => exact .closed next
      | .error failure => exact .failed next
      | .ok (some message) =>
        have shorter := settings.nextMessage_shortens next
        exact .message next (ih (by omega))

/-- Reading everything finds the items of the stream. -/
theorem reads_readAll (stream : Stream) : settings.Reads stream (settings.readAll stream).1 :=
  settings.reads_readUpTo (Nat.lt_succ_self _)

/-- A stream has its items and no others. -/
theorem Reads.unique {stream : Stream} {items others : List (Except Failure Message)}
    (reads : settings.Reads stream items) (again : settings.Reads stream others) :
    items = others := by
  induction reads generalizing others with
  | closed next => cases again <;> simp_all
  | failed next => cases again <;> simp_all
  | message next behind ih =>
    cases again with
    | closed other => simp [next] at other
    | failed other => simp [next] at other
    | message other behind =>
      simp only [next, Prod.mk.injEq, Except.ok.injEq, Option.some.injEq] at other
      obtain ⟨rfl, rfl⟩ := other
      rw [ih behind]

/-- The items still to come from a stage, of a stream that ends behind its deliveries. -/
def itemsFrom (stage : Stage) (stream : Stream) : List (Except Failure Message) :=
  match settings.proceedUntilEnd true stage stream with
  | (.done (.ok (some message)), left) => .ok message :: (settings.readAll left).1
  | (.done (.error failure), _) => [.error failure]
  | (.done (.ok none), _) | (.waiting _, _) => []

/-- The end of a stream means the same to a reader of frames and to one of messages. -/
theorem ofFrameResult_endOfStream (stage : Stage) :
    settings.ofFrameResult (settings.endOfStream stage) = settings.endOfStream stage := by
  cases stage with
  | header received => cases received <;> rfl
  | body _ _ | padding _ _ => rfl

/-- From the start of a frame, reading until the end gives the next message. -/
theorem proceedUntilEnd_start (stream : Stream) :
    settings.proceedUntilEnd true .start stream =
      (.done (settings.nextMessage stream).1, (settings.nextMessage stream).2) := by
  simp only [proceedUntilEnd, proceedMessage, nextMessage, FrameSettings.nextFrame]
  cases settings.proceed .start stream with
  | mk progress left =>
    cases progress with
    | done result => rfl
    | waiting stage => simp [ofFrameResult_endOfStream]

/-- From the start of a frame, all items of the stream are still to come. -/
theorem itemsFrom_start (stream : Stream) :
    settings.itemsFrom .start stream = (settings.readAll stream).1 := by
  apply Reads.unique settings ?_ (settings.reads_readAll stream)
  simp only [itemsFrom, proceedUntilEnd_start]
  cases next : settings.nextMessage stream with
  | mk result left =>
    match result with
    | .ok none => exact .closed next
    | .error failure => exact .failed next
    | .ok (some message) => exact .message next (settings.reads_readAll left)

/-- Whoever waits for a message has used up the deliveries of a stream that has not ended. -/
theorem waiting_rest {ended : Bool} {stage next : Stage} {stream left : Stream}
    (waits : settings.proceedUntilEnd ended stage stream = (.waiting next, left)) :
    ended = false ∧ left.deliveries = [] := by
  rw [proceedUntilEnd, proceedMessage] at waits
  cases reached : settings.proceed stage stream with
  | mk progress rest =>
    rw [reached] at waits
    cases progress with
    | done result => simp at waits
    | waiting further =>
      cases ended with
      | true => simp at waits
      | false =>
        obtain ⟨-, rfl⟩ := Prod.mk.inj waits
        exact ⟨rfl, settings.proceed_waiting reached⟩

/-- Going on from a stage reads the same message whether the deliveries come at once or in two
parts. -/
theorem proceedMessage_append (stage : Stage) (stream : Stream) (later : List Delivery) :
    settings.proceedMessage stage (stream.append later) =
      match settings.proceedMessage stage stream with
      | (.done result, left) => (.done result, left.append later)
      | (.waiting stage, left) => settings.proceedMessage stage (left.append later) := by
  rw [proceedMessage, FrameSettings.proceed_append, proceedMessage]
  cases settings.proceed stage stream with
  | mk progress left => cases progress <;> rfl

/-- What is still to come from a stage, once it is known what the deliveries that have arrived come
to. Where the stream has ended there are no later ones. -/
theorem itemsFrom_append (ended : Bool) (stage : Stage) (stream : Stream) (later : List Delivery)
    (last : ended = true → later = []) :
    settings.itemsFrom stage (stream.append later) =
      match settings.proceedUntilEnd ended stage stream with
      | (.waiting stage, left) => settings.itemsFrom stage (left.append later)
      | (.done (.ok none), _) => []
      | (.done (.error failure), _) => [.error failure]
      | (.done (.ok (some message)), left) =>
        .ok message :: settings.itemsFrom .start (left.append later) := by
  cases ended with
  | true =>
    obtain rfl := last rfl
    simp only [Stream.append_nil, itemsFrom_start]
    rw [itemsFrom]
    cases reached : settings.proceedUntilEnd true stage stream with
    | mk progress left =>
      match progress with
      | .done (.ok none) | .done (.error _) | .done (.ok (some _)) => rfl
      | .waiting stage =>
        simp only [proceedUntilEnd] at reached
        split at reached <;> simp at reached
  | false =>
    rw [itemsFrom, proceedUntilEnd, proceedMessage_append, proceedUntilEnd]
    cases settings.proceedMessage stage stream with
    | mk progress left =>
      match progress with
      | .done (.ok none) | .done (.error _) => rfl
      | .done (.ok (some message)) => simp only [itemsFrom_start]
      | .waiting stage => rfl

end BrokerWire.MessageSettings

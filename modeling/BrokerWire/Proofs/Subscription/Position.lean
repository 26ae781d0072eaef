import BrokerWire.Proofs.Stream.Beginning
import BrokerWire.Proofs.Subscription.Session

/-!
# Where a subscription stands in its stream

Plain reading of the items that a subscription has passed on leaves a stream behind, and the
subscription stands at that very place: right there when it holds an item or has stopped, and
otherwise behind the part of the next frame that has arrived. A session is followed through any
operations, also those by which something is delivered behind the end of the stream; that counts
as long as the reading may still come to it.
-/
namespace BrokerWire

namespace Activity

/-- No more will be read: the reading has stopped, or it holds the failure that stops it. -/
def isOver : Activity → Bool
  | .reading _ | .holding (.ok _) => false
  | .holding (.error _) | .stopped => true

/-- What is going on behind the items passed on, when plain reading of them leaves a stream and the
subscription has another: at a stage, the next frame is read as far as it has arrived. -/
def RestsAt (settings : MessageSettings) (left stream : Stream) : Activity → Prop
  | .reading stage => settings.proceed .start left = (.waiting stage, stream)
  | .holding (.ok _) => stream = left
  | .holding (.error _) | .stopped => stream.consumed = left.consumed

/-- The same before coming to rest: at a stage, going on comes to what starting with the next frame
would come to. -/
def GoesOnFrom (settings : MessageSettings) (left stream : Stream) : Activity → Prop
  | .reading stage => settings.proceed .start left = settings.proceed stage stream
  | .holding (.ok _) => stream = left
  | .holding (.error _) | .stopped => stream.consumed = left.consumed

variable {settings : MessageSettings} {left stream : Stream} {activity : Activity}

/-- Whoever rests at a place goes on from there when more is delivered. -/
theorem RestsAt.goesOn (rests : activity.RestsAt settings left stream) (later : List Delivery) :
    activity.GoesOnFrom settings (left.append later) (stream.append later) := by
  match activity, rests with
  | .reading stage, rests =>
    have parts := settings.proceed_append .start left later
    rw [rests] at parts
    exact parts
  | .holding (.ok message), rests => exact congrArg (·.append later) rests
  | .holding (.error failure), rests => exact rests
  | .stopped, rests => exact rests

/-- Whoever will read no more stays where it is, whatever is delivered. -/
theorem RestsAt.stays (rests : activity.RestsAt settings left stream)
    (isOver : activity.isOver = true) (delivery : Delivery) :
    activity.GoesOnFrom settings left (stream.feed delivery) := by
  cases activity with
  | reading stage => contradiction
  | holding item =>
    cases item with
    | ok message => contradiction
    | error failure => exact rests
  | stopped => exact rests

/-- Where no more will be read, what has not entered the queue is the item held. -/
theorem coming_of_isOver (isOver : activity.isOver = true) :
    activity.coming settings stream = activity.held := by
  cases activity with
  | reading stage => contradiction
  | holding item =>
    cases item with
    | ok message => contradiction
    | error failure => rfl
  | stopped => rfl

end Activity

namespace Turn

variable {settings : MessageSettings} {ended : Bool}

/-- A turn of reading from a stage is one from the start of the frame, if going on from there comes
to the same. -/
theorem run_congr {stage : Stage} {left stream : Stream}
    (same : settings.proceed .start left = settings.proceed stage stream) (room : Nat) :
    Turn.run settings ended room stage stream = Turn.run settings ended room .start left := by
  have reached : settings.proceedUntilEnd ended .start left =
      settings.proceedUntilEnd ended stage stream := by
    simp only [MessageSettings.proceedUntilEnd, MessageSettings.proceedMessage, same]
  rw [Turn.run, Turn.run, reached]

/-- How a turn of reading stands to plain reading of the same stream: it has read the first items,
and rests behind them. -/
structure Follows (settings : MessageSettings) (ended : Bool) (stream left : Stream)
    (turn : Turn) : Prop where
  /-- Plain reading gives the items, also when more is delivered that may still be read. -/
  items : ∀ later, (turn.activity.isOver = true → ended = true → later = []) →
    settings.FirstItems (stream.append later) (turn.items ++ turn.activity.held)
      (left.append later)
  /-- While more may be read, they are messages. -/
  messages : turn.activity.isOver = false →
    ∀ failure, .error failure ∉ turn.items ++ turn.activity.held
  /-- The turn rests behind the items. -/
  rests : turn.activity.RestsAt settings left turn.stream

namespace Follows

variable {stream rest left : Stream} {stage : Stage} {failure : Failure} {message : Message}

/-- A turn that waits has read no item. -/
theorem waiting
    (reached : settings.proceedUntilEnd ended .start stream = (.waiting stage, rest)) :
    Follows settings ended stream stream ⟨[], .reading stage, rest⟩ :=
  ⟨fun _ _ => MessageSettings.firstItems_nil, fun _ _ => List.not_mem_nil,
    settings.proceed_of_waiting reached⟩

/-- A turn that finds the stream closed has read no item and stops without taking a byte. -/
theorem closed
    (reached : settings.proceedUntilEnd ended .start stream = (.done (.ok none), rest)) :
    Follows settings ended stream stream ⟨[], .stopped, rest⟩ := by
  refine ⟨fun _ _ => MessageSettings.firstItems_nil, fun _ _ => List.not_mem_nil, ?_⟩
  have next := settings.nextMessage_append reached [] (.inl fun _ => rfl)
  rw [Stream.append_nil, Stream.append_nil] at next
  exact (settings.nextMessage_closed next).consumed

/-- A turn that comes to a failure has read it as the first item, wherever it is put. -/
theorem failed {turn : Turn}
    (reached : settings.proceedUntilEnd ended .start stream = (.done (.error failure), rest))
    (gives : turn.items ++ turn.activity.held = [.error failure])
    (isOver : turn.activity.isOver = true)
    (rests : turn.activity.RestsAt settings rest turn.stream) :
    Follows settings ended stream rest turn := by
  refine ⟨fun later last => ?_, by simp [isOver], rests⟩
  rw [gives]
  exact MessageSettings.firstItems_failure
    (settings.nextMessage_append reached later (.inl (last isOver)))

/-- A turn that holds a message has read it as the first item. -/
theorem held
    (reached : settings.proceedUntilEnd ended .start stream = (.done (.ok (some message)), rest)) :
    Follows settings ended stream rest ⟨[], .holding (.ok message), rest⟩ := by
  refine ⟨fun later _ => ?_, by simp [Activity.held], rfl⟩
  have next := settings.nextMessage_append reached later (.inr ⟨message, rfl⟩)
  exact MessageSettings.firstItems_cons_iff.mpr ⟨_, next, MessageSettings.firstItems_nil⟩

/-- A turn that queues a message and goes on has read the message in front of all others. -/
theorem queued {turn : Turn}
    (reached : settings.proceedUntilEnd ended .start stream = (.done (.ok (some message)), rest))
    (follows : Follows settings ended rest left turn) :
    Follows settings ended stream left { turn with items := .ok message :: turn.items } := by
  refine ⟨fun later last => ?_, fun going failure among => ?_, follows.rests⟩
  · have next := settings.nextMessage_append reached later (.inr ⟨message, rfl⟩)
    exact MessageSettings.firstItems_cons_iff.mpr ⟨_, next, follows.items later last⟩
  · obtain same | other := List.mem_cons.mp among
    · simp at same
    · exact follows.messages going failure other

end Follows

/-- Every turn of reading follows plain reading. -/
theorem run_follows (settings : MessageSettings) (ended : Bool) (room : Nat) (stream : Stream) :
    ∃ left, (Turn.run settings ended room .start stream).Follows settings ended stream left := by
  induction room generalizing stream with
  | zero =>
    rw [Turn.run]
    cases reached : settings.proceedUntilEnd ended .start stream with
    | mk progress rest =>
      cases progress with
      | waiting stage => exact ⟨stream, .waiting reached⟩
      | done result =>
        cases result with
        | error failure => exact ⟨rest, .failed reached rfl rfl rfl⟩
        | ok message? =>
          cases message? with
          | none => exact ⟨stream, .closed reached⟩
          | some message => exact ⟨rest, .held reached⟩
  | succ room ih =>
    rw [Turn.run]
    cases reached : settings.proceedUntilEnd ended .start stream with
    | mk progress rest =>
      cases progress with
      | waiting stage => exact ⟨stream, .waiting reached⟩
      | done result =>
        cases result with
        | error failure => exact ⟨rest, .failed reached rfl rfl rfl⟩
        | ok message? =>
          cases message? with
          | none => exact ⟨stream, .closed reached⟩
          | some message =>
            obtain ⟨left, follows⟩ := ih rest
            exact ⟨left, .queued reached follows⟩

/-- A turn after which no more will be read has read everything that plain reading reads. -/
theorem run_reads (settings : MessageSettings) (ended : Bool) (room : Nat) (stream : Stream)
    (isOver : (Turn.run settings ended room .start stream).activity.isOver = true)
    (later : List Delivery) (last : ended = true → later = []) :
    let turn := Turn.run settings ended room .start stream
    settings.Reads (stream.append later) (turn.items ++ turn.activity.held) := by
  intro turn
  have all : turn.items ++ turn.activity.coming settings (turn.stream.append later) =
      settings.itemsFrom .start (stream.append later) :=
    Turn.run_coming settings ended room .start stream later last
  rw [Activity.coming_of_isOver isOver, settings.itemsFrom_start] at all
  rw [all]
  exact settings.reads_readAll _

end Turn

namespace Session

/-- What a session has passed on are the first items of some deliveries, and plain reading of them
leaves a stream. More may be delivered behind, unless the end of the stream has been read already;
and where no more will be read, there are no other items. -/
structure Tracks (wire : List Delivery) (left : Stream) (session : Session) : Prop where
  /-- Plain reading gives the items. -/
  items : ∀ later, (session.subscription.activity.isOver = true →
      session.subscription.ended = true → later = []) →
    session.subscription.settings.FirstItems (Stream.ofDeliveries (wire ++ later))
      session.passedOn (left.append later)
  /-- While more may be read, they are messages. -/
  messages : session.subscription.activity.isOver = false →
    ∀ failure, .error failure ∉ session.passedOn
  /-- Where no more will be read, they are all items. -/
  complete : session.subscription.activity.isOver = true →
    ∀ later, (session.subscription.ended = true → later = []) →
      session.subscription.settings.Reads (Stream.ofDeliveries (wire ++ later)) session.passedOn

/-- A session follows its stream when it is at rest where plain reading of the items passed on
leaves the stream. -/
structure Follows (settings : SubscriptionSettings) (wire : List Delivery) (session : Session) :
    Prop where
  /-- The subscription keeps what it was opened with. -/
  opened : session.subscription.settings = settings
  /-- The subscription is at rest. -/
  atRest : session.subscription.AtRest
  /-- It is where plain reading leaves the stream. -/
  position : ∃ left, session.Tracks wire left ∧
    session.subscription.activity.RestsAt session.subscription.settings.toMessageSettings left
      session.subscription.stream

variable {wire : List Delivery} {left : Stream} {session : Session}

/-- Reading on from messages passed on comes to rest where plain reading leaves the stream. -/
theorem readFrom_tracks (subscription : Subscription) (taken : List Item) {stage : Stage}
    (items : ∀ later, subscription.settings.FirstItems (Stream.ofDeliveries (wire ++ later))
      (taken ++ subscription.queue) (left.append later))
    (messages : ∀ failure, .error failure ∉ taken ++ subscription.queue)
    (goesOn : subscription.settings.proceed .start left =
      subscription.settings.proceed stage subscription.stream) :
    let read := subscription.readFrom stage
    ∃ rest, (⟨read, taken⟩ : Session).Tracks wire rest ∧
      read.activity.RestsAt read.settings.toMessageSettings rest read.stream := by
  obtain ⟨settings, stream, ended, queue, activity, isOpen⟩ := subscription
  obtain ⟨rest, follows⟩ := Turn.run_follows settings.toMessageSettings ended
    (settings.capacity - queue.length) left
  have all := Turn.run_reads settings.toMessageSettings ended
    (settings.capacity - queue.length) left
  have same : Turn.run settings.toMessageSettings ended (settings.capacity - queue.length) stage
      stream = _ := Turn.run_congr goesOn (settings.capacity - queue.length)
  simp only [Subscription.readFrom, Subscription.room, same]
  generalize Turn.run settings.toMessageSettings ended (settings.capacity - queue.length) .start
    left = turn at follows all
  have parts : taken ++ (queue ++ turn.items) ++ turn.activity.held =
      taken ++ queue ++ (turn.items ++ turn.activity.held) := by
    simp only [List.append_assoc]
  refine ⟨rest, ⟨fun later last => ?_, fun going failure => ?_, fun isOver later last => ?_⟩,
    follows.rests⟩
  · simp only [passedOn, parts]
    exact (items later).append messages (follows.items later last)
  · simp only [passedOn, parts, List.mem_append (s := taken ++ queue), not_or]
    exact ⟨messages failure, follows.messages going failure⟩
  · simp only [passedOn, parts]
    exact (items later).reads messages (all isOver later last)

/-- Coming to rest keeps what has been passed on, and ends where plain reading leaves the stream. -/
theorem settle_tracks (tracks : session.Tracks wire left)
    (goesOn : session.subscription.activity.GoesOnFrom
      session.subscription.settings.toMessageSettings left session.subscription.stream) :
    let settled := session.subscription.settle
    ∃ rest, (⟨settled, session.taken⟩ : Session).Tracks wire rest ∧
      settled.activity.RestsAt settled.settings.toMessageSettings rest settled.stream := by
  obtain ⟨⟨settings, stream, ended, queue, activity, isOpen⟩, taken⟩ := session
  obtain ⟨items, messages, complete⟩ := tracks
  match activity with
  | .stopped => exact ⟨left, ⟨items, messages, complete⟩, goesOn⟩
  | .reading stage =>
    have going : ∀ failure, .error failure ∉ taken ++ queue := by
      simpa [passedOn, Activity.held] using messages rfl
    refine readFrom_tracks ⟨settings, stream, ended, queue, .reading stage, isOpen⟩ taken
      (fun later => ?_) going goesOn
    simpa [passedOn, Activity.held] using items later (by simp [Activity.isOver])
  | .holding item =>
    by_cases full : settings.capacity - queue.length = 0
    · have still : (⟨settings, stream, ended, queue, .holding item, isOpen⟩ :
          Subscription).settle = ⟨settings, stream, ended, queue, .holding item, isOpen⟩ := by
        simp only [Subscription.settle, Subscription.room, full, ↓reduceIte]
      simp only [still]
      refine ⟨left, ⟨items, messages, complete⟩, ?_⟩
      cases item <;> exact goesOn
    · have moved : taken ++ (queue ++ [item]) = taken ++ queue ++ [item] :=
        (List.append_assoc ..).symm
      cases item with
      | error failure =>
        have queued : (⟨settings, stream, ended, queue, .holding (.error failure), isOpen⟩ :
            Subscription).settle =
              ⟨settings, stream, ended, queue ++ [.error failure], .stopped, isOpen⟩ := by
          simp only [Subscription.settle, Subscription.room, full, ↓reduceIte]
        simp only [queued]
        -- The failure was passed on when it was held; entering the queue it only moves, and the
        -- same stream is left behind it.
        refine ⟨left, ⟨fun later last => ?_, by simp [Activity.isOver], fun _ later last => ?_⟩,
          goesOn⟩
        · simpa [passedOn, Activity.held] using items later fun _ => last rfl
        · simpa [passedOn, Activity.held] using complete rfl later last
      | ok message =>
        have read : (⟨settings, stream, ended, queue, .holding (.ok message), isOpen⟩ :
            Subscription).settle = (⟨settings, stream, ended, queue ++ [.ok message],
              .holding (.ok message), isOpen⟩ : Subscription).readFrom .start := by
          simp only [Subscription.settle, Subscription.room, full, ↓reduceIte]
        simp only [read]
        have going : ∀ failure, .error failure ∉ taken ++ (queue ++ [.ok message]) := by
          simpa [passedOn, Activity.held] using messages rfl
        refine readFrom_tracks ⟨settings, stream, ended, queue ++ [.ok message],
          .holding (.ok message), isOpen⟩ taken (fun later => ?_) going
          (congrArg (settings.proceed .start) goesOn.symm)
        simpa [passedOn, Activity.held] using items later (by simp [Activity.isOver])

/-- A subscription that comes to rest follows its stream from where it went on. -/
theorem settle_follows {settings : SubscriptionSettings} (session : Session)
    (opened : session.subscription.settings = settings)
    (within : session.subscription.queue.length ≤ session.subscription.settings.capacity)
    (tracks : session.Tracks wire left)
    (goesOn : session.subscription.activity.GoesOnFrom
      session.subscription.settings.toMessageSettings left session.subscription.stream) :
    Follows settings wire ⟨session.subscription.settle, session.taken⟩ :=
  ⟨(Subscription.settle_settings _).trans opened, Subscription.settle_atRest _ within,
    settle_tracks tracks goesOn⟩

/-- A session follows its stream from the start. -/
theorem start_follows (settings : SubscriptionSettings) : (start settings).Follows settings [] := by
  let opened : Session :=
    ⟨⟨settings, Stream.ofDeliveries [], false, [], .reading .start, true⟩, []⟩
  have tracks : opened.Tracks [] (Stream.ofDeliveries []) :=
    ⟨fun _ _ => MessageSettings.firstItems_nil, fun _ _ => List.not_mem_nil,
      by simp [opened, Activity.isOver]⟩
  exact settle_follows opened rfl (Nat.zero_le _) tracks rfl

/-- The reading will not come to what is delivered now: the stream has ended, and no more will be
read of it. -/
def isDeaf (session : Session) : Bool :=
  session.subscription.activity.isOver && session.subscription.ended

/-- What is delivered by operations while the reading may still come to it. -/
def heard (session : Session) : List Operation → List Delivery
  | [] => []
  | operation :: operations =>
    (if session.isDeaf then [] else operation.delivery?.toList) ++
      (session.step operation).heard operations

/-- A session that follows its stream goes on following it when more is delivered. -/
theorem feed_follows {settings : SubscriptionSettings} (follows : session.Follows settings wire)
    (delivery : Delivery) :
    (session.step (.feed delivery)).Follows settings
      (wire ++ if session.isDeaf then [] else [delivery]) := by
  obtain ⟨opened, atRest, left, tracks, rests⟩ := follows
  let fed : Session := { session with
    subscription := { session.subscription with
      stream := session.subscription.stream.feed delivery } }
  cases deaf : session.isDeaf with
  | true =>
    -- The reading will not come to the delivery, so it is not one of those heard.
    have isOver := (Bool.and_eq_true_iff.mp deaf).1
    have same : fed.Tracks wire left := ⟨tracks.items, tracks.messages, tracks.complete⟩
    rw [if_pos rfl, List.append_nil]
    exact settle_follows fed opened atRest.within same (rests.stays isOver delivery)
  | false =>
    have hears (isOver : session.subscription.activity.isOver = true) :
        session.subscription.ended = false := by
      simpa [isDeaf, isOver] using deaf
    have more : fed.Tracks (wire ++ [delivery]) (left.feed delivery) := by
      refine ⟨fun later last => ?_, tracks.messages, fun isOver later last => ?_⟩
      · have items := tracks.items (delivery :: later) fun isOver ended => by
          simp [hears isOver] at ended
        rw [List.append_assoc, List.singleton_append, Stream.append_feed]
        exact items
      · have complete := tracks.complete isOver (delivery :: later) fun ended => by
          simp [hears isOver] at ended
        rw [List.append_assoc, List.singleton_append]
        exact complete
    rw [if_neg (by simp)]
    exact settle_follows fed opened atRest.within more (rests.goesOn [delivery])

/-- A session that follows its stream goes on following it when the stream ends. -/
theorem finish_follows {settings : SubscriptionSettings}
    (follows : session.Follows settings wire) :
    (session.step .finish).Follows settings wire := by
  obtain ⟨opened, atRest, left, tracks, rests⟩ := follows
  let finished : Session :=
    { session with subscription := { session.subscription with ended := true } }
  have same : finished.Tracks wire left :=
    ⟨fun later last => tracks.items later fun isOver _ => last isOver rfl, tracks.messages,
      fun isOver later last => tracks.complete isOver later fun _ => last rfl⟩
  have goesOn := rests.goesOn []
  rw [Stream.append_nil, Stream.append_nil] at goesOn
  exact settle_follows finished opened atRest.within same goesOn

/-- A session that follows its stream goes on following it when the consumer takes an item. -/
theorem take_follows {settings : SubscriptionSettings} (follows : session.Follows settings wire)
    {item : Item} {queue : List Item} (queued : session.subscription.queue = item :: queue) :
    Follows settings wire
      ⟨Subscription.settle { session.subscription with queue }, session.taken ++ [item]⟩ := by
  obtain ⟨opened, atRest, left, tracks, rests⟩ := follows
  let taken : Session := ⟨{ session.subscription with queue }, session.taken ++ [item]⟩
  have passed : taken.passedOn = session.passedOn := by
    simp [taken, passedOn, queued]
  have same : taken.Tracks wire left := by
    constructor
    · rw [passed]
      exact tracks.items
    · rw [passed]
      exact tracks.messages
    · rw [passed]
      exact tracks.complete
  have within : queue.length ≤ session.subscription.settings.capacity := by
    have whole := atRest.within
    rw [queued, List.length_cons] at whole
    exact Nat.le_of_succ_le whole
  have goesOn := rests.goesOn []
  rw [Stream.append_nil, Stream.append_nil] at goesOn
  exact settle_follows taken opened within same goesOn

/-- One operation keeps a session following its stream. -/
theorem step_follows {settings : SubscriptionSettings} (follows : session.Follows settings wire)
    (operation : Operation) :
    (session.step operation).Follows settings
      (wire ++ if session.isDeaf then [] else operation.delivery?.toList) := by
  have changes := session.step_changes operation
  generalize session.step operation = next at changes ⊢
  cases changes with
  | feed delivery => exact feed_follows follows delivery
  | finish =>
    simp only [Operation.delivery?, Option.toList_none, ite_self, List.append_nil]
    exact finish_follows follows
  | idle takes empty => simpa [Operation.delivery?_of_isTake takes] using follows
  | take takes queued =>
    simpa [Operation.delivery?_of_isTake takes] using take_follows follows queued

/-- Operations one after the other keep a session following its stream. -/
theorem run_follows {settings : SubscriptionSettings} (follows : session.Follows settings wire)
    (operations : List Operation) :
    (session.run operations).Follows settings (wire ++ session.heard operations) := by
  induction operations generalizing session wire with
  | nil => simpa [heard, run] using follows
  | cons operation operations ih =>
    have others := ih (step_follows follows operation)
    rw [List.append_assoc] at others
    exact others

end Session

end BrokerWire

import BrokerWire.Proofs.Subscription.ReadAhead

/-!
# The end of a subscription

A subscription ends once. When its reading has stopped, at the clean end of the stream, behind a
failure that has been queued, or because the consumer has closed it, it never takes another byte.
What was queued can still be taken, a failure at most and as the last item, and after it the
consumer is told of the end whenever it asks. A failure that waits for room in the queue has not
stopped the reading yet.
-/
namespace BrokerWire

/-- What can happen to a subscription. -/
inductive Move where
  /-- The stream or the consumer does something while the subscription is in use. -/
  | operation (operation : Operation)
  /-- The consumer closes the subscription or drops it. -/
  | close
  deriving DecidableEq, Repr

/-- The stream does something, not the consumer. -/
def Move.isArrival : Move → Bool
  | .operation act => !act.isTake
  | .close => false

/-- Among the items a failure stands last, and so there is one at most. -/
def FailsLast (items : List Item) : Prop :=
  ∀ failure, .error failure ∈ items →
    ∃ messages : List Message, items = messages.map .ok ++ [.error failure]

/-- Behind a failure there are no items. -/
theorem FailsLast.split {first second : List Item} {failure : Failure}
    (last : FailsLast (first ++ second)) (among : .error failure ∈ first) :
    second = [] ∧ ∃ messages : List Message, first = messages.map .ok ++ [.error failure] := by
  obtain ⟨messages, whole⟩ := last failure (List.mem_append_left second among)
  obtain rfl | ⟨init, item, rfl⟩ := List.eq_nil_or_concat second
  · rw [List.append_nil] at whole
    exact ⟨rfl, messages, whole⟩
  · rw [List.concat_eq_append, ← List.append_assoc] at whole
    have front : first ++ init = messages.map .ok := (List.append_inj' whole rfl).1
    have inside : .error failure ∈ first ++ init := List.mem_append_left init among
    rw [front] at inside
    simp at inside

/-- Plain reading stops at the first failure. -/
theorem MessageSettings.Reads.failsLast {settings : MessageSettings} {stream : Stream}
    {items : List Item} (reads : settings.Reads stream items) : FailsLast items := by
  induction reads with
  | closed next => exact fun failure among => absurd among List.not_mem_nil
  | failed next =>
    intro failure among
    obtain rfl : failure = _ := by simpa using among
    exact ⟨[], rfl⟩
  | @message stream left message items next others ih =>
    intro failure among
    obtain ⟨messages, same⟩ := ih failure (by simpa using among)
    exact ⟨message :: messages, by rw [same, List.map_cons, List.cons_append]⟩

namespace Subscription

/-- A subscription whose reading has stopped is at rest. -/
theorem settle_of_stopped {subscription : Subscription}
    (stopped : subscription.activity = .stopped) : subscription.settle = subscription := by
  rw [settle, stopped]

/-- Coming to rest takes nothing away from what has been read: what was queued stays in front, and
what was held comes next. -/
theorem settle_isPrefix (subscription : Subscription) :
    subscription.queue ++ subscription.activity.held <+:
      subscription.settle.queue ++ subscription.settle.activity.held := by
  rw [settle]
  split
  · exact List.prefix_rfl
  · rename_i stage reading
    simp only [readFrom, reading, Activity.held, List.append_nil, List.append_assoc]
    exact List.prefix_append ..
  · rename_i item holding
    split
    · exact List.prefix_rfl
    · cases item with
      | error failure => simp [holding, Activity.held]
      | ok message =>
        simp only [readFrom, holding, Activity.held, List.append_assoc]
        exact (List.prefix_append_right_inj _).mpr (List.prefix_append ..)

end Subscription

namespace Session

/-- The session after one more move. -/
def move (session : Session) : Move → Session
  | .operation operation => session.step operation
  | .close => { session with subscription := session.subscription.close }

/-- The session after several moves. -/
def play (session : Session) (moves : List Move) : Session := moves.foldl move session

/-- Moves one after the other. -/
theorem play_append (session : Session) (before after : List Move) :
    session.play (before ++ after) = (session.play before).play after :=
  List.foldl_append

variable {settings : SubscriptionSettings} {wire : List Delivery} {session later last : Session}

/-! ## Behind the stop -/

/-- What is left of a session whose reading has stopped, at some later time. -/
structure RunsDown (session later : Session) : Prop where
  /-- The reading is not taken up again. -/
  stopped : later.subscription.activity = .stopped
  /-- Nothing more is taken from the stream. -/
  consumed : later.subscription.stream.consumed = session.subscription.stream.consumed
  /-- The consumer gives nothing back. -/
  taken : session.taken <+: later.taken
  /-- Nothing more is queued. -/
  items : later.taken ++ later.subscription.queue <+: session.taken ++ session.subscription.queue

/-- What runs down goes on running down. -/
theorem RunsDown.trans (first : session.RunsDown later) (second : later.RunsDown last) :
    session.RunsDown last :=
  ⟨second.stopped, second.consumed.trans first.consumed, first.taken.trans second.taken,
    second.items.trans first.items⟩

/-- Once the queue is empty, nothing is taken any more. -/
theorem RunsDown.of_empty (down : session.RunsDown later)
    (empty : session.subscription.queue = []) :
    later.taken = session.taken ∧ later.subscription.queue = [] := by
  have items := down.items
  rw [empty, List.append_nil] at items
  have whole := items.length_le
  have taken := down.taken.length_le
  rw [List.length_append] at whole
  have same : later.taken = session.taken := (down.taken.eq_of_length (by omega)).symm
  exact ⟨same, List.eq_nil_of_length_eq_zero (by omega)⟩

/-- Where nothing is done, nothing changes. -/
theorem runsDown_refl (stopped : session.subscription.activity = .stopped) :
    session.RunsDown session :=
  ⟨stopped, rfl, List.prefix_rfl, List.prefix_rfl⟩

/-- A session runs down from where it is closed. -/
theorem close_runsDown (session : Session) : session.RunsDown (session.move .close) :=
  ⟨rfl, rfl, List.prefix_rfl, (List.prefix_append_right_inj _).mpr List.nil_prefix⟩

/-- A session whose reading has stopped runs down with every operation. -/
theorem step_runsDown (stopped : session.subscription.activity = .stopped)
    (operation : Operation) : session.RunsDown (session.step operation) := by
  have changes := session.step_changes operation
  generalize session.step operation = next at changes ⊢
  cases changes with
  | feed delivery =>
    let fed : Subscription :=
      { session.subscription with stream := session.subscription.stream.feed delivery }
    have still : fed.settle = fed := Subscription.settle_of_stopped stopped
    rw [still]
    exact ⟨stopped, rfl, List.prefix_rfl, List.prefix_rfl⟩
  | finish =>
    let finished : Subscription := { session.subscription with ended := true }
    have still : finished.settle = finished := Subscription.settle_of_stopped stopped
    rw [still]
    exact ⟨stopped, rfl, List.prefix_rfl, List.prefix_rfl⟩
  | idle takes empty => exact runsDown_refl stopped
  | @take _ item queue takes queued =>
    let taken : Subscription := { session.subscription with queue }
    have still : taken.settle = taken := Subscription.settle_of_stopped stopped
    rw [still]
    exact ⟨stopped, rfl, List.prefix_append .., [], by simp [taken, queued]⟩

/-- A session whose reading has stopped runs down, whatever happens. -/
theorem play_runsDown (stopped : session.subscription.activity = .stopped) (moves : List Move) :
    session.RunsDown (session.play moves) := by
  induction moves generalizing session with
  | nil => exact runsDown_refl stopped
  | cons move moves ih =>
    have first : session.RunsDown (session.move move) := by
      cases move with
      | operation operation => exact step_runsDown stopped operation
      | close => exact session.close_runsDown
    exact first.trans (ih first.stopped)

/-- Moves either leave the subscription in use, or it runs down from where it is closed. -/
theorem play_cases (session : Session) (moves : List Move) :
    (∃ operations : List Operation, moves = operations.map .operation ∧
        session.play moves = session.run operations) ∨
      .close ∈ moves ∧ ∃ operations : List Operation,
        ((session.run operations).move .close).RunsDown (session.play moves) := by
  -- The first closing decides: all before it are operations, and what comes behind it does not
  -- matter.
  induction moves generalizing session with
  | nil => exact .inl ⟨[], rfl, rfl⟩
  | cons move moves ih =>
    cases move with
    | close => exact .inr ⟨List.mem_cons_self, [], play_runsDown rfl moves⟩
    | operation operation =>
      obtain ⟨operations, rfl, played⟩ | ⟨among, operations, down⟩ := ih (session.step operation)
      · exact .inl ⟨operation :: operations, rfl, played⟩
      · exact .inr ⟨List.mem_cons_of_mem _ among, operation :: operations, down⟩

/-- No operation opens or closes a subscription. -/
@[simp] theorem step_isOpen (session : Session) (operation : Operation) :
    (session.step operation).subscription.isOpen = session.subscription.isOpen := by
  have changes := session.step_changes operation
  generalize session.step operation = next at changes ⊢
  cases changes with
  | feed delivery => exact Subscription.settle_isOpen _
  | finish => exact Subscription.settle_isOpen _
  | idle takes empty => rfl
  | take takes queued => exact Subscription.settle_isOpen _

/-- A subscription is open until it is closed. -/
theorem play_isOpen (session : Session) (moves : List Move) :
    (session.play moves).subscription.isOpen = true ↔
      session.subscription.isOpen = true ∧ .close ∉ moves := by
  induction moves generalizing session with
  | nil => simp [play]
  | cons move moves ih =>
    have further := ih (session.move move)
    change ((session.move move).play moves).subscription.isOpen = true ↔ _
    rw [further]
    cases move with
    | close => simp [Session.move, Subscription.close]
    | operation operation => simp [Session.move]

/-! ## What has been passed on -/

/-- Where the reading has stopped, nothing is held. -/
theorem passedOn_of_stopped (stopped : session.subscription.activity = .stopped) :
    session.passedOn = session.taken ++ session.subscription.queue := by
  rw [passedOn, stopped]
  exact List.append_nil _

/-- Coming to rest takes nothing back that has been passed on. -/
theorem settle_passedOn (session : Session) :
    session.passedOn <+: (⟨session.subscription.settle, session.taken⟩ : Session).passedOn := by
  simp only [passedOn, List.append_assoc]
  exact (List.prefix_append_right_inj _).mpr (Subscription.settle_isPrefix _)

/-- No operation takes back what has been passed on. -/
theorem step_passedOn (session : Session) (operation : Operation) :
    session.passedOn <+: (session.step operation).passedOn := by
  have changes := session.step_changes operation
  generalize session.step operation = next at changes ⊢
  cases changes with
  | feed delivery =>
    exact settle_passedOn { session with
      subscription := { session.subscription with
        stream := session.subscription.stream.feed delivery } }
  | finish =>
    exact settle_passedOn { session with
      subscription := { session.subscription with ended := true } }
  | idle takes empty => exact List.prefix_rfl
  | @take _ item queue takes queued =>
    let taken : Session := ⟨{ session.subscription with queue }, session.taken ++ [item]⟩
    have same : session.passedOn = taken.passedOn := by simp [taken, passedOn, queued]
    rw [same]
    exact taken.settle_passedOn

/-- No operations take back what has been passed on. -/
theorem run_passedOn (session : Session) (operations : List Operation) :
    session.passedOn <+: (session.run operations).passedOn := by
  induction operations generalizing session with
  | nil => exact List.prefix_rfl
  | cons operation operations ih =>
    exact (session.step_passedOn operation).trans (ih (session.step operation))

/-! ## Failures -/

/-- A failure is not passed on in front of anything else. -/
theorem Follows.failsLast (follows : session.Follows settings wire) :
    FailsLast session.passedOn := by
  intro failure among
  obtain ⟨-, -, left, tracks, -⟩ := follows
  cases isOver : session.subscription.activity.isOver with
  | false => exact absurd among (tracks.messages isOver failure)
  | true => exact (tracks.complete isOver [] fun _ => rfl).failsLast failure among

/-- The reading has stopped when a failure has been queued. -/
theorem Follows.stopped_of_failure (follows : session.Follows settings wire) {failure : Failure}
    (among : .error failure ∈ session.taken ++ session.subscription.queue) :
    session.subscription.activity = .stopped := by
  obtain ⟨nothing, -⟩ := follows.failsLast.split among
  obtain ⟨-, -, left, tracks, -⟩ := follows
  -- A failure may also be held, but not in front of one that has been queued.
  have passed : .error failure ∈ session.passedOn := List.mem_append_left _ among
  match activity : session.subscription.activity with
  | .reading stage => exact absurd passed (tracks.messages (by rw [activity]; rfl) failure)
  | .holding item => simp [activity, Activity.held] at nothing
  | .stopped => rfl

/-- A failure that has been taken is the last item taken, and there are no others. -/
theorem Follows.taken_of_failure (follows : session.Follows settings wire) {failure : Failure}
    (among : .error failure ∈ session.taken) :
    session.subscription.queue = [] ∧
      ∃ messages : List Message, session.taken = messages.map .ok ++ [.error failure] := by
  have whole := follows.failsLast
  rw [passedOn, List.append_assoc] at whole
  obtain ⟨nothing, messages⟩ := whole.split among
  exact ⟨(List.append_eq_nil_iff.mp nothing).1, messages⟩

/-- Where the reading has stopped, plain reading gives what has been taken and queued, and nothing
else is to come. -/
theorem Follows.complete (follows : session.Follows settings wire)
    (stopped : session.subscription.activity = .stopped) (later : List Delivery)
    (none : session.subscription.ended = true → later = []) :
    settings.Reads (Stream.ofDeliveries (wire ++ later))
      (session.taken ++ session.subscription.queue) := by
  obtain ⟨rfl, -, left, tracks, -⟩ := follows
  have all := tracks.complete (by rw [stopped]; rfl) later none
  rw [passedOn_of_stopped stopped] at all
  exact all

/-- An item held behind a full queue waits there while the stream delivers more or ends. -/
theorem play_of_holding (follows : session.Follows settings wire) {item : Item}
    (holding : session.subscription.activity = .holding item) {moves : List Move}
    (arrivals : ∀ move ∈ moves, move.isArrival = true) :
    (session.play moves).subscription.activity = .holding item ∧
      (session.play moves).subscription.stream.consumed =
        session.subscription.stream.consumed := by
  induction moves generalizing session wire with
  | nil => exact ⟨holding, rfl⟩
  | cons move moves ih =>
    have here := arrivals move List.mem_cons_self
    cases move with
    | close => contradiction
    | operation operation =>
      have arrives : operation.isTake = false := by simpa [Move.isArrival] using here
      obtain ⟨still, consumed⟩ := step_of_holding follows.atRest holding arrives
      obtain ⟨last, same⟩ := ih (step_follows follows operation) still
        fun other among => arrivals other (List.mem_cons_of_mem _ among)
      exact ⟨last, same.trans consumed⟩

/-- A take makes room for a failure that is held: it enters the queue, and the reading stops. -/
theorem step_of_held_failure (atRest : session.subscription.AtRest) {failure : Failure}
    (holding : session.subscription.activity = .holding (.error failure)) {operation : Operation}
    (takes : operation.isTake = true) :
    ∃ item queue, session.subscription.queue = item :: queue ∧
      session.step operation =
        ⟨{ session.subscription with
            queue := queue ++ [.error failure], activity := .stopped },
          session.taken ++ [item]⟩ := by
  have length := atRest.holding _ holding
  have positive := session.subscription.settings.capacity_pos
  have changes := session.step_changes operation
  generalize session.step operation = next at changes ⊢
  cases changes with
  | feed _ | finish => contradiction
  | idle _ empty =>
    rw [empty, List.length_nil] at length
    omega
  | @take _ item queue _ queued =>
    refine ⟨item, queue, queued, ?_⟩
    rw [queued, List.length_cons] at length
    have room : session.subscription.settings.capacity - queue.length ≠ 0 := by omega
    simp only [Subscription.settle, holding, Subscription.room, room, ↓reduceIte]

/-! ## The end -/

/-- How things stand with the end of a subscription after some moves. -/
structure Ends (settings : SubscriptionSettings) (moves : List Move) (session : Session) :
    Prop where
  /-- A failure that has been taken is the last item taken, with no other in front of it and
  nothing queued behind it. -/
  failure : ∀ failure, .error failure ∈ session.taken →
    session.subscription.queue = [] ∧
      ∃ messages : List Message, session.taken = messages.map .ok ++ [.error failure]
  /-- When the consumer has closed the subscription, the reading has stopped. -/
  closed : .close ∈ moves → session.subscription.isStopped = true
  /-- When a failure has been queued, taken since or not, the reading has stopped. -/
  failed : ∀ failure, .error failure ∈ session.taken ++ session.subscription.queue →
    session.subscription.isStopped = true
  /-- When the stream has ended and no item waits for room, the reading has stopped. -/
  exhausted : session.subscription.ended = true → session.subscription.activity.held = [] →
    session.subscription.isStopped = true
  /-- The reading has stopped for no other reason than that the subscription has been closed, or
  that plain reading gives no item behind those queued, whatever may still be delivered. -/
  cause : session.subscription.isStopped = true →
    .close ∈ moves ∨
      ∃ operations : List Operation, moves = operations.map .operation ∧
        ∀ later, (session.subscription.ended = true → later = []) →
          settings.Reads (Stream.ofDeliveries ((start settings).heard operations ++ later))
            (session.taken ++ session.subscription.queue)
  /-- A waiting consumer is told of the end when the reading has stopped and the queue is empty. -/
  ended_iff : session.subscription.next.1 = .ended ↔
    session.subscription.isStopped = true ∧ session.subscription.queue = []
  /-- A consumer that does not wait is told of the end at the same times. -/
  disconnected_iff : session.subscription.tryNext.1 = .disconnected ↔
    session.subscription.isStopped = true ∧ session.subscription.queue = []
  /-- An open subscription tells whether the reading has stopped. -/
  finished : session.subscription.isFinished? =
    if .close ∈ moves then none else some session.subscription.isStopped

/-- How things stand with the end of a subscription after any moves. -/
theorem play_ends (settings : SubscriptionSettings) (moves : List Move) :
    Ends settings moves ((start settings).play moves) := by
  have isOpen := play_isOpen (start settings) moves
  have opened : (start settings).subscription.isOpen = true := Subscription.settle_isOpen _
  have finished : ((start settings).play moves).subscription.isFinished? =
      if .close ∈ moves then none
      else some ((start settings).play moves).subscription.isStopped := by
    simp only [Subscription.isFinished?, isOpen, opened, true_and, ite_not]
  obtain ⟨operations, rfl, played⟩ | ⟨closes, operations, down⟩ :=
    play_cases (start settings) moves
  · have follows := run_follows (start_follows settings) operations
    rw [List.nil_append] at follows
    rw [played] at finished ⊢
    exact {
      failure := fun failure among => follows.taken_of_failure among
      closed := fun closes => absurd closes (by simp)
      failed := fun failure among =>
        Subscription.isStopped_iff.mpr (follows.stopped_of_failure among)
      exhausted := fun ended nothing =>
        Subscription.isStopped_iff.mpr (follows.atRest.stopped_of_ended ended nothing)
      cause := fun stopped =>
        .inr ⟨operations, rfl, follows.complete (Subscription.isStopped_iff.mp stopped)⟩
      ended_iff := Subscription.next_eq_ended_iff
      disconnected_iff := Subscription.tryNext_eq_disconnected_iff
      finished }
  · have follows := run_follows (start_follows settings) operations
    obtain ⟨taken, queue⟩ := down.of_empty rfl
    have stopped := Subscription.isStopped_iff.mpr down.stopped
    exact {
      failure := fun failure among => by
        rw [taken] at among ⊢
        exact ⟨queue, (follows.taken_of_failure among).2⟩
      closed := fun _ => stopped
      failed := fun _ _ => stopped
      exhausted := fun _ _ => stopped
      cause := fun _ => .inl closes
      ended_iff := Subscription.next_eq_ended_iff
      disconnected_iff := Subscription.tryNext_eq_disconnected_iff
      finished }

/-- A subscription of which something is held is in use. -/
theorem follows_of_holding {moves : List Move} {item : Item}
    (holding : ((start settings).play moves).subscription.activity = .holding item) :
    ∃ wire, ((start settings).play moves).Follows settings wire := by
  obtain ⟨operations, rfl, played⟩ | ⟨-, operations, down⟩ := play_cases (start settings) moves
  · rw [played]
    exact ⟨_, run_follows (start_follows settings) operations⟩
  · rw [down.stopped] at holding
    contradiction

/-- What a subscription that is not closed has passed on is taken before its consumer is told of
the end. -/
theorem passedOn_isPrefix_taken {moves : List Move} (inUse : .close ∉ moves)
    (stopped : (session.play moves).subscription.activity = .stopped)
    (empty : (session.play moves).subscription.queue = []) :
    session.passedOn <+: (session.play moves).taken := by
  obtain ⟨operations, rfl, played⟩ | ⟨closes, -⟩ := play_cases session moves
  · rw [played] at stopped empty ⊢
    have all := session.run_passedOn operations
    rw [passedOn_of_stopped stopped, empty, List.append_nil] at all
    exact all
  · exact absurd closes inUse

/-- How things stand with the end of a subscription after some moves and after more of them. -/
structure EndsFinally (settings : SubscriptionSettings) (before after : List Move)
    (session later : Session) : Prop extends Ends settings before session where
  /-- Behind a failure no item is taken. -/
  last : ∀ failure, .error failure ∈ session.taken → later.taken = session.taken
  /-- Once the reading has stopped, it is not taken up again, and no byte is taken. -/
  released : session.subscription.isStopped = true →
    later.subscription.isStopped = true ∧
      later.subscription.stream.consumed = session.subscription.stream.consumed
  /-- A consumer that has been told of the end is told so for ever. -/
  forever : session.subscription.isStopped = true → session.subscription.queue = [] →
    later.subscription.next.1 = .ended ∧ later.subscription.tryNext.1 = .disconnected
  /-- Unless the subscription is closed, the consumer takes what has been read before it is told of
  the end; and when the reading has stopped already, that is all it takes. -/
  drained : .close ∉ before ++ after →
    later.subscription.next.1 = .ended ∨ later.subscription.tryNext.1 = .disconnected →
    session.passedOn <+: later.taken ∧
      (session.subscription.isStopped = true →
        later.taken = session.taken ++ session.subscription.queue)
  /-- A subscription that has been finished is never unfinished. -/
  settled : session.subscription.isFinished? = some true →
    later.subscription.isFinished? ≠ some false
  /-- A failure that waits for room keeps the reading from stopping while the stream delivers more
  or ends. -/
  waits : ∀ failure, session.subscription.activity = .holding (.error failure) →
    (∀ move ∈ after, move.isArrival = true) →
    later.subscription.activity = .holding (.error failure) ∧
      later.subscription.isStopped = false
  /-- Such a failure enters the queue, and the reading stops, when the consumer takes an item. -/
  admitted : ∀ failure, session.subscription.activity = .holding (.error failure) →
    ∀ operation : Operation, operation.isTake = true →
    ∃ item queue, session.subscription.queue = item :: queue ∧
      session.step operation =
        ⟨{ session.subscription with
            queue := queue ++ [.error failure], activity := .stopped },
          session.taken ++ [item]⟩

/-- A subscription ends once and for all, whatever is done before and after. -/
theorem play_endsFinally (settings : SubscriptionSettings) (before after : List Move) :
    EndsFinally settings before after ((start settings).play before)
      ((start settings).play (before ++ after)) := by
  have ends := play_ends settings before
  have laterEnds := play_ends settings (before ++ after)
  have holding (item : Item)
      (held : ((start settings).play before).subscription.activity = .holding item) :
      ∃ wire, ((start settings).play before).Follows settings wire := follows_of_holding held
  rw [play_append] at laterEnds ⊢
  generalize (start settings).play before = session at ends laterEnds holding ⊢
  have down (stopped : session.subscription.isStopped = true) :
      session.RunsDown (session.play after) :=
    play_runsDown (Subscription.isStopped_iff.mp stopped) after
  have released (stopped : session.subscription.isStopped = true) :
      (session.play after).subscription.isStopped = true :=
    Subscription.isStopped_iff.mpr (down stopped).stopped
  have ended (told : (session.play after).subscription.next.1 = .ended ∨
        (session.play after).subscription.tryNext.1 = .disconnected) :
      (session.play after).subscription.isStopped = true ∧
        (session.play after).subscription.queue = [] :=
    told.elim laterEnds.ended_iff.mp laterEnds.disconnected_iff.mp
  refine { ends with
    last := fun failure among => ?_
    released := fun stopped => ⟨released stopped, (down stopped).consumed⟩
    forever := fun stopped empty => ?_
    drained := fun inUse told => ?_
    settled := fun finished => ?_
    waits := fun failure held arrivals => ?_
    admitted := fun failure held operation takes => ?_ }
  · have stopped := ends.failed failure (List.mem_append_left _ among)
    exact ((down stopped).of_empty (ends.failure failure among).1).1
  · have queue := ((down stopped).of_empty empty).2
    exact ⟨laterEnds.ended_iff.mpr ⟨released stopped, queue⟩,
      laterEnds.disconnected_iff.mpr ⟨released stopped, queue⟩⟩
  · obtain ⟨stopped, empty⟩ := ended told
    have all := passedOn_isPrefix_taken
      (fun closes => inUse (List.mem_append_right before closes))
      (Subscription.isStopped_iff.mp stopped) empty
    refine ⟨all, fun already => ?_⟩
    -- Behind the stop nothing is queued any more, so what has been passed on is also all there is.
    have most := (down already).items
    rw [passedOn_of_stopped (Subscription.isStopped_iff.mp already)] at all
    rw [empty, List.append_nil] at most
    exact most.eq_of_length (Nat.le_antisymm most.length_le all.length_le)
  · have stopped : session.subscription.isStopped = true := by
      rw [ends.finished] at finished
      split at finished
      · contradiction
      · exact Option.some.inj finished
    rw [laterEnds.finished, released stopped]
    split <;> simp
  · obtain ⟨wire, follows⟩ := holding _ held
    have still := (play_of_holding follows held arrivals).1
    exact ⟨still, by rw [Subscription.isStopped, still]⟩
  · obtain ⟨wire, follows⟩ := holding _ held
    exact step_of_held_failure follows.atRest held takes

/-- A message and a frame that cannot be read arrive in front of a queue for one item, and then the
stream ends. The failure is held until the consumer takes the message; taken itself, it is the last
item. -/
theorem play_endsFinally_behind_held_failure :
    let frame : Bytes :=
      [13, 0, 0, 0, 0, 0, 0, 0, 0, 0, 0, 0, 1, 0, 11, 0, 0, 0, 0, 0, 0, 0, 1, 0, 192]
    let settings := SubscriptionSettings.withCapacity ⟨{}, 32, by decide⟩ 1
    let before : List Move :=
      [.operation (.feed (.chunk (frame ++ frame.set 12 9))), .operation .finish]
    let after : List Move :=
      [.operation .next, .operation .tryNext, .operation .next, .close]
    let session := (start settings).play before
    let later := (start settings).play (before ++ after)
    session.subscription.isStopped = false ∧ session.subscription.activity.held.length = 1 ∧
      later.subscription.isStopped = true ∧ later.taken.length = 2 ∧
      later.subscription.stream.consumed = 50 ∧
      EndsFinally settings before after session later :=
  ⟨by decide, by decide, by decide, by decide, by decide, play_endsFinally _ _ _⟩

end Session

end BrokerWire

import BrokerWire.Proofs.Subscription.Position

/-!
# How far a subscription reads ahead

A subscription has never more items ahead of its consumer than its queue holds and one. While the
queue is full and an item is held, nothing more is taken from the stream, so that the bytes taken
are exactly those of the items passed on. Only while it waits for the rest of a frame has the
subscription taken more, and then it is the part of that frame that has arrived.
-/
namespace BrokerWire

namespace Subscription

/-- A subscription that holds an item behind a full queue is at rest. -/
theorem settle_of_full {subscription : Subscription} {item : Item}
    (holding : subscription.activity = .holding item) (full : subscription.room = 0) :
    subscription.settle = subscription := by
  rw [settle, holding]
  simp only [full, ↓reduceIte]

/-- Coming to rest does not bring the reading back. -/
theorem settle_isOver {subscription : Subscription}
    (isOver : subscription.activity.isOver = true) :
    subscription.settle.activity.isOver = true := by
  rw [settle]
  cases activity : subscription.activity with
  | reading stage => simp [activity, Activity.isOver] at isOver
  | stopped => simp only [activity, Activity.isOver]
  | holding item =>
    cases item with
    | ok message => simp [activity, Activity.isOver] at isOver
    | error failure =>
      simp only
      split
      · rw [activity]
        rfl
      · rfl

end Subscription

namespace Session

variable {settings : SubscriptionSettings} {session : Session}

/-- Where no more will be read, no operation brings the reading back. -/
theorem step_isOver (isOver : session.subscription.activity.isOver = true) (operation : Operation) :
    (session.step operation).subscription.activity.isOver = true := by
  have changes := session.step_changes operation
  generalize session.step operation = next at changes ⊢
  cases changes with
  | feed delivery => exact Subscription.settle_isOver isOver
  | finish => exact Subscription.settle_isOver isOver
  | idle takes empty => exact isOver
  | take takes queued => exact Subscription.settle_isOver isOver

/-- Where no more will be read, no operations bring the reading back. -/
theorem run_isOver (isOver : session.subscription.activity.isOver = true)
    (operations : List Operation) :
    (session.run operations).subscription.activity.isOver = true := by
  induction operations generalizing session with
  | nil => exact isOver
  | cons operation operations ih => exact ih (step_isOver isOver operation)

/-- What is delivered by an operation in front of others, and by those. -/
theorem deliveries_cons (operation : Operation) (operations : List Operation) :
    Operation.deliveries (operation :: operations) =
      operation.delivery?.toList ++ Operation.deliveries operations := by
  cases delivered : operation.delivery? <;> simp [Operation.deliveries, delivered]

/-- Whoever may still read more has heard everything. -/
theorem heard_of_going (operations : List Operation)
    (going : (session.run operations).subscription.activity.isOver = false) :
    session.heard operations = Operation.deliveries operations := by
  induction operations generalizing session with
  | nil => rfl
  | cons operation operations ih =>
    have hears : session.isDeaf = false := by
      cases isOver : session.subscription.activity.isOver with
      | false => simp [isDeaf, isOver]
      | true =>
        have still := run_isOver isOver (operation :: operations)
        rw [going] at still
        contradiction
    have others := ih going
    simp only [heard, hears, deliveries_cons, others, Bool.false_eq_true, ↓reduceIte]

/-- Where nothing is delivered behind the end of the stream, everything is heard. -/
theorem heard_of_feedsBeforeEnd {operations : List Operation}
    (ordered : Operation.FeedsBeforeEnd operations)
    (silent : session.subscription.ended = true →
      ∀ operation ∈ operations, operation.delivery? = none) :
    session.heard operations = Operation.deliveries operations := by
  induction operations generalizing session with
  | nil => rfl
  | cons operation operations ih =>
    obtain ⟨behind, ordered⟩ := List.pairwise_cons.mp ordered
    have others : (session.step operation).heard operations = Operation.deliveries operations :=
      ih ordered fun ended other among => by
        obtain before | now := (step_ended session operation).mp ended
        · exact silent before other (List.mem_cons_of_mem _ among)
        · exact behind other among now
    have here : (if session.isDeaf then [] else operation.delivery?.toList) =
        operation.delivery?.toList := by
      split
      · rename_i deaf
        have ended := (Bool.and_eq_true_iff.mp deaf).2
        rw [silent ended operation List.mem_cons_self]
        rfl
      · rfl
    rw [heard, here, others, deliveries_cons]

/-- Behind a full queue nothing is taken from the stream while it delivers more or ends. -/
theorem step_of_holding {item : Item} (atRest : session.subscription.AtRest)
    (holding : session.subscription.activity = .holding item) {operation : Operation}
    (arrives : operation.isTake = false) :
    (session.step operation).subscription.activity = .holding item ∧
      (session.step operation).subscription.stream.consumed =
        session.subscription.stream.consumed := by
  have length := atRest.holding item holding
  have full : session.subscription.room = 0 := by
    rw [Subscription.room, length, Nat.sub_self]
  have changes := session.step_changes operation
  generalize session.step operation = next at changes ⊢
  cases changes with
  | feed delivery =>
    let fed : Subscription :=
      { session.subscription with stream := session.subscription.stream.feed delivery }
    have still : fed.settle = fed := Subscription.settle_of_full holding full
    rw [still]
    exact ⟨holding, rfl⟩
  | finish =>
    let finished : Subscription := { session.subscription with ended := true }
    have still : finished.settle = finished := Subscription.settle_of_full holding full
    rw [still]
    exact ⟨holding, rfl⟩
  | idle takes _ | take takes _ =>
    rw [takes] at arrives
    contradiction

/-- Where a subscription waits, it has taken what plain reading left of the stream. -/
theorem consumed_of_waiting {left stream : Stream} {stage : Stage}
    (waits : settings.proceed .start left = (.waiting stage, stream))
    (last : stream.deliveries = []) :
    stream.consumed = left.consumed + left.remaining.length := by
  obtain ⟨taken, after, -⟩ := settings.readHeader_leftAfter [] left
  have reached : settings.readHeader [] left = (.waiting stage, stream) := waits
  rw [reached] at after
  have nothing : stream.remaining = [] := by simp [Stream.remaining, last]
  rw [after.consumed, after.remaining, nothing, List.append_nil]

/-- What plain reading takes and what it leaves is all that a stream brings. -/
theorem consumed_add_remaining {wire : List Delivery} {items : List Item} {left : Stream}
    (first : settings.FirstItems (Stream.ofDeliveries wire) items left) :
    left.consumed + left.remaining.length = (Stream.ofDeliveries wire).remaining.length := by
  obtain ⟨taken, after⟩ :=
    MessageSettings.readUpTo_leftAfter settings.toMessageSettings items.length
      (Stream.ofDeliveries wire)
  have read : settings.readUpTo items.length (Stream.ofDeliveries wire) = (items, left) := first
  rw [read] at after
  rw [after.consumed, after.length_eq]
  exact congrArg (· + left.remaining.length) (Nat.zero_add _)

/-- How far a subscription reads ahead of its consumer, after some operations. -/
structure ReadsAhead (settings : SubscriptionSettings) (operations : List Operation)
    (session : Session) : Prop where
  /-- The queue is not over its capacity. -/
  within : session.subscription.queue.length ≤ settings.capacity
  /-- An item is held behind a full queue only. -/
  holding : ∀ item, session.subscription.activity = .holding item →
    session.subscription.queue.length = settings.capacity
  /-- So there is one item more than the capacity ahead of the consumer at most. -/
  ahead : (session.subscription.queue ++ session.subscription.activity.held).length ≤
    settings.capacity + 1
  /-- While an item is held, nothing is taken from the stream when it delivers more or ends. -/
  paused : ∀ item, session.subscription.activity = .holding item →
    ∀ operation : Operation, operation.isTake = false →
      (session.step operation).subscription.activity = .holding item ∧
        (session.step operation).subscription.stream.consumed =
          session.subscription.stream.consumed
  /-- While the reading goes on and holds nothing, every byte delivered has been taken. -/
  caughtUp : ∀ stage, session.subscription.activity = .reading stage →
    session.subscription.stream.consumed =
      (Stream.ofDeliveries (Operation.deliveries operations)).remaining.length
  /-- The bytes taken are those that plain reading takes to give the items taken, queued and held,
  and, while the next frame is waited for, the part of it that has arrived. -/
  plain : ∃ left,
    settings.FirstItems (Stream.ofDeliveries ((start settings).heard operations))
        session.passedOn left ∧
      match session.subscription.activity with
      | .reading stage =>
        settings.proceed .start left = (.waiting stage, session.subscription.stream) ∧
          session.subscription.stream.consumed = left.consumed + left.remaining.length
      | .holding _ | .stopped => session.subscription.stream.consumed = left.consumed
  /-- Plain reading is of everything delivered, unless something is delivered behind the end of the
  stream when no more of it will be read. -/
  heard : Operation.FeedsBeforeEnd operations ∨
      session.subscription.activity.isOver = false →
    (start settings).heard operations = Operation.deliveries operations

/-- After any operations, a subscription has read ahead within its bounds and no further. -/
theorem run_readsAhead (settings : SubscriptionSettings) (operations : List Operation) :
    ReadsAhead settings operations ((start settings).run operations) := by
  have follows := run_follows (start_follows settings) operations
  have going : ((start settings).run operations).subscription.activity.isOver = false →
      (start settings).heard operations = Operation.deliveries operations :=
    heard_of_going operations
  have live : (start settings).subscription.ended = false := Subscription.settle_ended _
  rw [List.nil_append] at follows
  generalize (start settings).run operations = session at follows going
  obtain ⟨opened, atRest, left, tracks, rests⟩ := follows
  have within := atRest.within
  have holding := atRest.holding
  have first := tracks.items [] fun _ _ => rfl
  rw [opened] at within holding first rests
  rw [List.append_nil, Stream.append_nil] at first
  have waits (stage : Stage) (reading : session.subscription.activity = .reading stage) :
      settings.proceed .start left = (.waiting stage, session.subscription.stream) ∧
        session.subscription.stream.consumed = left.consumed + left.remaining.length := by
    rw [reading] at rests
    exact ⟨rests, consumed_of_waiting rests (atRest.reading stage reading).2⟩
  refine ⟨within, holding, ?_, ?_, fun stage reading => ?_, ⟨left, first, ?_⟩, ?_⟩
  · rw [List.length_append]
    cases session.subscription.activity with
    | holding item => exact Nat.add_le_add_right within 1
    | reading _ | stopped => exact Nat.le_succ_of_le within
  · exact fun item held operation arrives => step_of_holding atRest held arrives
  · rw [(waits stage reading).2, consumed_add_remaining first, going (by rw [reading]; rfl)]
  · cases activity : session.subscription.activity with
    | reading stage => exact waits stage activity
    | holding item =>
      rw [activity] at rests
      cases item with
      | ok message => exact congrArg Stream.consumed rests
      | error failure => exact rests
    | stopped =>
      rw [activity] at rests
      exact rests
  · rintro (ordered | still)
    · exact heard_of_feedsBeforeEnd ordered (by simp [live])
    · exact going still

/-- Three frames arrive at once in front of a queue for one item, and a part of a fourth one behind
the end of the stream. When the consumer has taken one message, one is queued and one is held, and
nothing of the fourth frame has been taken. -/
theorem run_readsAhead_behind_full_queue :
    let frame : Bytes :=
      [13, 0, 0, 0, 0, 0, 0, 0, 0, 0, 0, 0, 1, 0, 11, 0, 0, 0, 0, 0, 0, 0, 1, 0, 192]
    let settings := SubscriptionSettings.withCapacity ⟨{}, 32, by decide⟩ 1
    let operations : List Operation := [.feed (.chunk (frame ++ frame ++ frame)), .finish,
      .feed (.chunk (frame.take 4)), .next]
    let session := (start settings).run operations
    session.taken.length = 1 ∧ session.subscription.queue.length = 1 ∧
      session.subscription.activity.held.length = 1 ∧
      session.subscription.stream.consumed = 75 ∧ ReadsAhead settings operations session :=
  ⟨by decide, by decide, by decide, by decide, run_readsAhead _ _⟩

end Session

end BrokerWire

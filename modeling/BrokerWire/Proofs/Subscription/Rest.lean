import BrokerWire.Proofs.Stream.Items
import BrokerWire.Subscription.Basic

/-!
# Subscriptions at rest

What a subscription holds and what it will still read are together the items ahead of its
consumer. Bringing a subscription to rest moves items towards the consumer and changes none of
them. At rest the queue is never over its capacity, an item is held only behind a full queue, and
the reading side waits only for deliveries that have not arrived.
-/
namespace BrokerWire

/-- The item that the reading side holds, if any. -/
def Activity.held : Activity → List Item
  | .holding item => [item]
  | .reading _ | .stopped => []

/-- The items that have not entered the queue: the one held, and those still to be read. -/
def Activity.coming (settings : MessageSettings) (stream : Stream) : Activity → List Item
  | .reading stage => settings.itemsFrom stage stream
  | .holding (.ok message) => .ok message :: settings.itemsFrom .start stream
  | .holding (.error failure) => [.error failure]
  | .stopped => []

/-- The held item is the first to enter the queue. -/
theorem Activity.held_isPrefix_coming (settings : MessageSettings) (stream : Stream)
    (activity : Activity) : activity.held <+: activity.coming settings stream := by
  match activity with
  | .reading _ | .stopped => exact List.nil_prefix
  | .holding (.ok message) => exact ⟨_, rfl⟩
  | .holding (.error failure) => exact List.prefix_rfl

/-- A turn of reading neither loses nor alters an item: what it queues comes first, and what is
held or still to be read comes behind. -/
theorem Turn.run_coming (settings : MessageSettings) (ended : Bool) (room : Nat) (stage : Stage)
    (stream : Stream) (later : List Delivery) (last : ended = true → later = []) :
    let turn := Turn.run settings ended room stage stream
    turn.items ++ turn.activity.coming settings (turn.stream.append later) =
      settings.itemsFrom stage (stream.append later) := by
  induction room generalizing stage stream with
  | zero =>
    rw [settings.itemsFrom_append ended stage stream later last, Turn.run]
    cases settings.proceedUntilEnd ended stage stream with
    | mk progress left =>
      match progress with
      | .waiting _ | .done (.ok none) | .done (.error _) | .done (.ok (some _)) => rfl
  | succ room ih =>
    rw [settings.itemsFrom_append ended stage stream later last, Turn.run]
    cases settings.proceedUntilEnd ended stage stream with
    | mk progress left =>
      match progress with
      | .waiting _ | .done (.ok none) | .done (.error _) => rfl
      | .done (.ok (some message)) => exact congrArg (.ok message :: ·) (ih .start left)

/-- How a turn of reading ends: within its room, holding an item only when the room is used up, and
waiting only for deliveries that have not arrived. -/
structure Turn.Ends (ended : Bool) (room : Nat) (turn : Turn) : Prop where
  /-- Not more is queued than there is room for. -/
  within : turn.items.length ≤ room
  /-- An item is held behind a full queue only. -/
  holding : ∀ item, turn.activity = .holding item → turn.items.length = room
  /-- The deliveries have run out, and there may be more. -/
  reading : ∀ stage, turn.activity = .reading stage → ended = false ∧ turn.stream.deliveries = []

/-- Every turn of reading ends so. -/
theorem Turn.run_ends (settings : MessageSettings) (ended : Bool) (room : Nat) (stage : Stage)
    (stream : Stream) : (Turn.run settings ended room stage stream).Ends ended room := by
  induction room generalizing stage stream with
  | zero =>
    rw [Turn.run]
    cases reached : settings.proceedUntilEnd ended stage stream with
    | mk progress left =>
      match progress with
      | .waiting _ => exact ⟨Nat.zero_le _, by simp, fun _ _ => settings.waiting_rest reached⟩
      | .done (.ok none) | .done (.error _) | .done (.ok (some _)) =>
        exact ⟨Nat.zero_le _, by simp, by simp⟩
  | succ room ih =>
    rw [Turn.run]
    cases reached : settings.proceedUntilEnd ended stage stream with
    | mk progress left =>
      match progress with
      | .waiting _ => exact ⟨Nat.zero_le _, by simp, fun _ _ => settings.waiting_rest reached⟩
      | .done (.ok none) | .done (.error _) => exact ⟨by simp, by simp, by simp⟩
      | .done (.ok (some message)) =>
        obtain ⟨within, holding, reading⟩ := ih .start left
        refine ⟨Nat.succ_le_succ within, fun item held => ?_, reading⟩
        exact congrArg Nat.succ (holding item held)

namespace Subscription

/-- The items ahead of the consumer, when the stream delivers these things more. -/
def ahead (subscription : Subscription) (later : List Delivery) : List Item :=
  subscription.queue ++ subscription.activity.coming subscription.settings.toMessageSettings
    (subscription.stream.append later)

/-- Reading on keeps the items ahead. -/
theorem readFrom_ahead (subscription : Subscription) (stage : Stage) (later : List Delivery)
    (last : subscription.ended = true → later = []) :
    (subscription.readFrom stage).ahead later =
      subscription.queue ++ subscription.settings.itemsFrom stage
        (subscription.stream.append later) := by
  rw [← Turn.run_coming subscription.settings.toMessageSettings subscription.ended
    subscription.room stage subscription.stream later last]
  simp only [ahead, readFrom, List.append_assoc]

/-- Coming to rest keeps the items ahead. -/
theorem settle_ahead (subscription : Subscription) (later : List Delivery)
    (last : subscription.ended = true → later = []) :
    subscription.settle.ahead later = subscription.ahead later := by
  rw [settle]
  split
  · rfl
  · rename_i stage reading
    rw [readFrom_ahead _ _ _ last]
    simp only [ahead, reading, Activity.coming]
  · rename_i item holding
    split
    · rfl
    cases item with
    | error failure => simp [ahead, holding, Activity.coming]
    | ok message =>
      have reads := readFrom_ahead
        { subscription with queue := subscription.queue ++ [.ok message] } .start later last
      exact reads.trans (by simp [ahead, holding, Activity.coming])

/-- What a subscription keeps to between operations. -/
structure AtRest (subscription : Subscription) : Prop where
  /-- The queue is not over its capacity. -/
  within : subscription.queue.length ≤ subscription.settings.capacity
  /-- An item is held behind a full queue only. -/
  holding : ∀ item, subscription.activity = .holding item →
    subscription.queue.length = subscription.settings.capacity
  /-- The deliveries have run out, and there may be more. -/
  reading : ∀ stage, subscription.activity = .reading stage →
    subscription.ended = false ∧ subscription.stream.deliveries = []

/-- At the end of the stream the reading has stopped, unless an item waits for room. -/
theorem AtRest.stopped_of_ended {subscription : Subscription} (atRest : subscription.AtRest)
    (ended : subscription.ended = true) (nothing : subscription.activity.held = []) :
    subscription.activity = .stopped := by
  cases activity : subscription.activity with
  | reading stage =>
    have live := (atRest.reading stage activity).1
    rw [ended] at live
    contradiction
  | holding item => simp [activity, Activity.held] at nothing
  | stopped => rfl

/-- Reading on ends at rest. -/
theorem readFrom_atRest (subscription : Subscription) (stage : Stage)
    (within : subscription.queue.length ≤ subscription.settings.capacity) :
    (subscription.readFrom stage).AtRest := by
  have ends := Turn.run_ends subscription.settings.toMessageSettings subscription.ended
    subscription.room stage subscription.stream
  have full : subscription.queue.length + subscription.room = subscription.settings.capacity := by
    simp only [room]
    omega
  constructor
  · have fits := ends.within
    simp only [readFrom, List.length_append]
    omega
  · intro item held
    have used := ends.holding item held
    simp only [readFrom, List.length_append]
    omega
  · exact fun stage waits => ends.reading stage waits

/-- Every subscription whose queue is not over its capacity comes to rest. -/
theorem settle_atRest (subscription : Subscription)
    (within : subscription.queue.length ≤ subscription.settings.capacity) :
    subscription.settle.AtRest := by
  rw [settle]
  split
  · rename_i stopped
    exact ⟨within, by simp [stopped], by simp [stopped]⟩
  · exact readFrom_atRest _ _ within
  · rename_i item holding
    split
    · rename_i none
      refine ⟨within, fun _ _ => ?_, by simp [holding]⟩
      simp only [room] at none
      omega
    · rename_i some
      have fits : (subscription.queue ++ [item]).length ≤ subscription.settings.capacity := by
        simp only [room, List.length_append, List.length_singleton] at some ⊢
        omega
      cases item with
      | error failure => exact ⟨fits, by simp, by simp⟩
      | ok message => exact readFrom_atRest _ _ fits

/-- Coming to rest moves items and reads the stream, and changes nothing else. -/
theorem settle_changes (subscription : Subscription) :
    ∃ queue activity stream,
      subscription.settle = { subscription with queue, activity, stream } := by
  rw [settle]
  split
  · exact ⟨_, _, _, rfl⟩
  · exact ⟨_, _, _, rfl⟩
  · split
    · exact ⟨_, _, _, rfl⟩
    · split <;> exact ⟨_, _, _, rfl⟩

/-- Coming to rest keeps what the subscription was opened with. -/
@[simp] theorem settle_settings (subscription : Subscription) :
    subscription.settle.settings = subscription.settings := by
  obtain ⟨queue, activity, stream, same⟩ := subscription.settle_changes
  rw [same]

/-- Coming to rest does not end the stream. -/
@[simp] theorem settle_ended (subscription : Subscription) :
    subscription.settle.ended = subscription.ended := by
  obtain ⟨queue, activity, stream, same⟩ := subscription.settle_changes
  rw [same]

/-- Coming to rest neither opens nor closes a subscription. -/
@[simp] theorem settle_isOpen (subscription : Subscription) :
    subscription.settle.isOpen = subscription.isOpen := by
  obtain ⟨queue, activity, stream, same⟩ := subscription.settle_changes
  rw [same]

/-- The reading has stopped exactly when that is what it is doing. -/
theorem isStopped_iff {subscription : Subscription} :
    subscription.isStopped = true ↔ subscription.activity = .stopped := by
  rw [isStopped]
  cases subscription.activity <;> simp

/-- A waiting consumer is told of the end exactly when the reading has stopped and the queue is
empty. -/
theorem next_eq_ended_iff {subscription : Subscription} :
    subscription.next.1 = .ended ↔ subscription.isStopped = true ∧ subscription.queue = [] := by
  rw [next]
  cases subscription.queue with
  | nil => cases subscription.isStopped <;> simp
  | cons item queue => simp

/-- A consumer that does not wait is told of the end exactly then. -/
theorem tryNext_eq_disconnected_iff {subscription : Subscription} :
    subscription.tryNext.1 = .disconnected ↔
      subscription.isStopped = true ∧ subscription.queue = [] := by
  rw [tryNext]
  cases subscription.queue with
  | nil => cases subscription.isStopped <;> simp
  | cons item queue => cases subscription.isStopped <;> simp

end Subscription

end BrokerWire

import BrokerWire.Stream.MessageReader

/-!
# Subscriptions

A subscription reads a stream ahead of its consumer. What it has read stands in a queue of bounded
capacity; an item that does not fit is held until the consumer makes room, and nothing more is
read meanwhile. A failure is passed on once and ends the reading, as the clean end of the stream
does. Every operation leaves the subscription at rest: waiting for deliveries, holding an item, or
stopped.
-/
namespace BrokerWire

/-- What a subscription passes on: a message, or the failure that ends it. -/
abbrev Item := Except Failure Message

/-- What a subscription is opened with. -/
structure SubscriptionSettings extends MessageSettings where
  /-- How many items the queue holds. -/
  capacity : Nat := 32
  /-- The queue holds at least one item. -/
  capacity_pos : 0 < capacity := by decide

/-- Set the capacity of the queue; it is at least one. -/
def SubscriptionSettings.withCapacity (settings : SubscriptionSettings) (capacity : Nat) :
    SubscriptionSettings :=
  { settings with capacity := max 1 capacity, capacity_pos := by omega }

/-- What the reading side is doing. -/
inductive Activity where
  /-- It waits for deliveries. -/
  | reading (stage : Stage)
  /-- It holds an item that does not fit into the queue. -/
  | holding (item : Item)
  /-- It has stopped and let go of the stream. -/
  | stopped

/-- A subscription. -/
structure Subscription where
  /-- What it was opened with. -/
  settings : SubscriptionSettings
  /-- The stream it reads. -/
  stream : Stream
  /-- The stream ends behind its deliveries; otherwise more may come. -/
  ended : Bool
  /-- Items read and not yet taken, oldest first. -/
  queue : List Item
  /-- What the reading side is doing. -/
  activity : Activity
  /-- The consumer has not closed it. -/
  isOpen : Bool

/-- What a turn of reading comes to. -/
structure Turn where
  /-- Items put into the queue, oldest first. -/
  items : List Item
  /-- What the reading side is doing then. -/
  activity : Activity
  /-- The stream as the turn left it. -/
  stream : Stream

/-- Read until the queue has no room for an item, the deliveries run out, or there is no more to
read. A message that fits is put into the queue and reading goes on; a failure that fits is the
last item. -/
def Turn.run (settings : MessageSettings) (ended : Bool) : Nat → Stage → Stream → Turn
  | room, stage, stream =>
    match settings.proceedUntilEnd ended stage stream with
    | (.waiting stage, stream) => ⟨[], .reading stage, stream⟩
    | (.done (.ok none), stream) => ⟨[], .stopped, stream⟩
    | (.done (.error failure), stream) =>
      match room with
      | 0 => ⟨[], .holding (.error failure), stream⟩
      | _ + 1 => ⟨[.error failure], .stopped, stream⟩
    | (.done (.ok (some message)), stream) =>
      match room with
      | 0 => ⟨[], .holding (.ok message), stream⟩
      | room + 1 =>
        let turn := Turn.run settings ended room .start stream
        { turn with items := .ok message :: turn.items }

namespace Subscription

/-- How many more items the queue holds. -/
def room (subscription : Subscription) : Nat :=
  subscription.settings.capacity - subscription.queue.length

/-- Read on from a stage. -/
def readFrom (subscription : Subscription) (stage : Stage) : Subscription :=
  let turn := Turn.run subscription.settings.toMessageSettings subscription.ended subscription.room
    stage subscription.stream
  { subscription with
    queue := subscription.queue ++ turn.items
    activity := turn.activity
    stream := turn.stream }

/-- Bring a subscription to rest. An item that was held is put into the queue as soon as it fits,
and a failure among them is the last. -/
def settle (subscription : Subscription) : Subscription :=
  match subscription.activity with
  | .stopped => subscription
  | .reading stage => subscription.readFrom stage
  | .holding item =>
    if subscription.room = 0 then subscription
    else
      let queued := { subscription with queue := subscription.queue ++ [item] }
      match item with
      | .error _ => { queued with activity := .stopped }
      | .ok _ => queued.readFrom .start

/-- Open a subscription on a stream that has not ended yet. -/
def subscribe (settings : SubscriptionSettings) (stream : Stream) : Subscription :=
  settle {
    settings
    stream
    ended := false
    queue := []
    activity := .reading .start
    isOpen := true }

/-- The stream delivers more. -/
def feed (subscription : Subscription) (delivery : Delivery) : Subscription :=
  settle { subscription with stream := subscription.stream.feed delivery }

/-- The stream ends behind its deliveries. -/
def finish (subscription : Subscription) : Subscription :=
  settle { subscription with ended := true }

/-- What a consumer gets that is ready to wait. -/
inductive Awaited where
  /-- The oldest item. -/
  | item (item : Item)
  /-- There is no further item and there will be none. -/
  | ended
  /-- There is no item yet. -/
  | pending

/-- What a consumer gets that is not ready to wait. -/
inductive Polled where
  /-- The oldest item. -/
  | item (item : Item)
  /-- There is no item yet. -/
  | empty
  /-- There is no further item and there will be none. -/
  | disconnected

/-- The reading has stopped. -/
def isStopped (subscription : Subscription) : Bool :=
  match subscription.activity with
  | .stopped => true
  | _ => false

/-- Take the oldest item, or wait for one while there may be one. -/
def next (subscription : Subscription) : Awaited × Subscription :=
  match subscription.queue with
  | item :: queue => (.item item, settle { subscription with queue })
  | [] => (if subscription.isStopped then .ended else .pending, subscription)

/-- Take the oldest item if there is one. -/
def tryNext (subscription : Subscription) : Polled × Subscription :=
  match subscription.isStopped, subscription.queue with
  | true, [] => (.disconnected, subscription)
  | false, [] => (.empty, subscription)
  | _, item :: queue => (.item item, settle { subscription with queue })

/-- Stop the reading and discard what has not been taken. -/
def close (subscription : Subscription) : Subscription :=
  { subscription with queue := [], activity := .stopped, isOpen := false }

/-- Whether the reading has stopped, as an open subscription tells. -/
def isFinished? (subscription : Subscription) : Option Bool :=
  if subscription.isOpen then some subscription.isStopped else none

end Subscription

end BrokerWire

import BrokerWire.Proofs.Subscription.Rest

/-!
# Sessions with a subscription

A session is a run of operations on an open subscription: the stream delivers, it ends, and the
consumer takes items, in any order. At every moment what the consumer has taken, what is queued and
what is held are the first items of the whole stream, and once the stream has ended a consumer that
goes on taking gets all of them and then the end.
-/
namespace BrokerWire

/-- What can happen to an open subscription. -/
inductive Operation where
  /-- The stream delivers more. -/
  | feed (delivery : Delivery)
  /-- The stream ends behind its deliveries. -/
  | finish
  /-- The consumer is ready to wait for an item. -/
  | next
  /-- The consumer takes an item if there is one. -/
  | tryNext
  deriving DecidableEq, Repr

namespace Operation

/-- What the stream delivers by an operation. -/
def delivery? : Operation → Option Delivery
  | feed delivery => some delivery
  | finish | next | tryNext => none

/-- The consumer asks for an item. -/
def isTake : Operation → Bool
  | next | tryNext => true
  | feed _ | finish => false

/-- Nothing is delivered by an operation of the consumer. -/
theorem delivery?_of_isTake {operation : Operation} (takes : operation.isTake = true) :
    operation.delivery? = none := by
  cases operation with
  | feed _ | finish => contradiction
  | next | tryNext => rfl

/-- The stream does not end by an operation of the consumer. -/
theorem ne_finish_of_isTake {operation : Operation} (takes : operation.isTake = true) :
    operation ≠ finish := by
  rintro rfl
  contradiction

/-- What the stream delivers by several operations, in order. -/
def deliveries (operations : List Operation) : List Delivery := operations.filterMap delivery?

/-- What is delivered by operations one after the other. -/
theorem deliveries_append (before after : List Operation) :
    deliveries (before ++ after) = deliveries before ++ deliveries after :=
  List.filterMap_append

/-- Nothing is delivered once the stream has ended. -/
def FeedsBeforeEnd (operations : List Operation) : Prop :=
  operations.Pairwise fun earlier later => earlier = finish → later.delivery? = none

instance (operations : List Operation) : Decidable (FeedsBeforeEnd operations) :=
  inferInstanceAs (Decidable (operations.Pairwise _))

end Operation

/-- The item that a waiting consumer gets, if any. -/
def Subscription.Awaited.items : Subscription.Awaited → List Item
  | item found => [found]
  | ended | pending => []

/-- The item that a consumer gets without waiting, if any. -/
def Subscription.Polled.items : Subscription.Polled → List Item
  | item found => [found]
  | empty | disconnected => []

/-- A subscription and what its consumer has taken, oldest first. -/
structure Session where
  /-- The subscription after the operations so far. -/
  subscription : Subscription
  /-- The items that the consumer has taken. -/
  taken : List Item

namespace Session

/-- A subscription has been opened on a stream that has delivered nothing yet. -/
def start (settings : SubscriptionSettings) : Session :=
  ⟨Subscription.subscribe settings (Stream.ofDeliveries []), []⟩

/-- The session after one more operation. -/
def step (session : Session) : Operation → Session
  | .feed delivery => { session with subscription := session.subscription.feed delivery }
  | .finish => { session with subscription := session.subscription.finish }
  | .next =>
    let (answer, subscription) := session.subscription.next
    ⟨subscription, session.taken ++ answer.items⟩
  | .tryNext =>
    let (answer, subscription) := session.subscription.tryNext
    ⟨subscription, session.taken ++ answer.items⟩

/-- The session after several operations. -/
def run (session : Session) (operations : List Operation) : Session := operations.foldl step session

/-- Operations one after the other. -/
theorem run_append (session : Session) (before after : List Operation) :
    session.run (before ++ after) = (session.run before).run after :=
  List.foldl_append

/-- Every item that has been read: taken, queued or held. -/
def passedOn (session : Session) : List Item :=
  session.taken ++ session.subscription.queue ++ session.subscription.activity.held

/-- A session accounts for the deliveries so far when the items taken and those ahead are the items
of the whole stream, whatever else will be delivered. -/
structure Accounts (settings : SubscriptionSettings) (fed : List Delivery) (session : Session) :
    Prop where
  /-- The subscription keeps what it was opened with. -/
  opened : session.subscription.settings = settings
  /-- The subscription is at rest. -/
  atRest : session.subscription.AtRest
  /-- No item is lost, altered or repeated. -/
  whole : ∀ later, (session.subscription.ended = true → later = []) →
    settings.Reads (Stream.ofDeliveries (fed ++ later))
      (session.taken ++ session.subscription.ahead later)

/-- A session accounts from its start. -/
theorem start_accounts (settings : SubscriptionSettings) :
    (start settings).Accounts settings [] := by
  let opened : Subscription :=
    ⟨settings, Stream.ofDeliveries [], false, [], .reading .start, true⟩
  refine ⟨opened.settle_settings, opened.settle_atRest (Nat.zero_le _), fun later last => ?_⟩
  have ahead := opened.settle_ahead later (by simp [opened])
  change settings.Reads _ (opened.settle.ahead later)
  rw [ahead]
  simp only [opened, Subscription.ahead, Activity.coming, List.nil_append,
    MessageSettings.itemsFrom_start]
  exact settings.reads_readAll _

/-- What is taken from a queue was first among the items ahead, and the others stay ahead. -/
theorem take_ahead {subscription : Subscription} {item : Item} {queue : List Item}
    (queued : subscription.queue = item :: queue) (later : List Delivery)
    (last : subscription.ended = true → later = []) :
    item :: ({ subscription with queue }.settle).ahead later = subscription.ahead later := by
  have kept := Subscription.settle_ahead { subscription with queue } later last
  rw [kept]
  simp only [Subscription.ahead, queued, List.cons_append]

/-- Taking an item keeps a subscription at rest. -/
theorem take_atRest {subscription : Subscription} {item : Item} {queue : List Item}
    (queued : subscription.queue = item :: queue) (atRest : subscription.AtRest) :
    ({ subscription with queue }.settle).AtRest := by
  apply Subscription.settle_atRest
  have within := atRest.within
  rw [queued, List.length_cons] at within
  exact Nat.le_of_succ_le within

/-- A waiting consumer and one that does not wait take the same item and leave the same behind. -/
theorem step_tryNext (session : Session) : session.step .tryNext = session.step .next := by
  simp only [step, Subscription.next, Subscription.tryNext]
  cases session.subscription.queue with
  | nil => cases session.subscription.isStopped <;> rfl
  | cons item queue => cases session.subscription.isStopped <;> rfl

/-- A session with an empty queue is left as it is by a consumer. -/
theorem step_next_nil {session : Session} (empty : session.subscription.queue = []) :
    session.step .next = session := by
  simp only [step, Subscription.next, empty]
  cases session.subscription.isStopped <;> simp [Subscription.Awaited.items]

/-- A consumer takes the oldest item of the queue. -/
theorem step_next_cons {session : Session} {item : Item} {queue : List Item}
    (queued : session.subscription.queue = item :: queue) :
    session.step .next =
      ⟨{ session.subscription with queue }.settle, session.taken ++ [item]⟩ := by
  simp only [step, Subscription.next, queued, Subscription.Awaited.items]

/-- How an operation changes a session. -/
inductive Changes (session : Session) : Operation → Session → Prop where
  /-- The subscription comes to rest with more delivered. -/
  | feed (delivery : Delivery) :
    session.Changes (.feed delivery) { session with
      subscription := Subscription.settle { session.subscription with
        stream := session.subscription.stream.feed delivery } }
  /-- The subscription comes to rest with the stream ended. -/
  | finish :
    session.Changes .finish { session with
      subscription := Subscription.settle { session.subscription with ended := true } }
  /-- There is nothing to take. -/
  | idle {operation : Operation} (takes : operation.isTake = true)
    (empty : session.subscription.queue = []) : session.Changes operation session
  /-- The oldest item is taken, and the subscription comes to rest with room in its queue. -/
  | take {operation : Operation} {item : Item} {queue : List Item}
    (takes : operation.isTake = true) (queued : session.subscription.queue = item :: queue) :
    session.Changes operation
      ⟨Subscription.settle { session.subscription with queue }, session.taken ++ [item]⟩

/-- Every operation changes a session in one of these ways. -/
theorem step_changes (session : Session) (operation : Operation) :
    session.Changes operation (session.step operation) := by
  cases operation with
  | feed delivery => exact .feed delivery
  | finish => exact .finish
  | next =>
    cases queued : session.subscription.queue with
    | nil =>
      rw [step_next_nil queued]
      exact .idle rfl queued
    | cons item queue =>
      rw [step_next_cons queued]
      exact .take rfl queued
  | tryNext =>
    rw [step_tryNext]
    cases queued : session.subscription.queue with
    | nil =>
      rw [step_next_nil queued]
      exact .idle rfl queued
    | cons item queue =>
      rw [step_next_cons queued]
      exact .take rfl queued

/-- One operation keeps the account, unless something is delivered behind the end. -/
theorem step_accounts {settings : SubscriptionSettings} {fed : List Delivery} {session : Session}
    (accounts : session.Accounts settings fed) (operation : Operation)
    (open_ : session.subscription.ended = true → operation.delivery? = none) :
    (session.step operation).Accounts settings (fed ++ operation.delivery?.toList) := by
  obtain ⟨opened, atRest, whole⟩ := accounts
  have changes := session.step_changes operation
  generalize session.step operation = next at changes ⊢
  cases changes with
  | feed delivery =>
    have live : session.subscription.ended = false := by
      cases ended : session.subscription.ended with
      | false => rfl
      | true => exact absurd (open_ ended) (by simp [Operation.delivery?])
    refine ⟨(Subscription.settle_settings _).trans opened,
      Subscription.settle_atRest _ atRest.within, fun later last => ?_⟩
    have items := whole (delivery :: later) (by simp [live])
    have ahead := Subscription.settle_ahead
      { session.subscription with stream := session.subscription.stream.feed delivery } later
      (by simp [live])
    simp only [Subscription.ahead, Stream.append_feed] at ahead items
    simp only [Subscription.ahead, Operation.delivery?, Option.toList_some, List.append_assoc,
      List.singleton_append, ahead]
    exact items
  | finish =>
    refine ⟨(Subscription.settle_settings _).trans opened,
      Subscription.settle_atRest _ atRest.within, fun later last => ?_⟩
    obtain rfl := last (Subscription.settle_ended _)
    have items := whole [] (fun _ => rfl)
    have ahead := Subscription.settle_ahead { session.subscription with ended := true } []
      (fun _ => rfl)
    simp only [ahead, Operation.delivery?, Option.toList_none, List.append_nil]
    simpa [Subscription.ahead] using items
  | idle takes empty =>
    rw [Operation.delivery?_of_isTake takes, Option.toList_none, List.append_nil]
    exact ⟨opened, atRest, whole⟩
  | take takes queued =>
    rw [Operation.delivery?_of_isTake takes, Option.toList_none, List.append_nil]
    refine ⟨(Subscription.settle_settings _).trans opened, take_atRest queued atRest, ?_⟩
    intro later last
    rw [Subscription.settle_ended] at last
    have items := whole later last
    rw [← take_ahead queued later last] at items
    simpa using items

/-- The stream has ended exactly when it had before or ends by the operation. -/
theorem step_ended (session : Session) (operation : Operation) :
    (session.step operation).subscription.ended = true ↔
      session.subscription.ended = true ∨ operation = .finish := by
  have changes := session.step_changes operation
  generalize session.step operation = next at changes ⊢
  cases changes with
  | feed delivery => simp
  | finish => simp
  | idle takes empty => simp [Operation.ne_finish_of_isTake takes]
  | take takes queued => simp [Operation.ne_finish_of_isTake takes]

/-- The stream has ended exactly when it had before or ends by one of the operations. -/
theorem run_ended (session : Session) (operations : List Operation) :
    (session.run operations).subscription.ended = true ↔
      session.subscription.ended = true ∨ .finish ∈ operations := by
  induction operations generalizing session with
  | nil => simp [run]
  | cons operation operations ih =>
    have further := ih (session.step operation)
    change ((session.step operation).run operations).subscription.ended = true ↔ _
    rw [further, step_ended, List.mem_cons, or_assoc, eq_comm (a := Operation.finish)]

/-- Operations in order keep the account. -/
theorem run_accounts {settings : SubscriptionSettings} {fed : List Delivery} {session : Session}
    (accounts : session.Accounts settings fed) (operations : List Operation)
    (ordered : Operation.FeedsBeforeEnd operations)
    (open_ : session.subscription.ended = true →
      ∀ operation ∈ operations, operation.delivery? = none) :
    (session.run operations).Accounts settings (fed ++ Operation.deliveries operations) := by
  induction operations generalizing session fed with
  | nil => simpa [run, Operation.deliveries] using accounts
  | cons operation operations ih =>
    obtain ⟨behind, ordered⟩ := List.pairwise_cons.mp ordered
    have first := step_accounts accounts operation
      (fun ended => open_ ended operation List.mem_cons_self)
    have others := ih first ordered (fun ended other among => by
      obtain before | now := (step_ended session operation).mp ended
      · exact open_ before other (List.mem_cons_of_mem _ among)
      · exact behind other among now)
    have fedBoth : fed ++ Operation.deliveries (operation :: operations) =
        fed ++ operation.delivery?.toList ++ Operation.deliveries operations := by
      cases delivered : operation.delivery? <;> simp [Operation.deliveries, delivered]
    rw [fedBoth]
    exact others

end Session

end BrokerWire

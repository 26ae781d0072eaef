import BrokerWire.Proofs.Subscription.Ending

/-!
# Taking with and without waiting

A consumer that is ready to wait and one that is not are answered alike, and leave the same
subscription behind. So the two ways of taking can be exchanged anywhere in a session, and nothing
that is seen of the session afterwards tells which of them was used. A consumer is left to wait
only while the reading goes on with nothing queued, nothing held and no delivery left.
-/
namespace BrokerWire

namespace Subscription

/-- What a waiting consumer is answered where one that does not wait is answered this. -/
def Polled.awaited : Polled → Awaited
  | item found => .item found
  | empty => .pending
  | disconnected => .ended

/-- Different answers without waiting are different answers to a waiting consumer. -/
theorem Polled.awaited_injective {first second : Polled} (same : first.awaited = second.awaited) :
    first = second := by
  cases first <;> cases second <;> simp_all [awaited]

variable {subscription : Subscription}

/-- A waiting consumer is answered as one that does not wait, and leaves the same behind. -/
theorem next_eq_tryNext (subscription : Subscription) :
    subscription.next = (subscription.tryNext.1.awaited, subscription.tryNext.2) := by
  simp only [next, tryNext]
  cases subscription.queue with
  | nil => cases subscription.isStopped <;> rfl
  | cons item queue => cases subscription.isStopped <;> rfl

/-- The two are given the same kind of answer. -/
theorem next_eq_awaited_iff (answer : Polled) :
    subscription.next.1 = answer.awaited ↔ subscription.tryNext.1 = answer := by
  rw [next_eq_tryNext]
  exact ⟨Polled.awaited_injective, congrArg Polled.awaited⟩

/-- Where there is no item yet, the queue is empty and the reading has not stopped. -/
theorem tryNext_eq_empty_iff :
    subscription.tryNext.1 = .empty ↔ subscription.isStopped = false ∧ subscription.queue = [] := by
  rw [tryNext]
  cases subscription.queue with
  | nil => cases subscription.isStopped <;> simp
  | cons item queue => cases subscription.isStopped <;> simp

/-- The oldest item of a queue is taken either way. -/
theorem take_of_queue {item : Item} {queue : List Item}
    (queued : subscription.queue = item :: queue) :
    subscription.next = (.item item, settle { subscription with queue }) ∧
      subscription.tryNext = (.item item, settle { subscription with queue }) := by
  constructor
  · rw [next, queued]
  · rw [tryNext, queued]
    cases subscription.isStopped <;> rfl

/-- Whoever asks a subscription at rest leaves it at rest. -/
theorem next_atRest (atRest : subscription.AtRest) : subscription.next.2.AtRest := by
  cases queued : subscription.queue with
  | nil =>
    rw [next, queued]
    exact atRest
  | cons item queue =>
    rw [(take_of_queue queued).1]
    exact Session.take_atRest queued atRest

/-- A subscription waits for its stream, which has delivered so much and not ended. -/
structure Waits (fed : List Delivery) (subscription : Subscription) : Prop where
  /-- The reading goes on from a stage. -/
  running : ∃ stage, subscription.activity = .reading stage
  /-- The queue is empty. -/
  empty : subscription.queue = []
  /-- Nothing is held. -/
  nothing : subscription.activity.held = []
  /-- The stream may deliver more. -/
  live : subscription.ended = false
  /-- All deliveries have been taken. -/
  exhausted : subscription.stream.deliveries = []
  /-- So has every byte of them. -/
  consumed : subscription.stream.consumed = (Stream.ofDeliveries fed).remaining.length

/-- A subscription at rest that has not stopped and has nothing queued is reading. -/
theorem AtRest.reading_of_empty (atRest : subscription.AtRest)
    (going : subscription.isStopped = false) (empty : subscription.queue = []) :
    ∃ stage, subscription.activity = .reading stage := by
  match activity : subscription.activity with
  | .reading stage => exact ⟨stage, rfl⟩
  | .holding item =>
    -- An item is held behind a full queue only, and no queue is full with nothing in it.
    have full := atRest.holding item activity
    have capacity := subscription.settings.capacity_pos
    rw [← full, empty] at capacity
    contradiction
  | .stopped =>
    rw [isStopped_iff.mpr activity] at going
    contradiction

/-- What a consumer is answered. -/
inductive Answer where
  /-- It has not asked for an item. -/
  | silent
  /-- It is ready to wait. -/
  | awaited (answer : Awaited)
  /-- It is not. -/
  | polled (answer : Polled)

/-- The answer to a consumer that waits instead. -/
def Answer.waiting : Answer → Answer
  | silent => silent
  | awaited answer => awaited answer
  | polled answer => awaited answer.awaited

/-- What is seen of a subscription when something has happened to it. -/
structure Report where
  /-- What the consumer is answered. -/
  answer : Answer
  /-- How many bytes have been taken from the stream. -/
  consumed : Nat
  /-- The reading has stopped and let go of the stream. -/
  released : Bool
  /-- Whether the reading has stopped, as an open subscription tells. -/
  finished? : Option Bool

/-- The report to a consumer that waits instead. -/
def Report.waiting (report : Report) : Report := { report with answer := report.answer.waiting }

end Subscription

/-- The same move of a consumer that waits instead. -/
def Move.waiting : Move → Move
  | .operation .tryNext => .operation .next
  | move => move

namespace Session

variable {session : Session}

/-- What a consumer is answered when something happens. -/
def answer (session : Session) : Move → Subscription.Answer
  | .operation .next => .awaited session.subscription.next.1
  | .operation .tryNext => .polled session.subscription.tryNext.1
  | .operation (.feed _) | .operation .finish | .close => .silent

/-- What is seen of a session when something happens. -/
def report (session : Session) (move : Move) : Subscription.Report :=
  let after := (session.move move).subscription
  ⟨session.answer move, after.stream.consumed, after.isStopped, after.isFinished?⟩

/-- What is seen of a session, move after move. -/
def reports : Session → List Move → List Subscription.Report
  | _, [] => []
  | session, move :: moves => session.report move :: (session.move move).reports moves

/-- Waiting instead comes to the same session. -/
@[simp] theorem move_waiting (session : Session) (move : Move) :
    session.move move.waiting = session.move move := by
  match move with
  | .operation .tryNext => exact session.step_tryNext.symm
  | .operation .next | .operation (.feed _) | .operation .finish | .close => rfl

/-- A consumer that waits instead is given the same answer. -/
theorem answer_waiting (session : Session) (move : Move) :
    session.answer move.waiting = (session.answer move).waiting := by
  match move with
  | .operation .tryNext =>
    have given := congrArg Prod.fst session.subscription.next_eq_tryNext
    exact congrArg Subscription.Answer.awaited given
  | .operation .next | .operation (.feed _) | .operation .finish | .close => rfl

/-- A consumer that waits instead sees the same. -/
theorem report_waiting (session : Session) (move : Move) :
    session.report move.waiting = (session.report move).waiting := by
  simp only [report, Subscription.Report.waiting, move_waiting, answer_waiting]

/-- Waiting instead in several moves comes to the same session. -/
theorem play_waiting (session : Session) (moves : List Move) :
    session.play (moves.map Move.waiting) = session.play moves := by
  induction moves generalizing session with
  | nil => rfl
  | cons move moves ih =>
    change (session.move move.waiting).play (moves.map Move.waiting) = _
    rw [move_waiting, ih]
    rfl

/-- Waiting instead in several moves, a consumer sees the same. -/
theorem reports_waiting (session : Session) (moves : List Move) :
    session.reports (moves.map Move.waiting) =
      (session.reports moves).map Subscription.Report.waiting := by
  induction moves generalizing session with
  | nil => rfl
  | cons move moves ih =>
    simp only [List.map_cons, reports, report_waiting, move_waiting, ih]

/-- The two ways of taking leave the same session. -/
theorem step_of_isTake {operation : Operation} (takes : operation.isTake = true) :
    session.step operation = session.step .next := by
  cases operation with
  | feed _ | finish => contradiction
  | next => rfl
  | tryNext => exact session.step_tryNext

/-- Where a session leaves its consumer to wait, the subscription waits for its stream. -/
theorem waits_of_empty (settings : SubscriptionSettings) (operations : List Operation)
    (empty : ((start settings).run operations).subscription.tryNext.1 = .empty) :
    ((start settings).run operations).subscription.Waits (Operation.deliveries operations) := by
  have follows := run_follows (start_follows settings) operations
  have going : ((start settings).run operations).subscription.activity.isOver = false →
      (start settings).heard operations = Operation.deliveries operations :=
    heard_of_going operations
  rw [List.nil_append] at follows
  generalize (start settings).run operations = session at follows going empty
  obtain ⟨opened, atRest, left, tracks, rests⟩ := follows
  obtain ⟨unstopped, none⟩ := Subscription.tryNext_eq_empty_iff.mp empty
  obtain ⟨stage, reading⟩ := atRest.reading_of_empty unstopped none
  obtain ⟨live, exhausted⟩ := atRest.reading stage reading
  have first := tracks.items [] fun _ _ => rfl
  rw [opened, List.append_nil, Stream.append_nil, going (by rw [reading]; rfl)] at first
  rw [opened, reading] at rests
  have consumed := consumed_of_waiting rests exhausted
  rw [consumed_add_remaining first] at consumed
  exact ⟨⟨stage, reading⟩, none, by rw [reading]; rfl, live, exhausted, consumed⟩

/-- How the two ways of taking agree after some operations. -/
structure TakesAgree (operations : List Operation) (session : Session) : Prop where
  /-- The subscription is open. -/
  isOpen : session.subscription.isOpen = true
  /-- A consumer would wait exactly when there is no item yet for one that does not wait. -/
  pending : session.subscription.next.1 = .pending ↔ session.subscription.tryNext.1 = .empty
  /-- Both are told of the end, or neither of them. -/
  ended : session.subscription.next.1 = .ended ↔ session.subscription.tryNext.1 = .disconnected
  /-- Otherwise both take the oldest item of the queue, and the subscription comes to rest with
  room in its queue. -/
  oldest : session.subscription.next.1 ≠ .pending → session.subscription.next.1 ≠ .ended →
    ∃ item queue, session.subscription.queue = item :: queue ∧
      session.subscription.next =
        (.item item, Subscription.settle { session.subscription with queue }) ∧
      session.subscription.tryNext =
        (.item item, Subscription.settle { session.subscription with queue })
  /-- They leave the same subscription behind. -/
  successor : session.subscription.next.2 = session.subscription.tryNext.2
  /-- It is at rest again. -/
  atRest : session.subscription.AtRest ∧ session.subscription.next.2.AtRest
  /-- Whatever happens later, nothing that is seen tells which of them was used. -/
  later : ∀ first second : Operation, first.isTake = true → second.isTake = true →
    ∀ moves : List Move, (session.step first).reports moves = (session.step second).reports moves
  /-- Where moves differ in nothing but how items are taken, they come to the same session, and what
  is seen differs in nothing but how the consumer is answered. -/
  exchanged : ∀ moves others : List Move,
    moves.map Move.waiting = others.map Move.waiting →
      session.play moves = session.play others ∧
        (session.reports moves).map Subscription.Report.waiting =
          (session.reports others).map Subscription.Report.waiting
  /-- A consumer is left to wait only while the subscription waits for its stream. -/
  waits : session.subscription.next.1 = .pending ∨ session.subscription.tryNext.1 = .empty →
    session.subscription.Waits (Operation.deliveries operations)

/-- Taking with and without waiting agree, after any operations on an open subscription. -/
theorem takes_agree (settings : SubscriptionSettings) (operations : List Operation) :
    TakesAgree operations ((start settings).run operations) := by
  have atRest := (run_follows (start_follows settings) operations).atRest
  have waits := waits_of_empty settings operations
  have isOpen : ((start settings).run operations).subscription.isOpen = true := by
    have opened : (start settings).subscription.isOpen = true := Subscription.settle_isOpen _
    have played : ((start settings).play (operations.map .operation)).subscription.isOpen = true :=
      (play_isOpen _ _).mpr ⟨opened, by simp⟩
    rwa [play, List.foldl_map] at played
  generalize (start settings).run operations = session at atRest waits isOpen
  have pending : session.subscription.next.1 = .pending ↔ session.subscription.tryNext.1 = .empty :=
    Subscription.next_eq_awaited_iff .empty
  refine {
    isOpen, pending
    ended := Subscription.next_eq_awaited_iff .disconnected
    oldest := fun ready going => ?_
    successor := congrArg Prod.snd session.subscription.next_eq_tryNext
    atRest := ⟨atRest, Subscription.next_atRest atRest⟩
    later := fun first second takes taking moves => ?_
    exchanged := fun moves others same => ?_
    waits := fun either => waits (either.elim pending.mp id) }
  · cases queued : session.subscription.queue with
    | nil =>
      rw [Subscription.next, queued] at ready going
      cases stopped : session.subscription.isStopped <;> simp [stopped] at ready going
    | cons item queue => exact ⟨item, queue, rfl, Subscription.take_of_queue queued⟩
  · rw [step_of_isTake takes, step_of_isTake taking]
  · rw [← play_waiting, ← reports_waiting, same, play_waiting, reports_waiting]
    exact ⟨rfl, rfl⟩

/-- Two frames arrive at a queue for one item, so that one item is queued and the other one held.
Both are taken, then there is none yet, and behind the end of the stream there will be none. A
consumer that waits instead is answered accordingly, and sees nothing else that is different. -/
example :
    let frame : Bytes :=
      [13, 0, 0, 0, 0, 0, 0, 0, 0, 0, 0, 0, 1, 0, 11, 0, 0, 0, 0, 0, 0, 0, 1, 0, 192]
    let item : Item := .ok ⟨⟨⟨13, 0, 0, 0, 0⟩, .singleMessage, ⟨11, 0, 0, 0⟩⟩,
      .controlMessageResponse ⟨[192]⟩, some .nil⟩
    let session := (start { capacity := 1 }).step (.feed (.chunk (frame ++ frame)))
    let moves : List Move := [.operation .tryNext, .operation .next, .operation .tryNext,
      .operation .finish, .operation .tryNext]
    session.subscription.queue = [item] ∧ session.subscription.activity = .holding item ∧
      session.reports moves =
        [⟨.polled (.item item), 50, false, some false⟩,
          ⟨.awaited (.item item), 50, false, some false⟩,
          ⟨.polled .empty, 50, false, some false⟩,
          ⟨.silent, 50, true, some true⟩,
          ⟨.polled .disconnected, 50, true, some true⟩] ∧
      session.reports (moves.map Move.waiting) =
        [⟨.awaited (.item item), 50, false, some false⟩,
          ⟨.awaited (.item item), 50, false, some false⟩,
          ⟨.awaited .pending, 50, false, some false⟩,
          ⟨.silent, 50, true, some true⟩,
          ⟨.awaited .ended, 50, true, some true⟩] :=
  ⟨rfl, rfl, rfl, rfl⟩

end Session

end BrokerWire

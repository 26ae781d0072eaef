import BrokerWire.Proofs.Subscription.Session

/-!
# A subscription is faithful to its stream

Reading through a subscription gives the items that plain reading gives, whatever the capacity of
its queue, however the stream is cut into deliveries, and whenever the consumer takes.
-/
namespace BrokerWire.Session

variable {settings : SubscriptionSettings} {fed : List Delivery} {session : Session}

/-- What has been passed on is the beginning of what is taken and ahead. -/
theorem passedOn_isPrefix (session : Session) (later : List Delivery) :
    session.passedOn <+: session.taken ++ session.subscription.ahead later := by
  simp only [passedOn, Subscription.ahead, List.append_assoc]
  exact List.prefix_append_right_inj _ |>.mpr (List.prefix_append_right_inj _ |>.mpr
    (Activity.held_isPrefix_coming ..))

/-- Once the stream has ended, an empty queue means that nothing is ahead and reading has
stopped. -/
theorem stopped_of_empty (atRest : session.subscription.AtRest)
    (ended : session.subscription.ended = true) (empty : session.subscription.queue = []) :
    session.subscription.activity = .stopped := by
  apply atRest.stopped_of_ended ended
  cases activity : session.subscription.activity with
  | reading stage => rfl
  | holding item =>
    have full := atRest.holding item activity
    rw [empty] at full
    exact absurd full.symm (Nat.ne_of_gt session.subscription.settings.capacity_pos)
  | stopped => rfl

/-- Once the stream has ended, the queue is empty exactly when nothing is ahead. -/
theorem empty_iff_ahead (atRest : session.subscription.AtRest)
    (ended : session.subscription.ended = true) :
    session.subscription.queue = [] ↔ session.subscription.ahead [] = [] := by
  constructor
  · intro empty
    simp [Subscription.ahead, empty, stopped_of_empty atRest ended empty, Activity.coming]
  · intro none
    exact (List.append_eq_nil_iff.mp none).1

/-- Once the stream has ended, a waiting consumer is told of the end exactly when nothing is
ahead. -/
theorem next_ended_iff (atRest : session.subscription.AtRest)
    (ended : session.subscription.ended = true) :
    session.subscription.next.1 = .ended ↔ session.subscription.ahead [] = [] := by
  rw [← empty_iff_ahead atRest ended, Subscription.next_eq_ended_iff]
  exact ⟨And.right, fun empty =>
    ⟨Subscription.isStopped_iff.mpr (stopped_of_empty atRest ended empty), empty⟩⟩

/-- Once the stream has ended, a consumer that does not wait is told of the end exactly when
nothing is ahead. -/
theorem tryNext_disconnected_iff (atRest : session.subscription.AtRest)
    (ended : session.subscription.ended = true) :
    session.subscription.tryNext.1 = .disconnected ↔ session.subscription.ahead [] = [] := by
  rw [← next_ended_iff atRest ended, Subscription.tryNext_eq_disconnected_iff,
    Subscription.next_eq_ended_iff]

/-- Once the stream has ended, a consumer takes the first of the items ahead, if there is one. -/
theorem step_take (atRest : session.subscription.AtRest)
    (ended : session.subscription.ended = true) {operation : Operation}
    (take : operation.isTake = true) :
    (session.step operation).taken =
      session.taken ++ (session.subscription.ahead []).take 1 := by
  have changes := session.step_changes operation
  generalize session.step operation = next at changes ⊢
  cases changes with
  | feed _ | finish => contradiction
  | idle takes empty =>
    rw [(empty_iff_ahead atRest ended).mp empty, List.take_nil, List.append_nil]
  | take takes queued => simp [Subscription.ahead, queued]

/-- Once the stream has ended, each request for an item gets the next one, until there are none. -/
theorem run_takes {items : List Item} (accounts : session.Accounts settings fed)
    (ended : session.subscription.ended = true)
    (reads : settings.Reads (Stream.ofDeliveries fed) items) (takes : List Operation)
    (only : ∀ operation ∈ takes, operation.isTake = true) :
    (session.run takes).taken = items.take (session.taken.length + takes.length) := by
  induction takes generalizing session with
  | nil =>
    have whole := accounts.whole [] (fun _ => rfl)
    rw [List.append_nil] at whole
    rw [reads.unique settings.toMessageSettings whole]
    simp [run]
  | cons operation takes ih =>
    have take := only operation List.mem_cons_self
    have silent := Operation.delivery?_of_isTake take
    have kept := step_accounts accounts operation (fun _ => silent)
    rw [silent, Option.toList_none, List.append_nil] at kept
    have others := ih kept ((step_ended session operation).mpr (.inl ended))
      (fun other among => only other (List.mem_cons_of_mem _ among))
    have whole := accounts.whole [] (fun _ => rfl)
    rw [List.append_nil] at whole
    have items := reads.unique settings.toMessageSettings whole
    change ((session.step operation).run takes).taken = _
    rw [others, step_take accounts.atRest ended take]
    cases ahead : session.subscription.ahead [] with
    | nil =>
      rw [ahead, List.append_nil] at items
      rw [items, List.take_of_length_le (by simp), List.take_of_length_le (by simp)]
    | cons item rest =>
      congr 1
      simp only [List.length_append, List.take_succ_cons, List.take_zero, List.length_cons,
        List.length_nil]
      omega

/-- Nothing is delivered behind an end. -/
theorem deliveries_after_end {before after : List Operation}
    (ordered : Operation.FeedsBeforeEnd (before ++ after)) (finished : .finish ∈ before) :
    Operation.deliveries after = [] := by
  obtain ⟨-, -, apart⟩ := List.pairwise_append.mp ordered
  rw [Operation.deliveries, List.filterMap_eq_nil_iff]
  exact fun operation among => apart .finish finished operation among rfl

/-- What a session passes on, at a moment with some operations before it and others after it: the
items are those of everything that is delivered in the session, in their order. -/
structure PassesOn (settings : SubscriptionSettings) (before after : List Operation)
    (items : List Item) : Prop where
  /-- Plain reading of all deliveries, and then the end of the stream, gives the items. -/
  reads : settings.Reads (Stream.ofDeliveries (Operation.deliveries (before ++ after))) items
  /-- What has been taken, queued and held is the beginning of the items. -/
  beginning : ((start settings).run before).passedOn <+: items
  /-- A waiting consumer is told of the end exactly when it has taken all of the items. -/
  next_ended : .finish ∈ before → (((start settings).run before).subscription.next.1 = .ended ↔
    ((start settings).run before).taken = items)
  /-- So is a consumer that does not wait. -/
  tryNext_disconnected : .finish ∈ before →
    (((start settings).run before).subscription.tryNext.1 = .disconnected ↔
      ((start settings).run before).taken = items)
  /-- Each further request gets the next item, until the consumer has taken all of them. -/
  takes : .finish ∈ before →
    ∀ requests : List Operation, (∀ operation ∈ requests, operation.isTake = true) →
      ((start settings).run (before ++ requests)).taken =
        items.take (((start settings).run before).taken.length + requests.length)

/-- A subscription passes on exactly the items of its stream, through any operations in which
nothing is delivered once the stream has ended. -/
theorem passes_on_the_items (settings : SubscriptionSettings) (before after : List Operation)
    (ordered : Operation.FeedsBeforeEnd (before ++ after)) :
    ∃ items, PassesOn settings before after items := by
  obtain ⟨first, -, -⟩ := List.pairwise_append.mp ordered
  have live : (start settings).subscription.ended = false := Subscription.settle_ended _
  have accounts := run_accounts (start_accounts settings) before first (by simp [live])
  have endedIff := run_ended (start settings) before
  have silent := deliveries_after_end ordered
  rw [List.nil_append] at accounts
  simp only [live, Bool.false_eq_true, false_or] at endedIff
  have reads := accounts.whole (Operation.deliveries after)
    (fun ended => silent (endedIff.mp ended))
  have all (taken ahead : List Item) : ahead = [] ↔ taken = taken ++ ahead :=
    List.self_eq_append_right.symm
  refine ⟨_, by rwa [Operation.deliveries_append], passedOn_isPrefix _ _, ?_, ?_, ?_⟩
  · intro finished
    rw [silent finished]
    exact (next_ended_iff accounts.atRest (endedIff.mpr finished)).trans (all _ _)
  · intro finished
    rw [silent finished]
    exact (tryNext_disconnected_iff accounts.atRest (endedIff.mpr finished)).trans (all _ _)
  · intro finished requests only
    rw [silent finished, List.append_nil] at reads
    rw [silent finished, run_append]
    exact run_takes accounts (endedIff.mpr finished) reads requests only

/-- A frame with an empty answer arrives in two parts around an interrupted read, and half of the
next one behind it; the queue holds one item. The consumer takes while the stream is open, and the
stream ends inside the second frame. -/
theorem passes_on_the_items_in_parts :
    let frame : Bytes :=
      [13, 0, 0, 0, 0, 0, 0, 0, 0, 0, 0, 0, 1, 0, 11, 0, 0, 0, 0, 0, 0, 0, 1, 0, 192]
    let before : List Operation := [.feed (.chunk (frame.take 7)), .feed .interruption, .tryNext,
      .feed (.chunk (frame.drop 7 ++ frame.take 20)), .next, .finish]
    Operation.FeedsBeforeEnd (before ++ [.next]) ∧ .finish ∈ before ∧
      ((start (SubscriptionSettings.withCapacity ⟨{}, 32, by decide⟩ 0)).run before).taken.length
        = 1 ∧
      ∃ items, PassesOn (SubscriptionSettings.withCapacity ⟨{}, 32, by decide⟩ 0) before [.next]
        items :=
  ⟨by decide, by decide, by decide, passes_on_the_items _ _ _ (by decide)⟩

end BrokerWire.Session

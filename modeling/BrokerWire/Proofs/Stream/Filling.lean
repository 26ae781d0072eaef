import BrokerWire.Stream.Delivery

/-!
# Filling a buffer

An attempt to fill a buffer takes bytes from the front of a stream, loses none of those it leaves,
and waits only where the deliveries have run out. What it does is settled by the deliveries it
reads: further ones behind them change nothing, unless it waits, and then it goes on with them as
if they had been there from the start.
-/
namespace BrokerWire

namespace Stream

/-- A stream that delivers several things more, behind everything else. -/
def append (stream : Stream) (later : List Delivery) : Stream :=
  { stream with deliveries := stream.deliveries ++ later }

/-- Nothing more leaves a stream as it is. -/
@[simp] theorem append_nil (stream : Stream) : stream.append [] = stream := by
  simp [append]

/-- One delivery more, and then others, are all of them more. -/
theorem append_feed (stream : Stream) (delivery : Delivery) (later : List Delivery) :
    (stream.feed delivery).append later = stream.append (delivery :: later) := by
  simp [append, feed]

/-- What is left of a stream after some bytes have been taken from its front. -/
structure LeftAfter (stream : Stream) (taken : Bytes) (left : Stream) : Prop where
  /-- The bytes taken stood in front of those left. -/
  remaining : stream.remaining = taken ++ left.remaining
  /-- Each of them has been counted. -/
  consumed : left.consumed = stream.consumed + taken.length

/-- A stream from which nothing has been taken is left as it is. -/
theorem LeftAfter.refl (stream : Stream) : stream.LeftAfter [] stream := ⟨rfl, rfl⟩

/-- What is taken first stands in front of what is taken next. -/
theorem LeftAfter.trans {stream middle left : Stream} {first second : Bytes}
    (head : stream.LeftAfter first middle) (tail : middle.LeftAfter second left) :
    stream.LeftAfter (first ++ second) left := by
  constructor
  · rw [head.remaining, tail.remaining, List.append_assoc]
  · rw [tail.consumed, head.consumed, List.length_append, Nat.add_assoc]

/-- No stream is left with more bytes than it had. -/
theorem LeftAfter.length_eq {stream left : Stream} {taken : Bytes}
    (after : stream.LeftAfter taken left) :
    stream.remaining.length = taken.length + left.remaining.length := by
  rw [after.remaining, List.length_append]

end Stream

/-- How the outcome of filling agrees with the bytes taken: a full buffer has all that was missing
behind what it held, any other has less, and only one that waits has used up the deliveries. -/
def Fill.Accounts (missing : Nat) (received taken : Bytes) (left : Stream) : Fill → Prop
  | .full bytes => bytes = received ++ taken ∧ taken.length = missing
  | .ended got => got = received ++ taken ∧ taken.length < missing
  | .failed _ => taken.length < missing
  | .waiting got => got = received ++ taken ∧ taken.length < missing ∧ left.deliveries = []

/-- Bytes taken from an earlier chunk come in front of all others. -/
theorem Fill.Accounts.after {missing : Nat} {received first taken : Bytes} {left : Stream}
    {fill : Fill} (short : first.length < missing)
    (accounts : fill.Accounts (missing - first.length) (received ++ first) taken left) :
    fill.Accounts missing received (first ++ taken) left := by
  cases fill with
  | full bytes =>
    obtain ⟨rfl, length⟩ := accounts
    exact ⟨List.append_assoc .., by simp only [List.length_append]; omega⟩
  | ended got =>
    obtain ⟨rfl, length⟩ := accounts
    exact ⟨List.append_assoc .., by simp only [List.length_append]; omega⟩
  | failed reason =>
    have length : taken.length < missing - first.length := accounts
    change (first ++ taken).length < missing
    simp only [List.length_append]
    omega
  | waiting got =>
    obtain ⟨rfl, length, last⟩ := accounts
    exact ⟨List.append_assoc .., by simp only [List.length_append]; omega, last⟩

namespace Stream

/-- Filling takes bytes from the front, and its outcome agrees with them. -/
theorem fillFrom_accounts (missing : Nat) (received : Bytes) (consumed : Nat)
    (deliveries : List Delivery) :
    ∃ taken, (⟨deliveries, consumed⟩ : Stream).LeftAfter taken
        (fillFrom missing received consumed deliveries).2 ∧
      (fillFrom missing received consumed deliveries).1.Accounts missing received taken
        (fillFrom missing received consumed deliveries).2 := by
  induction deliveries generalizing missing received consumed with
  | nil =>
    refine ⟨[], ?_⟩
    by_cases none : missing = 0
    · simp [fillFrom, none, Fill.Accounts, LeftAfter.refl]
    · simp [fillFrom, none, Fill.Accounts, LeftAfter.refl, Nat.pos_of_ne_zero none]
  | cons delivery deliveries ih =>
    by_cases none : missing = 0
    · exact ⟨[], by simp [fillFrom, none, Fill.Accounts, LeftAfter.refl]⟩
    have positive : 0 < missing := Nat.pos_of_ne_zero none
    cases delivery with
    | chunk bytes =>
      cases split : Bytes.split? missing bytes with
      | some parts =>
        obtain ⟨taken, left⟩ := parts
        obtain ⟨rfl, length⟩ := Bytes.split?_eq_some_iff.mp split
        refine ⟨taken, ?_⟩
        simp only [fillFrom, none, ↓reduceIte, split]
        exact ⟨⟨by simp [remaining, Delivery.bytes], by simp [length]⟩, rfl, length⟩
      | none =>
        have short := Bytes.split?_eq_none_iff.mp split
        obtain ⟨taken, after, accounts⟩ :=
          ih (missing - bytes.length) (received ++ bytes) (consumed + bytes.length)
        refine ⟨bytes ++ taken, ?_⟩
        simp only [fillFrom, none, ↓reduceIte, split]
        refine ⟨LeftAfter.trans ?_ after, accounts.after short⟩
        exact ⟨by simp [remaining, Delivery.bytes], rfl⟩
    | nothing =>
      refine ⟨[], ?_⟩
      simp only [fillFrom, none, ↓reduceIte]
      exact ⟨⟨rfl, rfl⟩, (List.append_nil _).symm, positive⟩
    | interruption =>
      obtain ⟨taken, after, accounts⟩ := ih missing received consumed
      refine ⟨taken, ?_⟩
      simp only [fillFrom, none, ↓reduceIte]
      exact ⟨⟨after.remaining, after.consumed⟩, accounts⟩
    | failure reason =>
      refine ⟨[], ?_⟩
      simp only [fillFrom, none, ↓reduceIte]
      exact ⟨⟨rfl, rfl⟩, positive⟩

/-- Filling a buffer takes bytes from the front, and its outcome agrees with them. -/
theorem fill_accounts (stream : Stream) (size : Nat) (received : Bytes) :
    ∃ taken, stream.LeftAfter taken (stream.fill size received).2 ∧
      (stream.fill size received).1.Accounts (size - received.length) received taken
        (stream.fill size received).2 :=
  fillFrom_accounts ..

/-- Filling goes on with what is delivered later: it is settled already, or it waits and takes up
the buffer where it stands. -/
theorem fillFrom_append (missing : Nat) (received : Bytes) (consumed : Nat)
    (deliveries later : List Delivery) :
    fillFrom missing received consumed (deliveries ++ later) =
      match fillFrom missing received consumed deliveries with
      | (.waiting got, left) =>
        fillFrom (missing + received.length - got.length) got left.consumed later
      | (outcome, left) => (outcome, left.append later) := by
  induction deliveries generalizing missing received consumed with
  | nil =>
    by_cases none : missing = 0
    · cases later <;> simp [fillFrom, none, append]
    · simp [fillFrom, none]
  | cons delivery deliveries ih =>
    by_cases none : missing = 0
    · simp [fillFrom, none, append]
    cases delivery with
    | chunk bytes =>
      cases split : Bytes.split? missing bytes with
      | some parts => simp [fillFrom, none, split, append]
      | none =>
        have short := Bytes.split?_eq_none_iff.mp split
        have whole : missing - bytes.length + (received ++ bytes).length =
            missing + received.length := by
          simp only [List.length_append]
          omega
        simp only [fillFrom, none, ↓reduceIte, split, List.cons_append, ih, whole]
    | nothing => simp [fillFrom, none, append]
    | interruption => simp only [fillFrom, none, ↓reduceIte, List.cons_append, ih]
    | failure reason => simp [fillFrom, none, append]

/-- Filling a buffer goes on with what is delivered later. -/
theorem fill_append (stream : Stream) (size : Nat) (received : Bytes) (later : List Delivery) :
    (stream.append later).fill size received =
      match stream.fill size received with
      | (.waiting got, left) => (left.append later).fill size got
      | (outcome, left) => (outcome, left.append later) := by
  obtain ⟨taken, -, accounts⟩ := stream.fill_accounts size received
  cases filled : stream.fill size received with
  | mk outcome left =>
    have further := fillFrom_append (size - received.length) received stream.consumed
      stream.deliveries later
    change (stream.append later).fill size received = match stream.fill size received with
      | (.waiting got, left) => fillFrom (size - received.length + received.length - got.length)
        got left.consumed later
      | (outcome, left) => (outcome, left.append later) at further
    rw [filled] at further accounts
    rw [further]
    cases outcome with
    | waiting got =>
      obtain ⟨rfl, length, last⟩ := accounts
      have missing : size - received.length + received.length - (received ++ taken).length =
          size - (received ++ taken).length := by
        simp only [List.length_append]
        omega
      change left.deliveries = [] at last
      simp only [missing, fill, append, last, List.nil_append]
    | full _ | ended _ | failed _ => rfl

/-- A chunk that holds a whole buffer fills it, and what is left of the chunk is delivered next. -/
theorem fill_chunk {size : Nat} {taken : Bytes} (whole : taken.length = size) (left : Bytes)
    (later : List Delivery) (consumed : Nat) :
    (⟨.chunk (taken ++ left) :: later, consumed⟩ : Stream).fill size [] =
      (.full taken, ⟨.chunk left :: later, consumed + size⟩) := by
  subst whole
  unfold fill
  by_cases none : taken.length = 0
  · obtain rfl := List.eq_nil_of_length_eq_zero none
    simp [fillFrom]
  · simp [fillFrom, none, Bytes.split?_append]

end Stream

end BrokerWire

import BrokerWire.Proofs.Outcome
import BrokerWire.Word

/-!
# Reading by position

Bytes can also be read by naming places in them: one byte, or those from one place up to another. A
place outside the bytes halts the reading, which is no refusal of what has been found. A word that
stands at a place is fetched from there.
-/
namespace BrokerWire

/-- What halts a reading by position before it comes to its result. -/
inductive Halt (ε : Type) where
  /-- What has been found is refused. -/
  | refused (reason : ε)
  /-- A place outside the bytes has been named. -/
  | outside
  deriving DecidableEq, Repr

/-- What a reading by position comes to. -/
abbrev Access (ε α : Type) := Except (Halt ε) α

namespace Access

variable {ε α β : Type}

/-- The outcome of a reading that names no place outside. -/
def within (outcome : Except ε α) : Access ε α := outcome.mapError .refused

@[simp] theorem within_ok (result : α) : within (ε := ε) (.ok result) = .ok result := rfl

@[simp] theorem within_error (reason : ε) :
    within (α := α) (.error reason) = .error (.refused reason) := rfl

/-- No place outside has been named. -/
theorem within_ne_outside (outcome : Except ε α) : within outcome ≠ .error .outside := by
  cases outcome with
  | error reason => simp
  | ok result => simp

/-- Step after step within the bytes is all of them within. -/
theorem within_bind (step : Except ε α) (next : α → Except ε β) :
    within (step >>= next) = within step >>= fun found => within (next found) := by
  cases step <;> rfl

/-- A reading from the front hands on what is left; by position, what follows it looks for its bytes
itself. They agree where what follows agrees. -/
theorem within_bind_fst {step : Except ε (α × Bytes)} {next : α × Bytes → Except ε (β × Bytes)}
    {fetchNext : α → Access ε β}
    (agree : ∀ found rest, step = .ok (found, rest) →
      fetchNext found = within ((next (found, rest)).map Prod.fst)) :
    within (step.map Prod.fst) >>= fetchNext = within ((step >>= next).map Prod.fst) := by
  cases step with
  | error reason => rfl
  | ok parts => exact agree parts.1 parts.2 rfl

/-- What is made of an outcome names no place. -/
theorem within_map (make : α → β) (outcome : Except ε α) :
    within (outcome.map make) = (within outcome).map make := by
  cases outcome <;> rfl

/-- The same reading, with its refusals told as reasons of another kind. -/
def mapReason {ε' : Type} (tell : ε → ε') : Access ε α → Access ε' α
  | .ok result => .ok result
  | .error (.refused reason) => .error (.refused (tell reason))
  | .error .outside => .error .outside

/-- Telling refusals in another way names no place. -/
theorem mapReason_within {ε' : Type} (tell : ε → ε') (outcome : Except ε α) :
    mapReason tell (within outcome) = within (outcome.mapError tell) := by
  cases outcome <;> rfl

end Access

namespace Bytes

variable {ε : Type} {bytes after : Bytes}

/-- The byte at a place. -/
def fetch (bytes : Bytes) (place : Nat) : Access ε UInt8 :=
  match bytes[place]? with
  | some byte => .ok byte
  | none => .error .outside

/-- So many bytes from a place on, one by one. -/
def fetchEach (bytes : Bytes) (place : Nat) : Nat → Access ε Bytes
  | 0 => return []
  | count + 1 => do
    let byte ← bytes.fetch place
    let others ← fetchEach bytes (place + 1) count
    return byte :: others

/-- The bytes from one place up to another. -/
def slice (bytes : Bytes) (start stop : Nat) : Access ε Bytes :=
  if start ≤ stop ∧ stop ≤ bytes.length then .ok ((bytes.drop start).take (stop - start))
  else .error .outside

/-- The bytes from a place on. -/
def sliceFrom (bytes : Bytes) (start : Nat) : Access ε Bytes := bytes.slice start bytes.length

/-- The bytes as the contents of an array of a size. -/
def copy (bytes : Bytes) (size : Nat) : Access ε Bytes :=
  if bytes.length = size then .ok bytes else .error .outside

/-- The byte behind others is fetched from its place. -/
theorem fetch_of_eq (before : Bytes) {byte : UInt8} {place : Nat}
    (split : bytes = before ++ byte :: after) (count : place = before.length) :
    bytes.fetch (ε := ε) place = .ok byte := by
  subst split count
  simp [fetch]

/-- The bytes between others are fetched one by one. -/
theorem fetchEach_of_eq (before : Bytes) {part : Bytes} {place : Nat}
    (split : bytes = before ++ (part ++ after)) (count : place = before.length) :
    bytes.fetchEach (ε := ε) place part.length = .ok part := by
  induction part generalizing before place with
  | nil => rfl
  | cons byte others ih =>
    have here := fetch_of_eq (ε := ε) before split count
    have next : bytes = (before ++ [byte]) ++ (others ++ after) := by
      rw [split]
      simp only [List.cons_append, List.append_assoc, List.nil_append]
    have behind : bytes.fetchEach (ε := ε) (place + 1) others.length = .ok others :=
      ih (before ++ [byte]) next (by rw [count, List.length_append]; rfl)
    simp only [List.length_cons, fetchEach, here, behind, ok_bind, pure, Except.pure]

/-- The bytes between others are the slice of their places. -/
theorem slice_of_eq (before : Bytes) {part : Bytes} {start stop : Nat}
    (split : bytes = before ++ (part ++ after)) (first : start = before.length)
    (last : stop = start + part.length) : bytes.slice (ε := ε) start stop = .ok part := by
  subst split first last
  have inside : before.length ≤ before.length + part.length ∧
      before.length + part.length ≤ (before ++ (part ++ after)).length := by
    simp only [List.length_append]
    omega
  rw [slice, if_pos inside, List.drop_left, Nat.add_sub_cancel_left, List.take_left]

/-- The bytes behind others are the slice from their place on. -/
theorem sliceFrom_of_eq (before : Bytes) {part : Bytes} {start : Nat}
    (split : bytes = before ++ part) (first : start = before.length) :
    bytes.sliceFrom (ε := ε) start = .ok part := by
  have whole : bytes = before ++ (part ++ []) := by rw [split, List.append_nil]
  have last : bytes.length = start + part.length := by
    rw [split, first, List.length_append]
  exact slice_of_eq before whole first last

/-- The bytes of an array are copied into one of the same size. -/
theorem copy_of_eq {size : Nat} (count : bytes.length = size) :
    bytes.copy (ε := ε) size = .ok bytes := if_pos count

end Bytes

namespace Word

variable {ε : Type} {bytes after : Bytes} {place : Nat}

/-- The word of two bytes at a place. -/
def fetch16 (bytes : Bytes) (place : Nat) : Access ε UInt16 := do
  let digits ← bytes.fetchEach place 2
  return UInt16.ofNat (ofLittle digits)

/-- The word of four bytes at a place. -/
def fetch32 (bytes : Bytes) (place : Nat) : Access ε UInt32 := do
  let digits ← bytes.fetchEach place 4
  return UInt32.ofNat (ofLittle digits)

/-- The word of the eight bytes from one place up to another. -/
def fetch64 (bytes : Bytes) (start stop : Nat) : Access ε UInt64 := do
  let part ← bytes.slice start stop
  let digits ← part.copy 8
  return UInt64.ofNat (ofLittle digits)

/-- A word of two bytes is fetched from where it stands. -/
theorem fetch16_of_eq (before : Bytes) {word : UInt16}
    (split : bytes = before ++ (write16 word ++ after)) (count : place = before.length) :
    fetch16 (ε := ε) bytes place = .ok word := by
  have digits : bytes.fetchEach (ε := ε) place 2 = .ok (write16 word) :=
    Bytes.fetchEach_of_eq before split count
  rw [fetch16, digits, ok_bind, ofLittle_write16]
  rfl

/-- A word of eight bytes is fetched from where it stands. -/
theorem fetch64_of_eq (before : Bytes) {word : UInt64} {stop : Nat}
    (split : bytes = before ++ (write64 word ++ after)) (first : place = before.length)
    (last : stop = place + 8) : fetch64 (ε := ε) bytes place stop = .ok word := by
  have width : (write64 word).length = 8 := length_little 8 word.toNat
  have part : bytes.slice (ε := ε) place stop = .ok (write64 word) :=
    Bytes.slice_of_eq before split first (by rw [width, last])
  have digits := Bytes.copy_of_eq (ε := ε) width
  rw [fetch64, part, ok_bind, digits, ok_bind, ofLittle_write64]
  rfl

end Word

end BrokerWire

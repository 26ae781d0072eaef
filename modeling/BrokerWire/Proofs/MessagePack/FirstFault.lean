import BrokerWire.Proofs.MessagePack.Documents

/-!
# Documents from the front

A document is read from its first byte on, and the reading stops at the first byte that settles what
it comes to. So nothing behind a document is part of it, no document begins another one, and a fault
that is found stays one whatever follows; only a fault for want of bytes may be made good by more of
them. All of it is said of a reader once, and holds of what reads one after the other when it holds
of each.
-/
namespace BrokerWire.MessagePack

/-- Faults of bytes that end too early. -/
inductive Fault.EndsEarly : Fault → Prop where
  /-- They end where a marker is due. -/
  | marker : EndsEarly .markerMissing
  /-- They end inside a number or a length. -/
  | number : EndsEarly .numberMissing
  /-- They end inside text or bytes. -/
  | contents : EndsEarly .contentsMissing

/-- Faults of the bytes that are there. -/
inductive Fault.Settled : Fault → Prop where
  /-- The marker is admitted nowhere. -/
  | unexpectedMarker (marker : Marker) : Settled (.unexpectedMarker marker)
  /-- Arrays, maps and extensions stand one inside the other beyond the limit. -/
  | tooDeep : Settled .tooDeep
  /-- A name is not text. -/
  | notText (fault : Utf8.Fault) : Settled (.notText fault)
  /-- What stands there has no place in a value. -/
  | mismatch (reason : Mismatch) : Settled (.mismatch reason)

/-- No fault of the bytes that are there is one of bytes that end too early. -/
theorem Fault.Settled.not_endsEarly {fault : Fault} (settled : fault.Settled) :
    ¬fault.EndsEarly := by
  intro early
  cases early <;> contradiction

/-- A reader goes through its bytes from the front. -/
structure Forward {α : Type} (read : Bytes → Outcome (α × Bytes)) : Prop where
  /-- What it reads stands in front of the bytes that it leaves, and is read from in front of any
  others as well. -/
  ok : ∀ {bytes rest : Bytes} {result : α}, read bytes = .ok (result, rest) →
    ∃ front, bytes = front ++ rest ∧ ∀ more, read (front ++ more) = .ok (result, more)
  /-- It fails because its bytes end too early, or for what it has found, which more bytes do not
  change. -/
  error : ∀ {bytes : Bytes} {fault : Fault}, read bytes = .error fault →
    fault.EndsEarly ∨ fault.Settled ∧ ∀ more, read (bytes ++ more) = .error fault

namespace Forward

variable {α β : Type} {read : Bytes → Outcome (α × Bytes)} {next : α → Bytes → Outcome (β × Bytes)}

/-- A reader that takes nothing goes from the front. -/
theorem pure (result : α) : Forward fun bytes => .ok (result, bytes) where
  ok found := by
    obtain ⟨rfl, rfl⟩ := Prod.mk.inj (Except.ok.inj found)
    exact ⟨[], rfl, fun more => rfl⟩
  error failed := by contradiction

/-- So does one that has found a fault already. -/
theorem fail {fault : Fault} (settled : fault.Settled) :
    Forward fun _ => (.error fault : Outcome (α × Bytes)) where
  ok found := by contradiction
  error failed := by
    obtain rfl := Except.error.inj failed
    exact .inr ⟨settled, fun more => rfl⟩

/-- What has been read is read whatever follows, and leaves it. -/
theorem append (forward : Forward read) {bytes rest : Bytes} {result : α}
    (found : read bytes = .ok (result, rest)) (more : Bytes) :
    read (bytes ++ more) = .ok (result, rest ++ more) := by
  obtain ⟨front, rfl, again⟩ := forward.ok found
  rw [List.append_assoc]
  exact again (rest ++ more)

/-- Two readers one after the other go from the front when each of them does. -/
theorem bind (forward : Forward read) (following : ∀ result, Forward (next result)) :
    Forward fun bytes => read bytes >>= fun (result, rest) => next result rest where
  ok := by
    intro bytes rest made found
    obtain ⟨⟨result, middle⟩, first, second⟩ := bind_eq_ok_iff.mp found
    obtain ⟨front, rfl, again⟩ := forward.ok first
    obtain ⟨behind, rfl, further⟩ := (following result).ok second
    refine ⟨front ++ behind, (List.append_assoc ..).symm, fun more => ?_⟩
    rw [List.append_assoc, again, ok_bind]
    exact further more
  error := by
    intro bytes fault failed
    rcases bind_eq_error_iff.mp failed with first | ⟨⟨result, middle⟩, first, second⟩
    · rcases forward.error first with early | ⟨settled, stays⟩
      · exact .inl early
      · refine .inr ⟨settled, fun more => ?_⟩
        rw [stays more, error_bind]
    · rcases (following result).error second with early | ⟨settled, stays⟩
      · exact .inl early
      · refine .inr ⟨settled, fun more => ?_⟩
        rw [forward.append first more, ok_bind]
        exact stays more

/-- Making something of what is read changes nothing in how it is read. -/
theorem map (forward : Forward read) (make : α → β) :
    Forward fun bytes => read bytes >>= fun (result, rest) => .ok (make result, rest) :=
  forward.bind fun result => pure (make result)

end Forward

/-- A marker is read from the front. -/
theorem readMarker_forward : Forward readMarker where
  ok := by
    intro bytes rest marker found
    cases bytes with
    | nil => contradiction
    | cons byte bytes =>
      obtain ⟨rfl, rfl⟩ := Prod.mk.inj (Except.ok.inj found)
      exact ⟨[byte], rfl, fun more => rfl⟩
  error := by
    intro bytes fault failed
    cases bytes with
    | nil =>
      obtain rfl := Except.error.inj failed
      exact .inl .marker
    | cons byte bytes => contradiction

/-- A number is read from the front. -/
theorem readNumber_forward (width : Nat) : Forward (readNumber width) where
  ok := by
    intro bytes rest number found
    obtain ⟨whole, fits⟩ := number_of_readNumber found
    exact ⟨Word.big width number, whole, readNumber_big fits⟩
  error := by
    intro bytes fault failed
    unfold readNumber at failed
    cases taken : Word.readBig width bytes with
    | none =>
      rw [taken] at failed
      obtain rfl := Except.error.inj failed
      exact .inl .number
    | some parts =>
      rw [taken] at failed
      contradiction

/-- Contents are read from the front. -/
theorem readContents_forward (length : Nat) : Forward (readContents length) where
  ok := by
    intro bytes rest contents found
    obtain ⟨whole, rfl⟩ := contents_of_readContents found
    exact ⟨contents, whole, readContents_append contents⟩
  error := by
    intro bytes fault failed
    unfold readContents at failed
    cases taken : Bytes.split? length bytes with
    | none =>
      rw [taken] at failed
      obtain rfl := Except.error.inj failed
      exact .inl .contents
    | some parts =>
      rw [taken] at failed
      contradiction

/-- The scalar of a marker is read from the front. -/
theorem Marker.readScalar_forward (marker : Marker) : Forward marker.readScalar := by
  cases marker with
  | positive number | negative above | nil | bool flag => exact .pure _
  | unsigned width =>
    exact (readNumber_forward _).map fun number =>
      Scalar.unsigned (UInt64.ofNat number)
  | signed width =>
    exact (readNumber_forward _).map fun number =>
      Scalar.signed (Int64.ofInt (signedOf width.bytes number))
  | float32 =>
    exact (readNumber_forward _).map fun bits =>
      Scalar.float (Binary64.ofBinary32 (UInt32.ofNat bits))
  | float64 => exact (readNumber_forward _).map fun bits => Scalar.float ⟨UInt64.ofNat bits⟩
  | _ => exact .fail (.unexpectedMarker _)

/-- What a marker announces is read from the front. -/
theorem Marker.readHead_forward (marker : Marker) : Forward marker.readHead := by
  cases marker with
  | fixMap count | fixArray count | fixText length | fixExtension length => exact .pure _
  | text width => exact (readNumber_forward _).map Head.text
  | binary width => exact (readNumber_forward _).map Head.binary
  | array width => exact (readNumber_forward _).map (Head.container .array)
  | map width => exact (readNumber_forward _).map (Head.container .map)
  | extension width => exact (readNumber_forward _).map (Head.container .extension)
  | _ => exact (Marker.readScalar_forward _).map Head.scalar

/-- A head is read from the front. -/
theorem readHead_forward : Forward readHead :=
  readMarker_forward.bind Marker.readHead_forward

/-- What is made of a name's contents, and the fault where they are not text. -/
def namedBy (otherwise : Utf8.Fault → Fault) (contents rest : Bytes) : Outcome (String × Bytes) :=
  match Utf8.decode contents with
  | .ok written => .ok (written, rest)
  | .error fault => .error (otherwise fault)

/-- What is read of a name behind its head. -/
def readTextBehind (levels : Nat) : Head → Bytes → Outcome (String × Bytes)
  | .scalar scalar, _ => .error (.wrongKind scalar.found Entries.expectedName)
  | .text length, rest => do
    let (contents, rest) ← readContents length rest
    namedBy .notText contents rest
  | .binary length, rest => do
    let (contents, rest) ← readContents length rest
    namedBy (fun _ => .mismatch (.wrongValue .bytes Entries.expectedName)) contents rest
  | .container kind _, _ =>
    if levels = 0 then .error .tooDeep
    else .error (.wrongKind kind.found Entries.expectedName)

/-- A name is its head and what is read behind it. -/
theorem readText_eq_bind (levels : Nat) (bytes : Bytes) :
    readText levels bytes =
      readHead bytes >>= fun (head, rest) => readTextBehind levels head rest := by
  unfold readText
  cases readHead bytes with
  | error fault => rfl
  | ok found =>
    obtain ⟨head, rest⟩ := found
    cases head <;> rfl

/-- The contents of a name are settled by themselves. -/
theorem namedBy_forward {otherwise : Utf8.Fault → Fault}
    (settled : ∀ fault, (otherwise fault).Settled) (contents : Bytes) :
    Forward (namedBy otherwise contents) := by
  unfold namedBy
  cases Utf8.decode contents with
  | ok written => exact .pure written
  | error fault => exact .fail (settled fault)

/-- A name is read from the front. What stands in its place instead is a fault at its head. -/
theorem readText_forward (levels : Nat) : Forward (readText levels) := by
  have behind : ∀ head, Forward (readTextBehind levels head) := by
    intro head
    cases head with
    | scalar scalar => exact .fail (.mismatch _)
    | text length =>
      exact (readContents_forward length).bind (namedBy_forward .notText)
    | binary length =>
      exact (readContents_forward length).bind (namedBy_forward fun _ => .mismatch _)
    | container kind count =>
      unfold readTextBehind
      by_cases none : levels = 0
      · simp only [if_pos none]
        exact .fail .tooDeep
      · simp only [if_neg none]
        exact .fail (.mismatch _)
  rw [funext (readText_eq_bind levels)]
  exact readHead_forward.bind behind

section Objects

variable {α : Type} {readOne : Bytes → Outcome (α × Bytes)}

/-- Objects one after the other are read from the front when each of them is. -/
theorem readMany_forward (each : Forward readOne) (count : Nat) :
    Forward (readMany readOne count) := by
  induction count with
  | zero => exact .pure []
  | succ count ih => exact each.bind fun first => ih.map (List.cons first)

/-- An entry is read from the front when its value is. -/
theorem readEntry_forward (item : Forward readOne) (levels : Nat) :
    Forward (readEntry levels readOne) :=
  (readText_forward levels).bind fun name => item.map (Prod.mk name)

end Objects

/-- A value is read from the front. The induction is on the levels that it may enter. -/
theorem readValue_forward (levels : Nat) : Forward (readValue levels) := by
  induction levels using Nat.strongRecOn with
  | ind levels ih =>
    have behind : ∀ head, Forward (readBehind levels head) := by
      intro head
      cases head with
      | scalar scalar => exact .pure scalar.value
      | text length => exact (readContents_forward length).map textValue
      | binary length => exact (readContents_forward length).map Value.binary
      | container kind count =>
        cases levels with
        | zero => exact .fail .tooDeep
        | succ levels =>
          have inside := ih levels (Nat.lt_succ_self levels)
          cases kind with
          | array => exact (readMany_forward inside count).map Value.array
          | map =>
            exact (readMany_forward (readEntry_forward inside levels) count).map fun pairs =>
              Value.map (Entries.collect pairs)
          | extension => exact .fail (.mismatch _)
    rw [funext (readValue_eq_bind levels)]
    exact readHead_forward.bind behind

section Whole

variable {α : Type} {read : Bytes → Outcome (α × Bytes)}

/-- Bytes are not read as a whole for a fault in them, or for what is left behind what is read. -/
theorem readWhole_eq_error_iff {bytes : Bytes} {fault : Fault} :
    readWhole read bytes = .error fault ↔ read bytes = .error fault ∨
      ∃ result rest, read bytes = .ok (result, rest) ∧ rest ≠ [] ∧
        fault = .trailing rest.length := by
  unfold readWhole
  rw [bind_eq_error_iff]
  apply or_congr_right
  constructor
  · rintro ⟨⟨result, rest⟩, taken, failed⟩
    cases rest with
    | nil => contradiction
    | cons byte rest =>
      have found := Except.error.inj failed
      exact ⟨result, byte :: rest, taken, List.cons_ne_nil byte rest, found.symm⟩
  · rintro ⟨result, rest, taken, behind, rfl⟩
    refine ⟨(result, rest), taken, ?_⟩
    cases rest with
    | nil => contradiction
    | cons byte rest => rfl

namespace Forward

/-- Bytes behind what is read as a whole are too many. -/
theorem readWhole_append (forward : Forward read) {bytes more : Bytes} {result : α}
    (whole : readWhole read bytes = .ok result) (behind : more ≠ []) :
    readWhole read (bytes ++ more) = .error (.trailing more.length) := by
  have taken := forward.append (readWhole_eq_ok_iff.mp whole) more
  exact readWhole_eq_error_iff.mpr (.inr ⟨result, more, taken, behind, rfl⟩)

/-- The front of what is read as a whole ends too early. -/
theorem readWhole_front (forward : Forward read) {front behind : Bytes} {result : α}
    (whole : readWhole read (front ++ behind) = .ok result) (cut : behind ≠ []) :
    ∃ fault, readWhole read front = .error fault ∧ fault.EndsEarly := by
  have taken := readWhole_eq_ok_iff.mp whole
  cases here : read front with
  | ok found =>
    -- What the front holds is read from the whole as well, and leaves what was cut off.
    obtain ⟨other, rest⟩ := found
    have again := forward.append here behind
    rw [taken] at again
    have left := (Prod.mk.inj (Except.ok.inj again)).2
    have nothing := List.append_eq_nil_iff.mp left.symm
    exact absurd nothing.2 cut
  | error fault =>
    refine ⟨fault, readWhole_eq_error_iff.mpr (.inl here), ?_⟩
    rcases forward.error here with early | ⟨settled, stays⟩
    · exact early
    · rw [stays behind] at taken
      contradiction

/-- No reader finds bytes behind what it reads; it is what reads a whole that does. -/
theorem ne_trailing (forward : Forward read) (bytes : Bytes) (count : Nat) :
    read bytes ≠ .error (.trailing count) := by
  intro failed
  rcases forward.error failed with early | ⟨settled, stays⟩
  · cases early
  · cases settled

/-- Bytes are too many by those that follow the front that is read as a whole. -/
theorem readWhole_eq_trailing_iff (forward : Forward read) {bytes : Bytes} {count : Nat} :
    readWhole read bytes = .error (.trailing count) ↔ 0 < count ∧
      ∃ front behind result, bytes = front ++ behind ∧ behind.length = count ∧
        readWhole read front = .ok result := by
  constructor
  · intro failed
    rcases readWhole_eq_error_iff.mp failed with inside | ⟨result, rest, taken, behind, same⟩
    · exact absurd inside (forward.ne_trailing bytes count)
    · obtain rfl := Fault.trailing.inj same
      obtain ⟨front, rfl, again⟩ := forward.ok taken
      have alone := again []
      rw [List.append_nil] at alone
      have whole := readWhole_eq_ok_iff.mpr alone
      exact ⟨List.length_pos_iff.mpr behind, front, rest, result, rfl, rfl, whole⟩
  · rintro ⟨some, front, behind, result, rfl, rfl, whole⟩
    exact forward.readWhole_append whole (List.length_pos_iff.mp some)

/-- Every fault is one of bytes that end too early, of the bytes that are there, or of bytes that
follow. -/
theorem readWhole_faults (forward : Forward read) {bytes : Bytes} {fault : Fault}
    (failed : readWhole read bytes = .error fault) :
    fault.EndsEarly ∨ fault.Settled ∨ ∃ count, fault = .trailing count := by
  rcases readWhole_eq_error_iff.mp failed with inside | ⟨result, rest, taken, behind, same⟩
  · rcases forward.error inside with early | ⟨settled, stays⟩
    · exact .inl early
    · exact .inr (.inl settled)
  · exact .inr (.inr ⟨rest.length, same⟩)

/-- A fault of the bytes that are there stays whatever follows them. -/
theorem readWhole_stays (forward : Forward read) {bytes : Bytes} {fault : Fault}
    (failed : readWhole read bytes = .error fault) (settled : fault.Settled) (more : Bytes) :
    readWhole read (bytes ++ more) = .error fault := by
  rcases readWhole_eq_error_iff.mp failed with inside | ⟨result, rest, taken, behind, rfl⟩
  · rcases forward.error inside with early | ⟨settled, stays⟩
    · exact absurd early settled.not_endsEarly
    · exact readWhole_eq_error_iff.mpr (.inl (stays more))
  · cases settled

end Forward

end Whole

/-- Decoding of a value goes from the front and stops at the first fault. -/
structure DecodedFromFront (bytes : Bytes) : Prop where
  /-- Whatever follows a document is too much. -/
  extended : ∀ {value : Value}, decodeValue bytes = .ok value → ∀ more ≠ [],
    decodeValue (bytes ++ more) = .error (.trailing more.length)
  /-- Whatever front a document is cut down to ends too early. -/
  shortened : ∀ {value : Value}, decodeValue bytes = .ok value → ∀ {front behind : Bytes},
    bytes = front ++ behind → behind ≠ [] →
      ∃ fault, decodeValue front = .error fault ∧ fault.EndsEarly
  /-- There are some bytes too many exactly when the others are a document. -/
  trailing : ∀ count, decodeValue bytes = .error (.trailing count) ↔ 0 < count ∧
    ∃ front behind value, bytes = front ++ behind ∧ behind.length = count ∧
      decodeValue front = .ok value
  /-- A fault of the bytes that are there, as it is worded, stays whatever follows them. -/
  settled : ∀ {fault : Fault}, decodeValue bytes = .error fault → fault.Settled → ∀ more,
    decodeValue (bytes ++ more) = .error fault
  /-- There are no other faults. -/
  faults : ∀ {fault : Fault}, decodeValue bytes = .error fault →
    fault.EndsEarly ∨ fault.Settled ∨ ∃ count, fault = .trailing count
  /-- Bytes that are too many are counted in the wording. -/
  wording : ∀ count, (Fault.trailing count).message =
    toString count ++ " trailing bytes after payload"

/-- Values are decoded from the front, and decoding stops at the first fault. No document begins
another one, and more bytes are of use only where they were missing. -/
theorem decodeValue_fromFront (bytes : Bytes) : DecodedFromFront bytes where
  extended := by
    intro value whole more behind
    exact (readValue_forward nestingLimit).readWhole_append whole behind
  shortened := by
    intro value whole front behind split cut
    rw [split] at whole
    exact (readValue_forward nestingLimit).readWhole_front whole cut
  trailing := by
    intro count
    exact (readValue_forward nestingLimit).readWhole_eq_trailing_iff
  settled := by
    intro fault failed settled more
    exact (readValue_forward nestingLimit).readWhole_stays failed settled more
  faults := by
    intro fault failed
    exact (readValue_forward nestingLimit).readWhole_faults failed
  wording := by
    intro count
    rfl

/-- The second item of an array is missing, and is made good by one more byte; an extension in its
place is not. -/
example :
    decodeValue [0x92, 0xC0] = .error .markerMissing ∧
      decodeValue [0x92, 0xC0, 0xC0] = .ok (.array [.nil, .nil]) ∧
      decodeValue [0x92, 0xC0, 0xC7, 0x00] = .error (.wrongKind .wrapped Value.expected) ∧
      decodeValue [0x92, 0xC0, 0xC7, 0x00, 0xC0] = .error (.wrongKind .wrapped Value.expected) := by
  refine ⟨?_, ?_, ?_, ?_⟩ <;> rfl

end BrokerWire.MessagePack

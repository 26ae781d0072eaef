import BrokerWire.Proofs.MessagePack.Decoded
import BrokerWire.Proofs.Value.Collecting

/-!
# Where values come from

A value is decoded from a document, taken from what another source of documents offers, made of an
integer, a truth value or a text, or found inside such a value. Wherever it comes from, it is
canonical. Only a value that is put together by hand can be otherwise.
-/
namespace BrokerWire.Value

/-- A value without contents is canonical. -/
theorem Simple.canonical {value : Value} (simple : Simple value) : value.Canonical :=
  .leaf simple.children_eq_nil simple.proper

/-- What comes of a canonical value as it is, is canonical. -/
theorem Canonical.of_ok {value other : Value} (canonical : value.Canonical)
    (same : (.ok value : Except Mismatch Value) = .ok other) : other.Canonical :=
  Except.ok.inj same ▸ canonical

/-- A signed integer stands under the constructor of its sign. -/
theorem simple_ofInt64 (number : Int64) : Simple (ofInt64 number) := by
  unfold ofInt64
  by_cases positive : 0 ≤ number
  · rw [if_pos positive]
    exact .uint _
  · rw [if_neg positive]
    exact .int (Int64.not_le.mp positive)

/-- A text is canonical. -/
theorem canonical_text (written : String) : (text written).Canonical := .leaf rfl trivial

/-- Binary data are canonical. -/
theorem canonical_binary (bytes : Bytes) : (binary bytes).Canonical := .leaf rfl trivial

/-- An array of canonical items is canonical. -/
theorem canonical_array {items : List Value} (each : ∀ item ∈ items, item.Canonical) :
    (array items).Canonical := .intro trivial each

/-- A map of collected pairs is canonical if their values are. -/
theorem canonical_map_collect {pairs : List (String × Value)}
    (each : ∀ pair ∈ pairs, pair.2.Canonical) : (map (Entries.collect pairs)).Canonical := by
  rw [Entries.collect_eq_merge]
  refine .intro (Entries.nodup_merge pairs) (List.forall_mem_map.mpr ?_)
  intro entry member
  exact each entry (Entries.mem_of_mem_merge member)

mutual

/-- What is made of an event is canonical. -/
theorem canonical_of_ofEvent : ∀ (event : Event) {value : Value},
    ofEvent event = .ok value → value.Canonical
  | .unit, _, made | .none, _, made => by
    rw [ofEvent] at made
    exact Simple.nil.canonical.of_ok made
  | .some content, _, made => by
    rw [ofEvent] at made
    exact canonical_of_ofEvent content made
  | .bool flag, _, made => by
    rw [ofEvent] at made
    exact (Simple.bool flag).canonical.of_ok made
  | .signed number, _, made => by
    rw [ofEvent] at made
    exact (simple_ofInt64 number).canonical.of_ok made
  | .unsigned number, _, made => by
    rw [ofEvent] at made
    exact (Simple.uint number).canonical.of_ok made
  | .float number, _, made => by
    rw [ofEvent] at made
    exact (Simple.float number).canonical.of_ok made
  | .text written, _, made => by
    rw [ofEvent] at made
    exact (canonical_text written).of_ok made
  | .bytes content, _, made => by
    rw [ofEvent] at made
    exact (canonical_binary content).of_ok made
  | .sequence items, _, made => by
    rw [ofEvent] at made
    cases read : ofItems items with
    | error mismatch => simp [read, Except.map] at made
    | ok values =>
      rw [read] at made
      exact (canonical_array (canonical_of_ofItems items read)).of_ok made
  | .map entries, _, made => by
    rw [ofEvent] at made
    cases read : ofEntries entries with
    | error mismatch => simp [read, Except.map] at made
    | ok pairs =>
      rw [read] at made
      exact (canonical_map_collect (canonical_of_ofEntries entries read)).of_ok made
  | .wrapped _, _, made | .wide _, _, made | .failure _, _, made => by
    rw [ofEvent] at made
    contradiction

/-- What is made of events in order is canonical. -/
theorem canonical_of_ofItems : ∀ (events : List Event) {values : List Value},
    ofItems events = .ok values → ∀ value ∈ values, value.Canonical
  | [], _, made => by
    rw [ofItems] at made
    obtain rfl := Except.ok.inj made
    exact List.forall_mem_nil _
  | event :: events, _, made => by
    rw [ofItems] at made
    obtain ⟨value, first, made⟩ := bind_eq_ok_iff.mp made
    obtain ⟨values, others, made⟩ := bind_eq_ok_iff.mp made
    obtain rfl := Except.ok.inj made
    exact List.forall_mem_cons.mpr
      ⟨canonical_of_ofEvent event first, canonical_of_ofItems events others⟩

/-- What is made of the events under names is canonical. -/
theorem canonical_of_ofEntries : ∀ (events : List (Event × Event))
    {pairs : List (String × Value)}, ofEntries events = .ok pairs →
      ∀ pair ∈ pairs, pair.2.Canonical
  | [], _, made => by
    rw [ofEntries] at made
    obtain rfl := Except.ok.inj made
    exact List.forall_mem_nil _
  | (naming, event) :: events, _, made => by
    rw [ofEntries] at made
    obtain ⟨name, named, made⟩ := bind_eq_ok_iff.mp made
    obtain ⟨value, first, made⟩ := bind_eq_ok_iff.mp made
    obtain ⟨pairs, others, made⟩ := bind_eq_ok_iff.mp made
    obtain rfl := Except.ok.inj made
    exact List.forall_mem_cons.mpr
      ⟨canonical_of_ofEvent event first, canonical_of_ofEntries events others⟩

end

/-- What bytes are decoded into is canonical. -/
theorem canonical_of_decodeValue {bytes : Bytes} {value : Value}
    (decoded : MessagePack.decodeValue bytes = .ok value) : value.Canonical := by
  obtain ⟨depth, within, denotes⟩ := MessagePack.exists_denotes_of_decodeValue decoded
  exact denotes.everywhere MessagePack.Denotes.proper

/-- The ways in which a value comes about. -/
inductive Made : Value → Prop where
  /-- It is decoded from a document. -/
  | decoded {bytes : Bytes} {value : Value} (decoded : MessagePack.decodeValue bytes = .ok value) :
      Made value
  /-- It is made of what another source of documents offers. -/
  | offered {event : Event} {value : Value} (taken : ofEvent event = .ok value) : Made value
  /-- It is made of a signed integer. -/
  | signed (number : Int64) : Made (ofInt64 number)
  /-- It is made of an unsigned integer. -/
  | unsigned (number : UInt64) : Made (uint number)
  /-- It is made of a truth value. -/
  | bool (flag : Bool) : Made (bool flag)
  /-- It is made of a text. -/
  | text (written : String) : Made (text written)
  /-- It is found inside a value that has come about. -/
  | inside {value child : Value} (made : Made value) (member : child ∈ value.children) : Made child

/-- Whatever comes about is canonical. -/
theorem Made.canonical {value : Value} (made : Made value) : value.Canonical := by
  induction made with
  | decoded decoded => exact canonical_of_decodeValue decoded
  | offered taken => exact canonical_of_ofEvent _ taken
  | signed number => exact (simple_ofInt64 number).canonical
  | unsigned number => exact (Simple.uint number).canonical
  | bool flag => exact (Simple.bool flag).canonical
  | text written => exact canonical_text written
  | inside made member ih => exact ih.child _ member

end BrokerWire.Value

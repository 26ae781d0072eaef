import BrokerWire.Proofs.Value.Entries
import BrokerWire.Value.Event

/-!
# Collecting pair by pair

While pairs are collected, the index has a place for exactly the names present, and the entry of
the name stands at that place. So writing over an entry never needs one that is not there. What is
left in the end is told by the pairs alone: their distinct names in the order of first occurrence,
each with the value of its last one.
-/
namespace BrokerWire.Entries

variable {α : Type}

/-- The entries after writing pairs one after the other. -/
def putAll (entries pairs : List (String × α)) : List (String × α) :=
  pairs.foldl (fun entries (name, value) => put entries name value) entries

/-- The first pair is written first. -/
theorem putAll_cons (entries : List (String × α)) (name : String) (value : α)
    (pairs : List (String × α)) :
    putAll entries ((name, value) :: pairs) = putAll (put entries name value) pairs := rfl

/-- Merged entries are written behind nothing. -/
theorem merge_eq_putAll (pairs : List (String × α)) : merge pairs = putAll [] pairs := rfl

/-- The first entry is found under its own name, and those behind it under any other. -/
theorem lookup_cons_eq_ite (entries : List (String × α)) (name : String) (value : α)
    (sought : String) :
    List.lookup sought ((name, value) :: entries) =
      if sought = name then some value else entries.lookup sought := by
  rw [List.lookup_cons]
  by_cases same : sought = name
  · rw [if_pos same, beq_iff_eq.mpr same]
  · rw [if_neg same, beq_eq_false_iff_ne.mpr same]

/-- Writing a value changes what is found under its name, and nothing else. -/
theorem lookup_put (entries : List (String × α)) (name : String) (value : α) (sought : String) :
    (put entries name value).lookup sought =
      if sought = name then some value else entries.lookup sought := by
  induction entries with
  | nil => exact lookup_cons_eq_ite [] name value sought
  | cons entry rest ih =>
    obtain ⟨present, old⟩ := entry
    by_cases here : present = name
    · subst here
      rw [put, if_pos rfl, lookup_cons_eq_ite, lookup_cons_eq_ite]
      split <;> rfl
    · rw [put, if_neg here, lookup_cons_eq_ite, lookup_cons_eq_ite, ih]
      by_cases same : sought = present
      · have other : sought ≠ name := fun equal => here (same.symm.trans equal)
        rw [if_pos same, if_neg other]
        simp only [same, if_true]
      · rw [if_neg same]
        simp only [if_neg same]

/-- Under a name stands the last value that was written there, or else what stood there before. -/
theorem lookup_putAll (entries pairs : List (String × α)) (sought : String) :
    (putAll entries pairs).lookup sought = (pairs.reverse ++ entries).lookup sought := by
  induction pairs generalizing entries with
  | nil => rfl
  | cons pair pairs ih =>
    obtain ⟨name, value⟩ := pair
    rw [putAll_cons, ih, List.lookup_append, lookup_put, List.reverse_cons, List.append_assoc,
      List.lookup_append, List.singleton_append, lookup_cons_eq_ite]

/-- Under a name stands the value of its last occurrence, if it occurs. -/
theorem lookup_merge (pairs : List (String × α)) (sought : String) :
    (merge pairs).lookup sought = pairs.reverse.lookup sought := by
  rw [merge_eq_putAll, lookup_putAll, List.append_nil]

/-- The name of the first entry is the first name. -/
theorem names_cons (entries : List (String × α)) (name : String) (value : α) :
    names ((name, value) :: entries) = name :: names entries := rfl

/-- Writing a value adds its name behind all others where it is new. -/
theorem names_put (entries : List (String × α)) (name : String) (value : α) :
    names (put entries name value) =
      if name ∈ names entries then names entries else names entries ++ [name] := by
  induction entries with
  | nil => rfl
  | cons entry rest ih =>
    obtain ⟨present, old⟩ := entry
    by_cases here : present = name
    · simp [put, here, names]
    · rw [put, if_neg here, names_cons, names_cons, ih]
      by_cases later : name ∈ names rest
      · rw [if_pos later, if_pos (List.mem_cons_of_mem present later)]
      · have absent : name ∉ present :: names rest := by
          simp only [List.mem_cons, not_or]
          exact ⟨Ne.symm here, later⟩
        rw [if_neg later, if_neg absent, List.cons_append]

/-- Writing pairs adds the new ones among their names, in the order of first occurrence. -/
theorem names_putAll (entries pairs : List (String × α)) :
    names (putAll entries pairs) =
      names entries ++ ((names pairs).filter fun name => name ∉ names entries).eraseDups := by
  induction pairs generalizing entries with
  | nil => simp [putAll, names]
  | cons pair pairs ih =>
    obtain ⟨name, value⟩ := pair
    rw [putAll_cons, ih, names_put, names_cons, List.filter_cons]
    by_cases known : name ∈ names entries
    · simp [known]
    · -- The name is known from here on, so the later pairs that repeat it add none.
      have later : ((names pairs).filter fun other => other ∉ names entries ++ [name]) =
          ((names pairs).filter fun other => other ∉ names entries).filter
            fun other => !other == name := by
        rw [List.filter_filter]
        apply List.filter_congr
        intro other _
        by_cases same : other = name <;> simp [same]
      rw [if_neg known, if_pos (by simpa using known), later, List.eraseDups_cons]
      simp

/-- The names are the distinct ones of the pairs, in the order of first occurrence. -/
theorem names_merge (pairs : List (String × α)) :
    names (merge pairs) = (names pairs).eraseDups := by
  have every : ((names pairs).filter fun name => name ∉ names ([] : List (String × α))) =
      names pairs := by simp [names]
  rw [merge_eq_putAll, names_putAll, every]
  rfl

/-- Names stay distinct when a value is written. -/
theorem nodup_put {entries : List (String × α)} (distinct : (names entries).Nodup) (name : String)
    (value : α) : (names (put entries name value)).Nodup := by
  rw [names_put]
  by_cases known : name ∈ names entries
  · rw [if_pos known]
    exact distinct
  · rw [if_neg known, List.nodup_append]
    refine ⟨distinct, by simp, ?_⟩
    intro other member last same
    rw [List.mem_singleton] at same
    intro equal
    exact known (same ▸ equal ▸ member)

/-- Names stay distinct however many values are written. -/
theorem nodup_putAll {entries : List (String × α)} (distinct : (names entries).Nodup)
    (pairs : List (String × α)) : (names (putAll entries pairs)).Nodup := by
  induction pairs generalizing entries with
  | nil => exact distinct
  | cons pair pairs ih => exact ih (nodup_put distinct pair.1 pair.2)

/-- No name stands twice among merged entries. -/
theorem nodup_merge (pairs : List (String × α)) : (names (merge pairs)).Nodup := by
  have none : (names ([] : List (String × α))).Nodup := List.nodup_nil
  exact nodup_putAll none pairs

/-- An entry is the one that was written, or has been there before. -/
theorem mem_put {entries : List (String × α)} {name : String} {value : α} {entry : String × α}
    (member : entry ∈ put entries name value) : entry ∈ entries ∨ entry = (name, value) := by
  induction entries with
  | nil => exact .inr (List.mem_singleton.mp member)
  | cons first rest ih =>
    obtain ⟨present, old⟩ := first
    by_cases here : present = name
    · rw [put, if_pos here, List.mem_cons, here] at member
      obtain written | later := member
      · exact .inr written
      · exact .inl (List.mem_cons_of_mem _ later)
    · rw [put, if_neg here, List.mem_cons] at member
      obtain same | later := member
      · exact .inl (same ▸ List.mem_cons_self ..)
      · exact (ih later).imp_left (List.mem_cons_of_mem _)

/-- An entry is one of the pairs that were written, or has been there before. -/
theorem mem_putAll {entries pairs : List (String × α)} {entry : String × α}
    (member : entry ∈ putAll entries pairs) : entry ∈ entries ∨ entry ∈ pairs := by
  induction pairs generalizing entries with
  | nil => exact .inl member
  | cons pair pairs ih =>
    obtain written | later := ih member
    · obtain before | same := mem_put written
      · exact .inl before
      · exact .inr (same ▸ List.mem_cons_self ..)
    · exact .inr (List.mem_cons_of_mem _ later)

/-- Merged entries are some of the pairs. -/
theorem mem_of_mem_merge {pairs : List (String × α)} {entry : String × α}
    (member : entry ∈ merge pairs) : entry ∈ pairs :=
  (mem_putAll member).resolve_left List.not_mem_nil

section Bounds

variable {β : Type} (held : String × α → List β)

/-- What entries hold grows by no more than what is written. -/
theorem length_flatMap_put_le (entries : List (String × α)) (name : String) (value : α) :
    ((put entries name value).flatMap held).length ≤
      (entries.flatMap held).length + (held (name, value)).length := by
  induction entries with
  | nil => simp [put]
  | cons entry rest ih =>
    obtain ⟨present, old⟩ := entry
    by_cases here : present = name
    · rw [put, if_pos here, here]
      simp only [List.flatMap_cons, List.length_append]
      omega
    · rw [put, if_neg here]
      simp only [List.flatMap_cons, List.length_append]
      omega

/-- What entries hold grows by no more than what all pairs written hold. -/
theorem length_flatMap_putAll_le (entries pairs : List (String × α)) :
    ((putAll entries pairs).flatMap held).length ≤
      (entries.flatMap held).length + (pairs.flatMap held).length := by
  induction pairs generalizing entries with
  | nil => exact Nat.le_refl _
  | cons pair pairs ih =>
    obtain ⟨name, value⟩ := pair
    have others := ih (put entries name value)
    have one := length_flatMap_put_le held entries name value
    rw [putAll_cons, List.flatMap_cons, List.length_append]
    omega

/-- Merged entries hold no more than the pairs do. -/
theorem length_flatMap_merge_le (pairs : List (String × α)) :
    ((merge pairs).flatMap held).length ≤ (pairs.flatMap held).length := by
  have bound := length_flatMap_putAll_le held [] pairs
  rw [List.flatMap_nil, List.length_nil, Nat.zero_add] at bound
  exact bound

end Bounds

/-- Merged entries are no more than the pairs. -/
theorem length_merge_le (pairs : List (String × α)) : (merge pairs).length ≤ pairs.length := by
  have bound := length_flatMap_merge_le (fun entry => [entry]) pairs
  simpa using bound

namespace Collector

/-- Write over the value of the entry at a place, which has to stand there. -/
def overwrite? (collector : Collector α) (place : Nat) (value : α) : Option (Collector α) :=
  collector.entries[place]?.map fun entry =>
    { collector with entries := collector.entries.setIfInBounds place (entry.1, value) }

/-- Take one pair by trusting the index: nothing comes of it where the index names a place without
an entry. -/
def add? (collector : Collector α) (name : String) (value : α) : Option (Collector α) :=
  match collector.places[name]? with
  | some place => collector.overwrite? place value
  | none =>
    some {
      entries := collector.entries.push (name, value)
      places := collector.places.insert name collector.entries.size }

/-- Take pairs one after the other. -/
def addAll (collector : Collector α) (pairs : List (String × α)) : Collector α :=
  pairs.foldl (fun collector (name, value) => collector.add name value) collector

/-- Take pairs one after the other by trusting the index. -/
def addAll? (collector : Collector α) (pairs : List (String × α)) : Option (Collector α) :=
  pairs.foldlM (fun collector pair => collector.add? pair.1 pair.2) collector

/-- A place is the one that the index tells of a name exactly where the entry of the name
stands. -/
theorem known_iff_of_indexed {collector : Collector α} (indexed : collector.Indexed)
    (name : String) (place : Nat) :
    collector.places[name]? = some place ↔
      ∃ value, collector.entries[place]? = some (name, value) := by
  rw [indexed name place, names, List.getElem?_map, Option.map_eq_some_iff, Array.getElem?_toList]
  constructor
  · rintro ⟨⟨present, value⟩, here, rfl⟩
    exact ⟨value, here⟩
  · rintro ⟨value, here⟩
    exact ⟨(name, value), here, rfl⟩

/-- An indexed collector may trust its index. -/
theorem add?_of_indexed {collector : Collector α} (indexed : collector.Indexed) (name : String)
    (value : α) : collector.add? name value = some (collector.add name value) := by
  unfold add? add
  cases known : collector.places[name]? with
  | none => rfl
  | some place =>
    obtain ⟨old, here⟩ := (known_iff_of_indexed indexed name place).mp known
    simp only [overwrite?, here, Option.map_some]

/-- A collector stays indexed however many pairs it takes. -/
theorem addAll_indexed {collector : Collector α} (indexed : collector.Indexed)
    (pairs : List (String × α)) : (collector.addAll pairs).Indexed := by
  induction pairs generalizing collector with
  | nil => exact indexed
  | cons pair pairs ih => exact ih (add_indexed indexed pair.1 pair.2).2

/-- An indexed collector may trust its index however many pairs it takes. -/
theorem addAll?_of_indexed {collector : Collector α} (indexed : collector.Indexed)
    (pairs : List (String × α)) : collector.addAll? pairs = some (collector.addAll pairs) := by
  induction pairs generalizing collector with
  | nil => rfl
  | cons pair pairs ih =>
    have step := add?_of_indexed indexed pair.1 pair.2
    have still := (add_indexed indexed pair.1 pair.2).2
    unfold addAll? at ih ⊢
    rw [List.foldlM_cons, step]
    exact ih still

end Collector

/-- What collecting pairs comes to, told without an index, and how the index stands by the entries
meanwhile. -/
structure CollectedPlainly (pairs : List (String × Value)) : Prop where
  /-- The entries are those that writing the pairs one by one without an index leaves. -/
  plain : collect pairs = merge pairs
  /-- A map that a source of documents offers as these pairs has these entries. -/
  offered : ∀ events, Value.ofEntries events = .ok pairs →
    Value.ofEvent (.map events) = .ok (.map (merge pairs))
  /-- After every pair the index tells of exactly the names present, and of each the place where
  its entry stands. -/
  indexed : ∀ taken, taken <+: pairs → ∀ (name : String) (place : Nat),
    (Collector.empty.addAll taken).places[name]? = some place ↔
      ∃ value, (Collector.empty.addAll taken).entries[place]? = some (name, value)
  /-- So no place without an entry is ever written over, and the index may be trusted. -/
  trusted : (Collector.empty.addAll? pairs).map (·.entries.toList) = some (collect pairs)
  /-- The names are the distinct ones of the pairs, in the order of first occurrence. -/
  named : names (collect pairs) = (names pairs).eraseDups
  /-- None of them stands there twice. -/
  distinct : (names (collect pairs)).Nodup
  /-- Under each name stands the value of its last occurrence, if it occurs. -/
  found : ∀ name, (Value.map (collect pairs)).get? name = pairs.reverse.lookup name

/-- Pairs of any names are collected as plain writing collects them. -/
theorem collect_plainly (pairs : List (String × Value)) : CollectedPlainly pairs where
  plain := collect_eq_merge pairs
  offered events offered := by
    rw [Value.ofEvent, offered, ← collect_eq_merge]
    rfl
  indexed taken _ :=
    Collector.known_iff_of_indexed (Collector.addAll_indexed Collector.empty_indexed taken)
  trusted := by
    rw [Collector.addAll?_of_indexed Collector.empty_indexed]
    rfl
  named := by rw [collect_eq_merge, names_merge]
  distinct := by
    rw [collect_eq_merge]
    exact nodup_merge pairs
  found name := by
    rw [collect_eq_merge]
    exact lookup_merge pairs name

/-- A name that occurs again keeps its place and takes the later value. -/
example : merge [("a", 1), ("b", 2), ("a", 3)] = [("a", 3), ("b", 2)] := by
  decide

end BrokerWire.Entries

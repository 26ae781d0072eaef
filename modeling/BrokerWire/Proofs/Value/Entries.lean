import BrokerWire.Value.Entries

/-!
# What collecting entries leaves

The collector finds the entry to write over in its index. It leaves what writing the pairs one by
one without an index leaves, and pairs whose names are distinct stay as they are.
-/
namespace BrokerWire.Entries

variable {α : Type}

/-- The names of entries, in order. -/
def names (entries : List (String × α)) : List String := entries.map Prod.fst

/-- The entries left by writing pairs one after the other. -/
def merge (pairs : List (String × α)) : List (String × α) :=
  pairs.foldl (fun entries (name, value) => put entries name value) []

/-- A new name is written behind all entries. -/
theorem put_of_absent {entries : List (String × α)} {name : String} (value : α)
    (absent : name ∉ names entries) : put entries name value = entries ++ [(name, value)] := by
  induction entries with
  | nil => rfl
  | cons entry rest ih =>
    simp only [names, List.map_cons, List.mem_cons, not_or] at absent
    obtain ⟨other, later⟩ := absent
    rw [put, if_neg (Ne.symm other), ih later]
    rfl

/-- A name that stands at some place, and nowhere before it, is written over there. -/
theorem put_of_present {entries : List (String × α)} {name : String} {place : Nat} (value : α)
    (stands : (names entries)[place]? = some name)
    (first : ∀ earlier < place, (names entries)[earlier]? ≠ some name) :
    put entries name value = entries.set place (name, value) := by
  induction entries generalizing place with
  | nil => contradiction
  | cons entry rest ih =>
    cases place with
    | zero =>
      have same : entry.1 = name := by simpa [names] using stands
      rw [put, if_pos same, same]
      rfl
    | succ place =>
      have other : entry.1 ≠ name := by simpa [names] using first 0 (Nat.succ_pos place)
      have later : put rest name value = rest.set place (name, value) := by
        apply ih
        · simpa [names] using stands
        · intro earlier before
          simpa [names] using first (earlier + 1) (Nat.succ_lt_succ before)
      rw [put, if_neg other, later]
      rfl

namespace Collector

/-- The index tells of every name whether and where it stands among the entries. -/
def Indexed (collector : Collector α) : Prop :=
  ∀ (name : String) (place : Nat),
    collector.places[name]? = some place ↔ (names collector.entries.toList)[place]? = some name

/-- An empty collector is indexed. -/
theorem empty_indexed : (empty : Collector α).Indexed := by
  intro name place
  simp [empty, names]

/-- A name that the index does not know stands nowhere. -/
theorem absent_of_indexed {collector : Collector α} {name : String}
    (indexed : collector.Indexed) (unknown : collector.places[name]? = none) :
    name ∉ names collector.entries.toList := by
  intro stands
  obtain ⟨place, here⟩ := List.mem_iff_getElem?.mp stands
  rw [(indexed name place).mpr here] at unknown
  contradiction

/-- A name stands nowhere before the place that the index tells. -/
theorem first_of_indexed {collector : Collector α} {name : String} {place : Nat}
    (indexed : collector.Indexed) (known : collector.places[name]? = some place) :
    ∀ earlier < place, (names collector.entries.toList)[earlier]? ≠ some name := by
  intro earlier before stands
  have same := (indexed name earlier).mpr stands
  rw [known] at same
  have equal := Option.some.inj same
  omega

/-- A collector stays indexed when the entry of a name is written over. -/
theorem indexed_set {collector : Collector α} {name : String} {place : Nat}
    (indexed : collector.Indexed) (known : collector.places[name]? = some place) (value : α) :
    Indexed ⟨collector.entries.setIfInBounds place (name, value), collector.places⟩ := by
  have stands := (indexed name place).mp known
  have unchanged : names (collector.entries.toList.set place (name, value)) =
      names collector.entries.toList := by
    rw [names, List.map_set]
    apply List.ext_getElem?
    intro other
    by_cases here : place = other
    · subst here
      have within : place < (collector.entries.toList.map Prod.fst).length :=
        (List.getElem?_eq_some_iff.mp stands).1
      rw [List.getElem?_set_self within, stands]
    · rw [List.getElem?_set_ne here, names]
  intro sought position
  simp only [Array.toList_setIfInBounds, unchanged]
  exact indexed sought position

/-- A collector stays indexed when a new name is written behind all entries. -/
theorem indexed_push {collector : Collector α} {name : String}
    (indexed : collector.Indexed) (unknown : collector.places[name]? = none) (value : α) :
    Indexed ⟨collector.entries.push (name, value),
      collector.places.insert name collector.entries.size⟩ := by
  have absent := absent_of_indexed indexed unknown
  have size : collector.entries.size = (names collector.entries.toList).length := by
    simp [names]
  have longer : names (collector.entries.push (name, value)).toList =
      names collector.entries.toList ++ [name] := by simp [names]
  intro sought position
  simp only [longer, Std.HashMap.getElem?_insert, beq_iff_eq, size, List.getElem?_append]
  by_cases same : name = sought
  · subst same
    rw [if_pos rfl]
    by_cases before : position < (names collector.entries.toList).length
    · rw [if_pos before]
      constructor
      · intro last
        have equal := Option.some.inj last
        omega
      · intro stands
        exact absurd (List.mem_of_getElem? stands) absent
    · rw [if_neg before, List.getElem?_singleton, Option.some.injEq]
      split <;> simp <;> omega
  · rw [if_neg same, indexed sought position]
    by_cases before : position < (names collector.entries.toList).length
    · rw [if_pos before]
    · rw [if_neg before, List.getElem?_eq_none (by omega), List.getElem?_singleton]
      split <;> simp [same]

/-- An indexed collector takes a pair as it is written without an index, and stays indexed. -/
theorem add_indexed {collector : Collector α} (indexed : collector.Indexed) (name : String)
    (value : α) :
    (collector.add name value).entries.toList = put collector.entries.toList name value ∧
      (collector.add name value).Indexed := by
  cases known : collector.places[name]? with
  | some place =>
    simp only [add, known]
    refine ⟨?_, indexed_set indexed known value⟩
    rw [put_of_present value ((indexed name place).mp known) (first_of_indexed indexed known),
      Array.toList_setIfInBounds]
  | none =>
    simp only [add, known]
    refine ⟨?_, indexed_push indexed known value⟩
    rw [put_of_absent value (absent_of_indexed indexed known), Array.toList_push]

/-- A collector takes pairs as they are written without an index. -/
theorem foldl_add {collector : Collector α} (indexed : collector.Indexed)
    (pairs : List (String × α)) :
    (pairs.foldl (fun collector (name, value) => collector.add name value)
        collector).entries.toList =
      pairs.foldl (fun entries (name, value) => put entries name value)
        collector.entries.toList := by
  induction pairs generalizing collector with
  | nil => rfl
  | cons pair pairs ih =>
    obtain ⟨written, still⟩ := add_indexed indexed pair.1 pair.2
    simp only [List.foldl_cons]
    rw [ih still, written]

end Collector

/-- Collecting leaves what writing the pairs one after the other leaves. -/
theorem collect_eq_merge (pairs : List (String × α)) : collect pairs = merge pairs :=
  Collector.foldl_add Collector.empty_indexed pairs

/-- Pairs with new and distinct names are all written behind the entries. -/
theorem foldl_put_of_distinct {entries pairs : List (String × α)}
    (distinct : (names (entries ++ pairs)).Nodup) :
    pairs.foldl (fun entries (name, value) => put entries name value) entries =
      entries ++ pairs := by
  induction pairs generalizing entries with
  | nil => simp
  | cons pair pairs ih =>
    obtain ⟨name, value⟩ := pair
    have absent : name ∉ names entries := by
      simp only [names, List.map_append, List.map_cons, List.nodup_append] at distinct
      intro stands
      exact distinct.2.2 _ stands _ (List.mem_cons_self ..) rfl
    have written : put entries name value = entries ++ [(name, value)] :=
      put_of_absent value absent
    simp only [List.foldl_cons, written]
    rw [ih]
    · simp
    · simpa using distinct

/-- Pairs with distinct names stay as they are. -/
theorem merge_of_distinct {pairs : List (String × α)} (distinct : (names pairs).Nodup) :
    merge pairs = pairs :=
  foldl_put_of_distinct distinct

end BrokerWire.Entries

import BrokerWire.Proofs.Value.Canonical
import BrokerWire.Proofs.Value.Collecting

/-!
# What a value holds

Of a value have to be kept the values inside it, the names of its maps, and the bytes of its texts,
of its names and of its binary data, at every depth. Its weight counts all of them. A map weighs
what its entries do, so it grows no heavier when pairs of the same name are merged.
-/
namespace BrokerWire.Value

mutual

/-- The value itself and every value inside it. -/
def nodes : Value → List Value
  | array items => array items :: nodesOfItems items
  | map entries => map entries :: nodesOfEntries entries
  | nil => [nil]
  | bool flag => [bool flag]
  | int number => [int number]
  | uint number => [uint number]
  | float number => [float number]
  | text written => [text written]
  | binary bytes => [binary bytes]

/-- The items and every value inside them. -/
def nodesOfItems : List Value → List Value
  | [] => []
  | item :: items => item.nodes ++ nodesOfItems items

/-- The values of entries and every value inside them. -/
def nodesOfEntries : List (String × Value) → List Value
  | [] => []
  | (_, item) :: entries => item.nodes ++ nodesOfEntries entries

end

/-- The names that stand in the value itself: those of a map. -/
def ownNames : Value → List String
  | map entries => Entries.names entries
  | _ => []

/-- The bytes that stand in the value itself: those of a text, of binary data, or of names. -/
def ownBytes : Value → Bytes
  | text written => Utf8.encode written
  | binary bytes => bytes
  | map entries => entries.flatMap fun entry => Utf8.encode entry.1
  | _ => []

/-- The names of every map in the value. -/
def allNames (value : Value) : List String := value.nodes.flatMap ownNames

/-- The bytes of every text, of every name and of all binary data in the value. -/
def allBytes (value : Value) : Bytes := value.nodes.flatMap ownBytes

/-- How many values, names and bytes the value holds. -/
def weight (value : Value) : Nat :=
  value.nodes.length + value.allNames.length + value.allBytes.length

/-- The values inside items are those inside each. -/
theorem nodesOfItems_eq_flatMap (items : List Value) :
    nodesOfItems items = items.flatMap nodes := by
  induction items with
  | nil => rfl
  | cons item items ih => rw [nodesOfItems, ih, List.flatMap_cons]

/-- The values inside entries are those inside each. -/
theorem nodesOfEntries_eq_flatMap (entries : List (String × Value)) :
    nodesOfEntries entries = entries.flatMap fun entry => entry.2.nodes := by
  induction entries with
  | nil => rfl
  | cons entry entries ih => rw [nodesOfEntries, ih, List.flatMap_cons]

/-- A text holds its bytes. -/
theorem weight_text (written : String) :
    (text written).weight = 1 + (Utf8.encode written).length := by
  simp [weight, allNames, allBytes, nodes, ownNames, ownBytes]

/-- Binary data hold their bytes. -/
theorem weight_binary (bytes : Bytes) : (binary bytes).weight = 1 + bytes.length := by
  simp [weight, allNames, allBytes, nodes, ownNames, ownBytes]

/-- An array holds what its items do. -/
theorem weight_array (items : List Value) :
    (array items).weight = 1 + (items.flatMap nodes).length +
      (items.flatMap allNames).length + (items.flatMap allBytes).length := by
  have inside : (array items).nodes = array items :: items.flatMap nodes := by
    rw [nodes, nodesOfItems_eq_flatMap]
  have names : (array items).allNames = [] ++ items.flatMap allNames := by
    rw [allNames, inside, List.flatMap_cons, List.flatMap_assoc]
    rfl
  have bytes : (array items).allBytes = [] ++ items.flatMap allBytes := by
    rw [allBytes, inside, List.flatMap_cons, List.flatMap_assoc]
    rfl
  rw [weight, inside, names, bytes, List.length_cons, List.nil_append, List.nil_append]
  omega

/-- A map holds its names and what its entries do. -/
theorem weight_map (entries : List (String × Value)) :
    (map entries).weight = 1 + entries.length +
      (entries.flatMap fun entry => Utf8.encode entry.1).length +
      (entries.flatMap fun entry => entry.2.nodes).length +
      (entries.flatMap fun entry => entry.2.allNames).length +
      (entries.flatMap fun entry => entry.2.allBytes).length := by
  have inside : (map entries).nodes =
      map entries :: entries.flatMap fun entry => entry.2.nodes := by
    rw [nodes, nodesOfEntries_eq_flatMap]
  have names : (map entries).allNames =
      Entries.names entries ++ entries.flatMap fun entry => entry.2.allNames := by
    rw [allNames, inside, List.flatMap_cons, ownNames, List.flatMap_assoc]
    rfl
  have bytes : (map entries).allBytes = (entries.flatMap fun entry => Utf8.encode entry.1) ++
      entries.flatMap fun entry => entry.2.allBytes := by
    rw [allBytes, inside, List.flatMap_cons, ownBytes, List.flatMap_assoc]
    rfl
  rw [weight, inside, names, bytes]
  simp only [List.length_cons, List.length_append, Entries.names, List.length_map]
  omega

/-- A map of merged entries is no heavier than all pairs. -/
theorem weight_map_merge_le (pairs : List (String × Value)) :
    (map (Entries.merge pairs)).weight ≤ (map pairs).weight := by
  have entries := Entries.length_merge_le pairs
  have names := Entries.length_flatMap_merge_le (fun entry => Utf8.encode entry.1) pairs
  have nodes := Entries.length_flatMap_merge_le (fun entry => entry.2.nodes) pairs
  have innerNames := Entries.length_flatMap_merge_le (fun entry => entry.2.allNames) pairs
  have innerBytes := Entries.length_flatMap_merge_le (fun entry => entry.2.allBytes) pairs
  rw [weight_map, weight_map]
  omega

/-- Items nest within a depth exactly when each of them does. -/
theorem depthItems_le_iff {items : List Value} {levels : Nat} :
    depthItems items ≤ levels ↔ ∀ item ∈ items, item.depth ≤ levels := by
  induction items with
  | nil => simp [depthItems]
  | cons item items ih => rw [depthItems, Nat.max_le, ih, List.forall_mem_cons]

/-- Entries nest within a depth exactly when each of them does. -/
theorem depthEntries_le_iff {entries : List (String × Value)} {levels : Nat} :
    depthEntries entries ≤ levels ↔ ∀ entry ∈ entries, entry.2.depth ≤ levels := by
  induction entries with
  | nil => simp [depthEntries]
  | cons entry entries ih => rw [depthEntries, Nat.max_le, ih, List.forall_mem_cons]

end BrokerWire.Value

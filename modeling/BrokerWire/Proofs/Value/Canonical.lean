import BrokerWire.Text.Utf8
import BrokerWire.Value.Basic
import BrokerWire.Proofs.Value.Entries

/-!
# Canonical values

A value is canonical when every integer stands under the constructor of its sign and no map has
two entries of one name, at every depth. `normalise` makes any value canonical and leaves canonical
ones as they are. Properties of nested values are proved by induction over the tree, with one
hypothesis for all items of an array and one for all entries of a map.
-/
namespace BrokerWire.Value

/-- Induction over values, through the items of arrays and the entries of maps. -/
@[elab_as_elim]
theorem treeInduction {motive : Value → Prop} (nil : motive nil)
    (bool : ∀ flag, motive (bool flag)) (int : ∀ number, motive (int number))
    (uint : ∀ number, motive (uint number)) (float : ∀ number, motive (float number))
    (text : ∀ written, motive (text written)) (binary : ∀ bytes, motive (binary bytes))
    (array : ∀ items, (∀ item ∈ items, motive item) → motive (array items))
    (map : ∀ entries, (∀ entry ∈ entries, motive entry.2) → motive (map entries)) :
    ∀ value, motive value
  | .nil => nil
  | .bool flag => bool flag
  | .int number => int number
  | .uint number => uint number
  | .float number => float number
  | .text written => text written
  | .binary bytes => binary bytes
  | .array items => array items fun item _ =>
    treeInduction nil bool int uint float text binary array map item
  | .map entries => map entries fun entry _ =>
    treeInduction nil bool int uint float text binary array map entry.2
termination_by value => sizeOf value
decreasing_by
  · have smaller := List.sizeOf_lt_of_mem ‹item ∈ items›
    simp only [Value.array.sizeOf_spec]
    omega
  · have smaller := List.sizeOf_lt_of_mem ‹entry ∈ entries›
    obtain ⟨name, item⟩ := entry
    simp only [Prod.mk.sizeOf_spec] at smaller
    simp only [Value.map.sizeOf_spec]
    omega

/-- The values directly inside a value. -/
def children : Value → List Value
  | array items => items
  | map entries => entries.map Prod.snd
  | _ => []

/-- A property holds of a value and of everything inside it. -/
inductive Everywhere (property : Value → Prop) : Value → Prop where
  /-- The property holds here, and everywhere in each child. -/
  | intro {value : Value} (here : property value)
      (inside : ∀ child ∈ value.children, Everywhere property child) : Everywhere property value

/-- What holds everywhere in an array holds everywhere in its items. -/
theorem Everywhere.item {property : Value → Prop} {items : List Value}
    (everywhere : Everywhere property (array items)) :
    ∀ item ∈ items, Everywhere property item := by
  cases everywhere with
  | intro here inside => exact inside

/-- What holds everywhere in a map holds everywhere in its entries. -/
theorem Everywhere.entry {property : Value → Prop} {entries : List (String × Value)}
    (everywhere : Everywhere property (map entries)) :
    ∀ entry ∈ entries, Everywhere property entry.2 := by
  cases everywhere with
  | intro here inside =>
    intro entry member
    exact inside entry.2 (List.mem_map_of_mem member)

/-- What holds everywhere in a value holds of it. -/
theorem Everywhere.here {property : Value → Prop} {value : Value}
    (everywhere : Everywhere property value) : property value := by
  cases everywhere with
  | intro here inside => exact here

/-- What holds everywhere in a value holds everywhere in each child. -/
theorem Everywhere.child {property : Value → Prop} {value : Value}
    (everywhere : Everywhere property value) :
    ∀ child ∈ value.children, Everywhere property child := by
  cases everywhere with
  | intro here inside => exact inside

/-- What holds of a value without others inside it holds everywhere in it. -/
theorem Everywhere.leaf {property : Value → Prop} {value : Value} (alone : value.children = [])
    (here : property value) : Everywhere property value := by
  refine .intro here ?_
  rw [alone]
  exact List.forall_mem_nil _

/-- No integer of the signed constructor is non-negative, and the names of a map are distinct. -/
def Proper : Value → Prop
  | int number => number < 0
  | map entries => (Entries.names entries).Nodup
  | _ => True

/-- The value is proper at every depth. -/
def Canonical (value : Value) : Prop := value.Everywhere Proper

/-- Every length fits the widest length field of a document. -/
def Short : Value → Prop
  | text written => (Utf8.encode written).length < 0x100000000
  | binary bytes => bytes.length < 0x100000000
  | array items => items.length < 0x100000000
  | map entries => entries.length < 0x100000000 ∧
      ∀ entry ∈ entries, (Utf8.encode entry.1).length < 0x100000000
  | _ => True

/-- The strings, the names, the bytes, the arrays and the maps of the value are shorter than
2³², at every depth. -/
def Fits (value : Value) : Prop := value.Everywhere Short

mutual

/-- The value with every integer under the constructor of its sign and with the repeated names of
every map merged: the last value of a name stands at the name's first occurrence. -/
def normalise : Value → Value
  | int number => ofInt64 number
  | array items => array (normaliseItems items)
  | map entries => map (Entries.merge (normaliseEntries entries))
  | nil => nil
  | bool flag => bool flag
  | uint number => uint number
  | float number => float number
  | text written => text written
  | binary bytes => binary bytes

/-- The items, each normalised. -/
def normaliseItems : List Value → List Value
  | [] => []
  | item :: items => item.normalise :: normaliseItems items

/-- The entries with their values normalised. -/
def normaliseEntries : List (String × Value) → List (String × Value)
  | [] => []
  | (name, item) :: entries => (name, item.normalise) :: normaliseEntries entries

end

/-- Items are normalised one by one. -/
theorem normaliseItems_eq_map (items : List Value) :
    normaliseItems items = items.map normalise := by
  induction items with
  | nil => rfl
  | cons item items ih => rw [normaliseItems, ih, List.map_cons]

/-- Entries are normalised one by one. -/
theorem normaliseEntries_eq_map (entries : List (String × Value)) :
    normaliseEntries entries = entries.map fun entry => (entry.1, entry.2.normalise) := by
  induction entries with
  | nil => rfl
  | cons entry entries ih => rw [normaliseEntries, ih, List.map_cons]

/-- A canonical value is left as it is. -/
theorem normalise_of_canonical (value : Value) (canonical : value.Canonical) :
    value.normalise = value := by
  induction value using treeInduction with
  | nil | bool | uint | float | text | binary => rfl
  | int number =>
    have negative : number < 0 := canonical.here
    rw [normalise, ofInt64, if_neg (Int64.not_le.mpr negative)]
  | array items ih =>
    have unchanged : normaliseItems items = items := by
      rw [normaliseItems_eq_map]
      apply Eq.trans _ (List.map_id items)
      apply List.map_congr_left
      intro item member
      exact ih item member (canonical.item item member)
    rw [normalise, unchanged]
  | map entries ih =>
    have distinct : (Entries.names entries).Nodup := canonical.here
    have unchanged : normaliseEntries entries = entries := by
      rw [normaliseEntries_eq_map]
      apply Eq.trans _ (List.map_id entries)
      apply List.map_congr_left
      intro entry member
      rw [ih entry member (canonical.entry entry member)]
      rfl
    rw [normalise, unchanged, Entries.merge_of_distinct distinct]

end BrokerWire.Value

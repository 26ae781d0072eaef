import BrokerWire.Proofs.Number.Equality
import BrokerWire.Proofs.Value.Weight

/-!
# Equality of values

Values are equal when they are the same tree and their numbers are equal as numbers. So the sign of
a zero does not count, and a floating number without a number, wherever it stands, keeps a value
from being equal to any, itself among them. Both are said apart: which trees are told apart at all,
and which hold such bits.
-/
namespace BrokerWire.Value

/-! ## Trees up to the signs of zeros -/

mutual

/-- The value with every zero among its floating numbers as the one without a sign. -/
def unsignedZeros : Value → Value
  | float number => float number.unsignedZero
  | array items => array (unsignedZerosItems items)
  | map entries => map (unsignedZerosEntries entries)
  | nil => nil
  | bool flag => bool flag
  | int number => int number
  | uint number => uint number
  | text written => text written
  | binary bytes => binary bytes

/-- The items, each with its zeros without signs. -/
def unsignedZerosItems : List Value → List Value
  | [] => []
  | item :: items => item.unsignedZeros :: unsignedZerosItems items

/-- The entries, each with the zeros of its value without signs. -/
def unsignedZerosEntries : List (String × Value) → List (String × Value)
  | [] => []
  | (name, item) :: entries => (name, item.unsignedZeros) :: unsignedZerosEntries entries

end

/-- Items lose the signs of their zeros one by one. -/
theorem unsignedZerosItems_eq_map (items : List Value) :
    unsignedZerosItems items = items.map unsignedZeros := by
  induction items with
  | nil => rfl
  | cons item items ih => rw [unsignedZerosItems, ih, List.map_cons]

/-- Entries lose the signs of their zeros one by one. -/
theorem unsignedZerosEntries_eq_map (entries : List (String × Value)) :
    unsignedZerosEntries entries = entries.map fun entry => (entry.1, entry.2.unsignedZeros) := by
  induction entries with
  | nil => rfl
  | cons entry entries ih => rw [unsignedZerosEntries, ih, List.map_cons]

/-! ## Bits without a number -/

/-- There is a floating number without a number in the value, at some depth. -/
def HoldsNaN (value : Value) : Prop :=
  ∃ number, float number ∈ value.nodes ∧ number.isNaN = true

/-- A floating number holds what it is. -/
theorem holdsNaN_float {number : Binary64} :
    (float number).HoldsNaN ↔ number.isNaN = true := by
  simp [HoldsNaN, nodes]

/-- An array holds what its items hold. -/
theorem holdsNaN_array {items : List Value} :
    (array items).HoldsNaN ↔ ∃ item ∈ items, item.HoldsNaN := by
  simp only [HoldsNaN, nodes, nodesOfItems_eq_flatMap, List.mem_cons, reduceCtorEq, false_or,
    List.mem_flatMap]
  constructor
  · rintro ⟨number, ⟨item, member, inside⟩, nan⟩
    exact ⟨item, member, number, inside, nan⟩
  · rintro ⟨item, member, number, inside, nan⟩
    exact ⟨number, ⟨item, member, inside⟩, nan⟩

/-- A map holds what its entries hold. -/
theorem holdsNaN_map {entries : List (String × Value)} :
    (map entries).HoldsNaN ↔ ∃ entry ∈ entries, entry.2.HoldsNaN := by
  simp only [HoldsNaN, nodes, nodesOfEntries_eq_flatMap, List.mem_cons, reduceCtorEq, false_or,
    List.mem_flatMap]
  constructor
  · rintro ⟨number, ⟨entry, member, inside⟩, nan⟩
    exact ⟨entry, member, number, inside, nan⟩
  · rintro ⟨entry, member, number, inside, nan⟩
    exact ⟨number, ⟨entry, member, inside⟩, nan⟩

/-! ## When values are equal -/

/-- A value is equal to exactly the values that are the same up to the signs of zeros, provided that
it holds no bits without a number. -/
def ComparedByNumber (value : Value) : Prop :=
  ∀ other : Value, value.same other = true ↔
    value.unsignedZeros = other.unsignedZeros ∧ ¬value.HoldsNaN

/-- Items that are compared by number make a list that is. -/
theorem sameItems_iff {items others : List Value}
    (each : ∀ item ∈ items, item.ComparedByNumber) :
    sameItems items others = true ↔
      items.map unsignedZeros = others.map unsignedZeros ∧ ∀ item ∈ items, ¬item.HoldsNaN := by
  induction items generalizing others with
  | nil => cases others <;> simp [sameItems]
  | cons item items ih =>
    rw [List.forall_mem_cons] at each
    cases others with
    | nil => simp [sameItems]
    | cons other others =>
      rw [sameItems, Bool.and_eq_true, each.1, ih each.2, List.map_cons, List.map_cons,
        List.cons.injEq, List.forall_mem_cons]
      exact and_and_and_comm

/-- Entries whose values are compared by number make a list that is. -/
theorem sameEntries_iff {entries others : List (String × Value)}
    (each : ∀ entry ∈ entries, entry.2.ComparedByNumber) :
    sameEntries entries others = true ↔
      (entries.map fun entry => (entry.1, entry.2.unsignedZeros)) =
          (others.map fun entry => (entry.1, entry.2.unsignedZeros)) ∧
        ∀ entry ∈ entries, ¬entry.2.HoldsNaN := by
  induction entries generalizing others with
  | nil => cases others <;> simp [sameEntries]
  | cons entry entries ih =>
    rw [List.forall_mem_cons] at each
    obtain ⟨name, item⟩ := entry
    cases others with
    | nil => simp [sameEntries]
    | cons other others =>
      obtain ⟨otherName, other⟩ := other
      have here : (name == otherName && item.same other) = true ↔
          (name, item.unsignedZeros) = (otherName, other.unsignedZeros) ∧ ¬item.HoldsNaN := by
        rw [Bool.and_eq_true, beq_iff_eq, each.1 other, Prod.mk.injEq, and_assoc]
      rw [sameEntries, Bool.and_eq_true, here, ih each.2, List.map_cons, List.map_cons,
        List.cons.injEq, List.forall_mem_cons]
      exact and_and_and_comm

/-- Every value is compared by number, at every depth. -/
theorem comparedByNumber (value : Value) : value.ComparedByNumber := by
  induction value using treeInduction with
  | nil | bool | int | uint | text | binary =>
    intro other
    cases other <;> simp [same, unsignedZeros, HoldsNaN, nodes]
  | float number =>
    intro other
    cases other with
    | float otherNumber =>
      rw [same, Binary64.same_iff, unsignedZeros, unsignedZeros, float.injEq, holdsNaN_float,
        Bool.not_eq_true]
    | _ => simp [same, unsignedZeros]
  | array items ih =>
    intro other
    cases other with
    | array others =>
      rw [same, sameItems_iff ih, unsignedZeros, unsignedZeros, unsignedZerosItems_eq_map,
        unsignedZerosItems_eq_map, array.injEq, holdsNaN_array]
      simp only [not_exists, not_and]
    | _ => simp [same, unsignedZeros]
  | map entries ih =>
    intro other
    cases other with
    | map others =>
      rw [same, sameEntries_iff ih, unsignedZeros, unsignedZeros, unsignedZerosEntries_eq_map,
        unsignedZerosEntries_eq_map, map.injEq, holdsNaN_map]
      simp only [not_exists, not_and]
    | _ => simp [same, unsignedZeros]

/-- Values are equal exactly when they are the same up to the signs of zeros and hold no bits
without a number. -/
theorem same_iff {left right : Value} :
    left.same right = true ↔ left.unsignedZeros = right.unsignedZeros ∧ ¬left.HoldsNaN :=
  comparedByNumber left right

/-- A value is equal to itself exactly when it holds no bits without a number. -/
theorem same_self_iff {value : Value} : value.same value = true ↔ ¬value.HoldsNaN := by
  rw [same_iff, and_iff_right rfl]

/-- Zeros of both signs are equal, inside an array as well. -/
example : (array [float ⟨0⟩]).same (array [float ⟨0x8000000000000000⟩]) = true := by
  decide

end BrokerWire.Value

import BrokerWire.Proofs.MessagePack.RoundTrip
import BrokerWire.Proofs.Value.Weight

/-!
# What decoded values are

Whatever bytes are decoded, the value is canonical, nests within the limit, has no length that a
document cannot hold, and holds no more values, names and bytes than its document has bytes. So an
announced count is backed by bytes before anything is kept for it, and the value is decoded again
from the document that it is written in. All of it is read off the grammar: what a document
denotes is looked at case by case, and what holds of each such value holds at every depth.
-/
namespace BrokerWire

namespace Value

/-- A value without contents, its integers under the constructor of their sign. -/
inductive Simple : Value → Prop where
  /-- Absence. -/
  | nil : Simple nil
  /-- A truth value. -/
  | bool (flag : Bool) : Simple (bool flag)
  /-- A non-negative integer. -/
  | uint (number : UInt64) : Simple (uint number)
  /-- A negative integer. -/
  | int {number : Int64} (negative : number < 0) : Simple (int number)
  /-- A floating number. -/
  | float (number : Binary64) : Simple (float number)

namespace Simple

variable {value : Value}

/-- Nothing stands inside a value without contents. -/
theorem children_eq_nil (simple : Simple value) : value.children = [] := by
  cases simple <;> rfl

/-- A value without contents is proper. -/
theorem proper (simple : Simple value) : value.Proper := by
  cases simple with
  | int negative => exact negative
  | nil | bool | uint | float => trivial

/-- A value without contents has no length. -/
theorem short (simple : Simple value) : value.Short := by
  cases simple <;> trivial

/-- A value without contents does not nest. -/
theorem depth_eq (simple : Simple value) : value.depth = 0 := by
  cases simple <;> rfl

/-- A value without contents holds itself only. -/
theorem weight_eq (simple : Simple value) : value.weight = 1 := by
  cases simple <;> rfl

end Simple

/-- An integer that is not below the signed range stands under the constructor of its sign. -/
theorem simple_ofInteger {number : Int} (least : -0x8000000000000000 ≤ number) :
    Simple (ofInteger number) := by
  unfold ofInteger
  by_cases positive : 0 ≤ number
  · rw [if_pos positive]
    exact .uint _
  · have same := Int64.toInt_ofInt_of_le least (by omega)
    have negative : Int64.ofInt number < 0 := by
      rw [Int64.lt_iff_toInt_lt, same]
      exact Int.not_le.mp positive
    rw [if_neg positive]
    exact .int negative

end Value

namespace MessagePack

/-- Lengths are at most four bytes wide. -/
theorem LengthWidth.limit_le (width : LengthWidth) : Word.limit width.bytes ≤ 0x100000000 := by
  cases width <;> decide

/-- Counts are at most four bytes wide. -/
theorem CountWidth.limit_le (width : CountWidth) : Word.limit width.bytes ≤ 0x100000000 := by
  cases width <;> decide

/-- No text format holds a length of 2³² or more. -/
theorem TextFormat.lt_of_holds {format : TextFormat} {length : Nat} (holds : format.Holds length) :
    length < 0x100000000 := by
  cases format with
  | short =>
    have small : length < 32 := holds
    omega
  | sized width => exact Nat.lt_of_lt_of_le holds width.limit_le

/-- No format of arrays and maps holds a count of 2³² or more. -/
theorem CountFormat.lt_of_holds {format : CountFormat} {count : Nat} (holds : format.Holds count) :
    count < 0x100000000 := by
  cases format with
  | few =>
    have small : count < 16 := holds
    omega
  | sized width => exact Nat.lt_of_lt_of_le holds width.limit_le

/-- No integer format holds an integer below the signed range. -/
theorem IntegerFormat.le_of_holds {format : IntegerFormat} {number : Int}
    (holds : format.Holds number) : -0x8000000000000000 ≤ number := by
  cases format with
  | positive | unsigned width =>
    have least := holds.1
    omega
  | negative =>
    have least := holds.1
    omega
  | signed width =>
    have least := holds.1
    have wide := width.limit_le
    omega

/-- The head of a text takes at least one byte. -/
theorem TextFormat.length_head_pos (format : TextFormat) (length : Nat) :
    0 < (format.head length).length := by
  cases format <;> exact Nat.zero_lt_succ _

/-- The head of an array takes at least one byte. -/
theorem CountFormat.length_arrayHead_pos (format : CountFormat) (count : Nat) :
    0 < (format.arrayHead count).length := by
  cases format <;> exact Nat.zero_lt_succ _

/-- The head of a map takes at least one byte. -/
theorem CountFormat.length_mapHead_pos (format : CountFormat) (count : Nat) :
    0 < (format.mapHead count).length := by
  cases format <;> exact Nat.zero_lt_succ _

namespace DenotesName

variable {bytes : Bytes} {name : String}

/-- A name is shorter than its document, if only by one byte. -/
theorem length_lt (denotes : DenotesName bytes name) :
    (Utf8.encode name).length < bytes.length := by
  cases denotes with
  | text format name holds =>
    have head := format.length_head_pos (Utf8.encode name).length
    rw [List.length_append]
    omega
  | binary width name holds =>
    rw [binaryHead, writeNumber, List.cons_append, List.length_cons, List.length_append]
    omega

/-- A name has no length that a document cannot hold. -/
theorem short (denotes : DenotesName bytes name) :
    (Utf8.encode name).length < 0x100000000 := by
  cases denotes with
  | text format name holds => exact TextFormat.lt_of_holds holds
  | binary width name holds => exact Nat.lt_of_lt_of_le holds width.limit_le

end DenotesName

/-- A document without contents denotes a value without contents. -/
theorem DenotesScalar.simple {bytes : Bytes} {value : Value} (denotes : DenotesScalar bytes value) :
    value.Simple := by
  cases denotes with
  | nil => exact .nil
  | bool flag => exact .bool flag
  | integer format number holds => exact Value.simple_ofInteger (IntegerFormat.le_of_holds holds)
  | float32 bits => exact .float _
  | float64 bits => exact .float _

/-- Items that are no heavier than their documents make an array no heavier than its own. -/
theorem weight_array_le {items : List Part}
    (each : ∀ item ∈ items, item.value.weight ≤ item.bytes.length) :
    (Value.array (items.map Part.value)).weight ≤ 1 + (items.flatMap Part.bytes).length := by
  induction items with
  | nil => simp [Value.weight_array]
  | cons item items ih =>
    rw [List.forall_mem_cons] at each
    obtain ⟨first, others⟩ := each
    have rest := ih others
    rw [Value.weight_array] at rest ⊢
    rw [Value.weight] at first
    simp only [List.map_cons, List.flatMap_cons, List.length_append]
    omega

/-- Entries that are no heavier than their documents make a map no heavier than its own. -/
theorem weight_map_le {entries : List NamedPart}
    (named : ∀ entry ∈ entries, (Utf8.encode entry.name).length < entry.naming.length)
    (each : ∀ entry ∈ entries, entry.value.weight ≤ entry.bytes.length) :
    (Value.map (entries.map fun entry => (entry.name, entry.value))).weight ≤
      1 + (entries.flatMap fun entry => entry.naming ++ entry.bytes).length := by
  induction entries with
  | nil => simp [Value.weight_map]
  | cons entry entries ih =>
    rw [List.forall_mem_cons] at named each
    obtain ⟨naming, otherNames⟩ := named
    obtain ⟨first, others⟩ := each
    have rest := ih otherNames others
    rw [Value.weight_map] at rest ⊢
    rw [Value.weight] at first
    simp only [List.map_cons, List.flatMap_cons, List.length_append, List.length_cons]
    omega

namespace Denotes

variable {bytes : Bytes} {value : Value} {depth : Nat}

/-- What a document denotes has its integers under the constructor of their sign and the names of
its map distinct. -/
theorem proper (denotes : Denotes bytes value depth) : value.Proper := by
  cases denotes with
  | scalar denotes => exact denotes.simple.proper
  | text | notText | binary | array => trivial
  | map format entries holds named each => exact Entries.nodup_merge _

/-- What a document denotes has no length that a document cannot hold. -/
theorem short (denotes : Denotes bytes value depth) : value.Short := by
  cases denotes with
  | scalar denotes => exact denotes.simple.short
  | text format written holds => exact TextFormat.lt_of_holds holds
  | notText format contents holds unwritten => exact TextFormat.lt_of_holds holds
  | binary width contents holds => exact Nat.lt_of_lt_of_le holds width.limit_le
  | array format items holds each =>
    have count := CountFormat.lt_of_holds holds
    simpa [Value.Short] using count
  | map format entries holds named each =>
    have count := CountFormat.lt_of_holds holds
    have fewer := Entries.length_merge_le (entries.map fun entry => (entry.name, entry.value))
    rw [List.length_map] at fewer
    refine ⟨Nat.lt_of_le_of_lt fewer count, ?_⟩
    intro entry member
    obtain ⟨part, among, rfl⟩ := List.mem_map.mp (Entries.mem_of_mem_merge member)
    exact (named part among).short

/-- What holds of every value that a document denotes holds at every depth of it. -/
theorem everywhere {property : Value → Prop}
    (here : ∀ {bytes value depth}, Denotes bytes value depth → property value)
    (denotes : Denotes bytes value depth) : value.Everywhere property := by
  induction denotes with
  | scalar denotes =>
    refine .intro (here (.scalar denotes)) ?_
    rw [denotes.simple.children_eq_nil]
    exact List.forall_mem_nil _
  | text format written holds =>
    exact .intro (here (.text format written holds)) (List.forall_mem_nil _)
  | notText format contents holds unwritten =>
    exact .intro (here (.notText format contents holds unwritten)) (List.forall_mem_nil _)
  | binary width contents holds =>
    exact .intro (here (.binary width contents holds)) (List.forall_mem_nil _)
  | array format items holds each ih =>
    exact .intro (here (.array format items holds each)) (List.forall_mem_map.mpr ih)
  | map format entries holds named each ih =>
    refine .intro (here (.map format entries holds named each)) ?_
    rw [Value.children, List.forall_mem_map]
    intro entry member
    obtain ⟨part, among, rfl⟩ := List.mem_map.mp (Entries.mem_of_mem_merge member)
    exact ih part among

/-- A value nests no deeper than its document. -/
theorem depth_le (denotes : Denotes bytes value depth) : value.depth ≤ depth := by
  induction denotes with
  | scalar denotes => exact Nat.le_of_eq denotes.simple.depth_eq
  | text | notText | binary => exact Nat.le_refl 0
  | array format items holds each ih =>
    apply Nat.succ_le_succ
    rw [Value.depthItems_le_iff, List.forall_mem_map]
    intro item member
    have deepest := deepest_le_iff.mp (Nat.le_refl (deepest items)) item member
    exact Nat.le_trans (ih item member) deepest
  | map format entries holds named each ih =>
    apply Nat.succ_le_succ
    rw [Value.depthEntries_le_iff]
    intro entry member
    obtain ⟨part, among, rfl⟩ := List.mem_map.mp (Entries.mem_of_mem_merge member)
    have deepest := deepest_le_iff.mp (Nat.le_refl (deepest (entries.map NamedPart.toPart)))
      part.toPart (List.mem_map_of_mem among)
    exact Nat.le_trans (ih part among) deepest

/-- A value is no heavier than its document is long. -/
theorem weight_le (denotes : Denotes bytes value depth) : value.weight ≤ bytes.length := by
  induction denotes with
  | scalar denotes =>
    rw [denotes.simple.weight_eq]
    exact (Denotes.scalar denotes).length_pos
  | text format written holds =>
    have head := format.length_head_pos (Utf8.encode written).length
    rw [Value.weight_text, List.length_append]
    omega
  | notText format contents holds unwritten =>
    have head := format.length_head_pos contents.length
    rw [Value.weight_binary, List.length_append]
    omega
  | binary width contents holds =>
    rw [Value.weight_binary, binaryHead, writeNumber, List.cons_append, List.length_cons,
      List.length_append]
    omega
  | array format items holds each ih =>
    have head := format.length_arrayHead_pos items.length
    have inside := weight_array_le ih
    rw [List.length_append]
    omega
  | map format entries holds named each ih =>
    have head := format.length_mapHead_pos entries.length
    have inside := weight_map_le (fun entry member => (named entry member).length_lt) ih
    -- The document pays for every pair, also for those that a later one of the same name replaces.
    have merged := Value.weight_map_merge_le (entries.map fun entry => (entry.name, entry.value))
    rw [List.length_append]
    omega

end Denotes

/-- What is known of a value that has been decoded. -/
structure DecodedFrom (bytes : Bytes) (value : Value) : Prop where
  /-- At every depth no integer of the signed constructor is non-negative, and the names of a map
  are distinct. -/
  canonical : value.Canonical
  /-- Arrays and maps nest within the limit. -/
  shallow : value.depth ≤ 1023
  /-- Its values, its names, and the bytes of its texts, its names and its binary data are no more
  than the bytes of the document. -/
  light : value.nodes.length + value.allNames.length + value.allBytes.length ≤ bytes.length
  /-- It is decoded again from the document that it is written in. -/
  again : decodeValue (write value) = .ok value

/-- A decoded value is canonical and no larger than its document, and is decoded again. -/
theorem decodedFrom_of_decodeValue {bytes : Bytes} {value : Value}
    (decoded : decodeValue bytes = .ok value) : DecodedFrom bytes value := by
  obtain ⟨depth, within, denotes⟩ := exists_denotes_of_decodeValue decoded
  have canonical : value.Canonical := denotes.everywhere Denotes.proper
  have fits : value.Fits := denotes.everywhere Denotes.short
  have shallow : value.depth ≤ 1023 := Nat.le_trans denotes.depth_le within
  exact ⟨canonical, shallow, denotes.weight_le,
    decodeValue_write_of_canonical fits canonical shallow⟩

/-- A map that names its array again, in binary data: what is there in the end is the later value,
a negative integer. -/
def renamedArray : Bytes :=
  [0xDF, 0, 0, 0, 2, 0xA1, 0x61, 0x92, 0x01, 0xC0,
    0xC4, 1, 0x61, 0xD3, 0xFF, 0xFF, 0xFF, 0xFF, 0xFF, 0xFF, 0xFF, 0xFE]

/-- The map with the replaced array is canonical and no larger than its document, and is decoded
again. -/
theorem decodedFrom_renamedArray :
    decodeValue renamedArray = .ok (.map [("a", .int (-2))]) ∧
      DecodedFrom renamedArray (.map [("a", .int (-2))]) := by
  have read : decodeValue renamedArray =
      .ok (.map (Entries.collect [("a", .array [.uint 1, .nil]), ("a", .int (-2))])) := rfl
  have decoded : decodeValue renamedArray = .ok (.map [("a", .int (-2))]) := by
    rw [read, Entries.collect_eq_merge]
    rfl
  exact ⟨decoded, decodedFrom_of_decodeValue decoded⟩

end MessagePack

end BrokerWire

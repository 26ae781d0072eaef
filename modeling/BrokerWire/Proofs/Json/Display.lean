import BrokerWire.Proofs.Json.Reading
import BrokerWire.Proofs.MessagePack.Heads
import BrokerWire.Proofs.Value.Canonical
import BrokerWire.Value.Json

/-!
# Values shown as JSON

Unless there are finite floating numbers in a value, its text is a JSON text of its image: the tree
with the same numbers, strings, items and entries, in which bytes are the array of their numbers.
A plain reader gets the image back, so that two values are shown by the same text exactly when
they differ in nothing but what the image leaves out.
-/
namespace BrokerWire

namespace Json

/-! ## What is printed -/

/-- Items are separated by commas. -/
theorem separated_eq_intercalate (items : List (List Char)) :
    separated items = List.intercalate [','] items := by
  induction items with
  | nil => rfl
  | cons item items ih =>
    cases items with
    | nil => rw [separated, List.intercalate_singleton]
    | cons next others =>
      rw [separated, ih, List.intercalate_cons_cons, List.append_assoc, List.singleton_append]
      exact List.cons_ne_nil _ _

/-- A number above zero is not written with a zero in front. -/
theorem head_toDigits {number : Nat} (positive : 0 < number) :
    ∃ digit others, Nat.toDigits 10 number = digit :: others ∧ digit ≠ '0' := by
  induction number using Nat.strongRecOn with
  | ind number ih =>
    by_cases small : number < 10
    · refine ⟨number.digitChar, [], Nat.toDigits_of_lt_base small, ?_⟩
      rw [Ne, Nat.digitChar_eq_zero]
      exact Nat.ne_of_gt positive
    · obtain ⟨digit, others, same, notZero⟩ := ih (number / 10) (by omega) (by omega)
      refine ⟨digit, others ++ [(number % 10).digitChar], ?_, notZero⟩
      rw [Nat.toDigits_of_base_le (by decide) (Nat.not_lt.mp small), same, List.cons_append]

/-- A natural number is written as a whole number. -/
theorem areWhole_toDigits (number : Nat) : AreWhole (Nat.toDigits 10 number) where
  areDigits _ among := Nat.isDigit_of_mem_toDigits (by decide) (by decide) among
  present := Nat.toDigits_ne_nil
  least zero := by
    cases number with
    | zero => exact Nat.toDigits_zero 10
    | succ number =>
      obtain ⟨digit, others, same, notZero⟩ := head_toDigits (Nat.succ_pos number)
      rw [same] at zero
      exact absurd (Option.some.inj zero) notZero

/-- An integer as a number without fraction and exponent. -/
def Numeral.ofInt (number : Int) : Numeral where
  negative := number < 0
  whole := Nat.toDigits 10 number.natAbs
  fraction := []
  exponent := none
  areWhole := areWhole_toDigits _
  areDigits := fun _ among => absurd among List.not_mem_nil

/-- The text of an integer denotes the integer. -/
theorem writes_integer (number : Int) : Writes (integer number) (.number number 0) := by
  have writes := Writes.number (.ofInt number)
  have written : (Numeral.ofInt number).write = integer number := by
    simp only [Numeral.write, Numeral.signs, Numeral.point, Numeral.scale, Numeral.ofInt,
      integer, decide_eq_true_eq, Option.elim_none, List.append_nil, ↓reduceIte]
    split <;> rfl
  have denoted : (Numeral.ofInt number).denoted = .number number 0 := by
    have magnitude : decimal (Nat.toDigits 10 number.natAbs) = number.natAbs :=
      Nat.ofDigitChars_ten_toDigits
    simp only [Numeral.denoted, Numeral.ofInt, List.append_nil, magnitude, signed,
      decide_eq_true_eq, Option.elim_none, List.length_nil]
    congr 1
    split <;> omega
  rw [written, denoted] at writes
  exact writes

/-- A digit of base sixteen denotes its number. -/
theorem hexValue?_hexDigit (number : Nat) :
    hexValue? (Quoted.hexDigit number) = some (number % 16) := by
  have each : ∀ digit < 16, hexValue? (Nat.digitChar digit) = some digit := by decide
  exact each _ (Nat.mod_lt _ (by decide))

/-- A character below 256 is denoted by the two digits of its number behind two zeros. -/
theorem writesChar_digits {char : Char} (small : char.toNat < 0x100) :
    WritesChar
      ['\\', 'u', '0', '0', Quoted.hexDigit (char.toNat / 16), Quoted.hexDigit char.toNat]
      char := by
  have zero : hexValue? '0' = some 0 := rfl
  have digits := WritesUnit.digits zero zero (hexValue?_hexDigit (char.toNat / 16))
    (hexValue?_hexDigit char.toNat)
  have sum : ((0 * 16 + 0) * 16 + char.toNat / 16 % 16) * 16 + char.toNat % 16 =
      char.toNat := by omega
  rw [sum] at digits
  exact .unit digits

/-- A character of a string is denoted by what is printed for it. -/
theorem writesChar_escapeJson (char : Char) : WritesChar (Quoted.escapeJson char) char := by
  unfold Quoted.escapeJson
  -- Seven characters have a short escape; a slash has one that is not printed.
  iterate 7
    split
    · rename_i same
      rw [same]
      exact .short (by decide)
  split
  · rename_i control
    exact writesChar_digits (Nat.lt_trans control (by decide))
  · rename_i control
    exact .plain (Nat.not_lt.mp control) ‹_› ‹_›

/-- A printed string denotes the string. -/
theorem writesString_json (written : String) : WritesString (Quoted.json written) written := by
  let pieces : List Piece := written.toList.map fun char => ⟨Quoted.escapeJson char, char⟩
  have each : ∀ piece ∈ pieces, WritesChar piece.text piece.char := by
    intro piece among
    obtain ⟨char, -, rfl⟩ := List.mem_map.mp among
    exact writesChar_escapeJson char
  have quoted := WritesString.quoted pieces each
  simp only [pieces, List.flatMap_map, List.map_map, Function.comp_def, List.map_id',
    String.ofList_toList] at quoted
  exact quoted

/-- Items are printed one by one. -/
theorem renderItems_eq_map (items : List Value) : renderItems items = items.map render := by
  induction items with
  | nil => rfl
  | cons item items ih => rw [renderItems, ih, List.map_cons]

/-- Entries are printed one by one. -/
theorem renderEntries_eq_map (entries : List (String × Value)) :
    renderEntries entries =
      entries.map fun entry => Quoted.json entry.1 ++ ':' :: render entry.2 := by
  induction entries with
  | nil => rfl
  | cons entry entries ih => rw [renderEntries, ih, List.map_cons]

end Json

namespace Value

/-! ## What is shown -/

mutual

/-- The tree of a value. Bytes are their numbers, and a floating number is left out. -/
def image : Value → Json.Tree
  | nil => .null
  | bool flag => .bool flag
  | int number => .number number.toInt 0
  | uint number => .number number.toNat 0
  | float _ => .null
  | text written => .text written
  | binary bytes => .array (bytes.map fun byte => .number byte.toNat 0)
  | array items => .array (imageItems items)
  | map entries => .object (imageEntries entries)

/-- The trees of items in order. -/
def imageItems : List Value → List Json.Tree
  | [] => []
  | item :: items => item.image :: imageItems items

/-- The trees of entries in order. -/
def imageEntries : List (String × Value) → List (String × Json.Tree)
  | [] => []
  | (name, item) :: entries => (name, item.image) :: imageEntries entries

end

/-- Items have their trees one by one. -/
theorem imageItems_eq_map (items : List Value) : imageItems items = items.map image := by
  induction items with
  | nil => rfl
  | cons item items ih => rw [imageItems, ih, List.map_cons]

/-- Entries have their trees one by one. -/
theorem imageEntries_eq_map (entries : List (String × Value)) :
    imageEntries entries = entries.map fun entry => (entry.1, entry.2.image) := by
  induction entries with
  | nil => rfl
  | cons entry entries ih => rw [imageEntries, ih, List.map_cons]

/-- The value is not a finite floating number. -/
def NotFinite : Value → Prop
  | float number => number.isFinite = false
  | _ => True

/-- No finite floating number is in the value, at any depth. -/
def WithoutFinite (value : Value) : Prop := value.Everywhere NotFinite

/-- The text of a value is a JSON text of its image. -/
theorem writes_render {value : Value} (without : value.WithoutFinite) :
    Json.Writes (Json.render value) value.image := by
  induction value using treeInduction with
  | nil => exact .null
  | bool flag =>
    cases flag with
    | false => exact .falsehood
    | true => exact .truth
  | int number => exact Json.writes_integer number.toInt
  | uint number => exact Json.writes_integer number.toNat
  | float number =>
    have notFinite : number.isFinite = false := without.here
    simp only [Json.render, Json.float, notFinite, Bool.false_eq_true, ↓reduceIte, image]
    exact .null
  | text written => exact .text (Json.writesString_json written)
  | binary bytes =>
    let parts : List Json.Part :=
      bytes.map fun byte => ⟨Json.integer byte.toNat, .number byte.toNat 0⟩
    have each : ∀ part ∈ parts, Json.Writes part.text part.tree := by
      intro part among
      obtain ⟨byte, -, rfl⟩ := List.mem_map.mp among
      exact Json.writes_integer byte.toNat
    have writes := Json.Writes.array parts each
    simp only [parts, List.map_map, Function.comp_def] at writes
    rw [Json.render, Json.separated_eq_intercalate, image]
    exact writes
  | array items ih =>
    let parts : List Json.Part := items.map fun item => ⟨Json.render item, item.image⟩
    have each : ∀ part ∈ parts, Json.Writes part.text part.tree := by
      intro part among
      obtain ⟨item, inside, rfl⟩ := List.mem_map.mp among
      exact ih item inside (without.item item inside)
    have writes := Json.Writes.array parts each
    simp only [parts, List.map_map, Function.comp_def] at writes
    rw [Json.render, Json.separated_eq_intercalate, Json.renderItems_eq_map, image,
      imageItems_eq_map]
    exact writes
  | map entries ih =>
    let parts : List Json.NamedPart := entries.map fun entry =>
      ⟨⟨Json.render entry.2, entry.2.image⟩, Quoted.json entry.1, entry.1⟩
    have named : ∀ part ∈ parts, Json.WritesString part.naming part.name := by
      intro part among
      obtain ⟨entry, -, rfl⟩ := List.mem_map.mp among
      exact Json.writesString_json entry.1
    have each : ∀ part ∈ parts, Json.Writes part.text part.tree := by
      intro part among
      obtain ⟨entry, inside, rfl⟩ := List.mem_map.mp among
      exact ih entry inside (without.entry entry inside)
    have writes := Json.Writes.object parts named each
    simp only [parts, List.map_map, Function.comp_def, Json.NamedPart.write] at writes
    rw [Json.render, Json.separated_eq_intercalate, Json.renderEntries_eq_map, image,
      imageEntries_eq_map]
    exact writes

/-! ## What is left out -/

mutual

/-- The value with everything identified that its text does not tell apart: an integer that is not
negative stands under the constructor of its sign, bytes are the array of their numbers, and a
floating number that is not finite is absence. -/
def identified : Value → Value
  | int number => ofInt64 number
  | float number => if number.isFinite then float number else nil
  | binary bytes => array (bytes.map fun byte => uint byte.toUInt64)
  | array items => array (identifiedItems items)
  | map entries => map (identifiedEntries entries)
  | nil => nil
  | bool flag => bool flag
  | uint number => uint number
  | text written => text written

/-- The items, each identified. -/
def identifiedItems : List Value → List Value
  | [] => []
  | item :: items => item.identified :: identifiedItems items

/-- The entries with their values identified. -/
def identifiedEntries : List (String × Value) → List (String × Value)
  | [] => []
  | (name, item) :: entries => (name, item.identified) :: identifiedEntries entries

end

/-- Items are identified one by one. -/
theorem identifiedItems_eq_map (items : List Value) :
    identifiedItems items = items.map identified := by
  induction items with
  | nil => rfl
  | cons item items ih => rw [identifiedItems, ih, List.map_cons]

/-- Entries are identified one by one. -/
theorem identifiedEntries_eq_map (entries : List (String × Value)) :
    identifiedEntries entries = entries.map fun entry => (entry.1, entry.2.identified) := by
  induction entries with
  | nil => rfl
  | cons entry entries ih => rw [identifiedEntries, ih, List.map_cons]

/-- A signed integer stands under the constructor of its sign. -/
theorem ofInt64_eq_ofInteger (number : Int64) : ofInt64 number = ofInteger number.toInt := by
  have same := ofInt64_ofInt number.le_toInt number.toInt_lt
  rwa [Int64.ofInt_toInt] at same

/-- An integer is shown alike under either constructor. -/
theorem render_ofInt64 (number : Int64) :
    Json.render (ofInt64 number) = Json.integer number.toInt := by
  rw [ofInt64_eq_ofInteger, ofInteger]
  by_cases positive : 0 ≤ number.toInt
  · have most := number.toInt_lt
    have fits : number.toInt.toNat < UInt64.size := by
      simp only [UInt64.size]
      omega
    rw [if_pos positive, Json.render, UInt64.toNat_ofNat_of_lt' fits, Int.toNat_of_nonneg positive]
  · rw [if_neg positive, Json.render, Int64.ofInt_toInt]

/-- What is identified is shown alike. -/
theorem render_identified (value : Value) : Json.render value.identified = Json.render value := by
  induction value using treeInduction with
  | nil | bool | uint | text => rfl
  | int number => rw [identified, render_ofInt64, Json.render]
  | float number =>
    rw [identified]
    split
    · rfl
    · rename_i notFinite
      simp only [Json.render, Json.float, notFinite, Bool.false_eq_true, ↓reduceIte]
  | binary bytes =>
    have same : (bytes.map fun byte => uint byte.toUInt64).map Json.render =
        bytes.map fun byte => Json.integer byte.toNat := by
      simp only [List.map_map, Function.comp_def, Json.render, UInt8.toNat_toUInt64]
    rw [identified]
    simp only [Json.render, Json.renderItems_eq_map, same]
  | array items ih =>
    have same : (items.map identified).map Json.render = items.map Json.render := by
      rw [List.map_map]
      exact List.map_congr_left ih
    rw [identified, Json.render, Json.renderItems_eq_map, identifiedItems_eq_map, same,
      Json.render, Json.renderItems_eq_map]
  | map entries ih =>
    have same : (entries.map fun entry => (entry.1, entry.2.identified)).map
          (fun entry => Quoted.json entry.1 ++ ':' :: Json.render entry.2) =
        entries.map fun entry => Quoted.json entry.1 ++ ':' :: Json.render entry.2 := by
      rw [List.map_map]
      apply List.map_congr_left
      intro entry among
      simp only [Function.comp_apply, ih entry among]
    rw [identified, Json.render, Json.renderEntries_eq_map, identifiedEntries_eq_map, same,
      Json.render, Json.renderEntries_eq_map]

/-! ## Getting a value back -/

mutual

/-- The value of a tree, up to what is identified. -/
def ofTree : Json.Tree → Value
  | .null => nil
  | .bool flag => bool flag
  | .number significand _ => ofInteger significand
  | .text written => text written
  | .array items => array (ofTrees items)
  | .object entries => map (ofNamedTrees entries)

/-- The values of trees in order. -/
def ofTrees : List Json.Tree → List Value
  | [] => []
  | item :: items => ofTree item :: ofTrees items

/-- The values of trees under names, in order. -/
def ofNamedTrees : List (String × Json.Tree) → List (String × Value)
  | [] => []
  | (name, item) :: entries => (name, ofTree item) :: ofNamedTrees entries

end

/-- Trees have their values one by one. -/
theorem ofTrees_eq_map (items : List Json.Tree) : ofTrees items = items.map ofTree := by
  induction items with
  | nil => rfl
  | cons item items ih => rw [ofTrees, ih, List.map_cons]

/-- Trees under names have their values one by one. -/
theorem ofNamedTrees_eq_map (entries : List (String × Json.Tree)) :
    ofNamedTrees entries = entries.map fun entry => (entry.1, ofTree entry.2) := by
  induction entries with
  | nil => rfl
  | cons entry entries ih => rw [ofNamedTrees, ih, List.map_cons]

/-- The image of a value leaves nothing out but what is identified. -/
theorem ofTree_image {value : Value} (without : value.WithoutFinite) :
    ofTree value.image = value.identified := by
  have natural (number : Nat) : ofInteger number = uint (.ofNat number) := by
    rw [ofInteger, if_pos (Int.natCast_nonneg number), Int.toNat_natCast]
  induction value using treeInduction with
  | nil | bool | text => rfl
  | int number => rw [image, ofTree, identified, ofInt64_eq_ofInteger]
  | uint number => rw [image, ofTree, identified, natural, UInt64.ofNat_toNat]
  | float number =>
    have notFinite : number.isFinite = false := without.here
    simp only [image, ofTree, identified, notFinite, Bool.false_eq_true, ↓reduceIte]
  | binary bytes =>
    rw [image, ofTree, ofTrees_eq_map, identified, List.map_map]
    congr 1
    apply List.map_congr_left
    intro byte _
    rw [Function.comp_apply, ofTree, natural, UInt64.ofNat_uInt8ToNat]
  | array items ih =>
    rw [image, ofTree, ofTrees_eq_map, imageItems_eq_map, identified, identifiedItems_eq_map,
      List.map_map]
    congr 1
    exact List.map_congr_left fun item among => ih item among (without.item item among)
  | map entries ih =>
    rw [image, ofTree, ofNamedTrees_eq_map, imageEntries_eq_map, identified,
      identifiedEntries_eq_map, List.map_map]
    congr 1
    apply List.map_congr_left
    intro entry among
    simp only [Function.comp_apply, ih entry among (without.entry entry among)]

/-- How two values are shown. -/
structure ShownFaithfully (value other : Value) : Prop where
  /-- The text of the value is a JSON text without blanks, and denotes the image of the value. -/
  written : Json.Writes value.display.toList value.image
  /-- No control character is in it. -/
  shows : ∀ char ∈ value.display.toList, 0x20 ≤ char.toNat
  /-- A plain reader gets the image back. -/
  read : Json.read? value.display = some value.image
  /-- The values are shown by one text exactly when they are equal up to what is identified. -/
  display_eq_iff : value.display = other.display ↔ value.identified = other.identified

/-- Values without finite floating numbers are shown faithfully. -/
theorem shown_faithfully {value other : Value} (without : value.WithoutFinite)
    (otherWithout : other.WithoutFinite) : ShownFaithfully value other := by
  have written {value : Value} (without : value.WithoutFinite) :
      Json.Writes value.display.toList value.image := by
    rw [display, String.toList_ofList]
    exact writes_render without
  have read {value : Value} (without : value.WithoutFinite) :
      Json.read? value.display = some value.image := Json.read?_of_writes (written without)
  refine ⟨written without, (written without).shows, read without, fun same => ?_, fun same => ?_⟩
  · have images := read without
    rw [same, read otherWithout] at images
    rw [← ofTree_image without, ← ofTree_image otherWithout, Option.some.inj images]
  · rw [display, display, ← render_identified value, same, render_identified]

/-- A value that holds no others is without finite floating numbers when it is not one. -/
theorem withoutFinite_of_leaf {value : Value} (leaf : value.children = [])
    (notFinite : value.NotFinite) : value.WithoutFinite :=
  .intro notFinite (by simp [leaf])

/-- Two maps with a repeated name and a name to be escaped: one holds an integer of the signed
constructor, two bytes and an infinite number, the other one what these are identified with. -/
theorem shown_faithfully_identified :
    let value : Value := .map [("a", .int 5), ("a", .binary [0, 255]),
      ("\n", .float ⟨0x7FF0000000000000⟩)]
    let other : Value := .map [("a", .uint 5), ("a", .array [.uint 0, .uint 255]), ("\n", .nil)]
    value.WithoutFinite ∧ other.WithoutFinite ∧
      value.display = "\x7b\"a\":5,\"a\":[0,255],\"\\n\":null\x7d" ∧
      ShownFaithfully value other := by
  intro value other
  have without : value.WithoutFinite := by
    refine .intro trivial ?_
    simp only [value, children, List.map_cons, List.map_nil, List.forall_mem_cons]
    exact ⟨withoutFinite_of_leaf rfl trivial, withoutFinite_of_leaf rfl trivial,
      withoutFinite_of_leaf rfl rfl, List.forall_mem_nil _⟩
  have otherWithout : other.WithoutFinite := by
    refine .intro trivial ?_
    simp only [other, children, List.map_cons, List.map_nil, List.forall_mem_cons]
    refine ⟨withoutFinite_of_leaf rfl trivial, .intro trivial ?_, withoutFinite_of_leaf rfl trivial,
      List.forall_mem_nil _⟩
    simp only [children, List.forall_mem_cons]
    exact ⟨withoutFinite_of_leaf rfl trivial, withoutFinite_of_leaf rfl trivial,
      List.forall_mem_nil _⟩
  exact ⟨without, otherWithout, by decide, shown_faithfully without otherWithout⟩

end Value

end BrokerWire

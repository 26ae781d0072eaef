import BrokerWire.Proofs.MessagePack.Documents
import BrokerWire.Proofs.Value.Canonical

/-!
# Writing values and reading them back

The writer picks, for every number and every length, one of the formats that can hold it, so what
it writes is a document of the normalised value. Reading it back follows from the grammar alone.
-/
namespace BrokerWire.MessagePack

/-- A word that holds a number is one of its formats. -/
theorem unsigned_holds {width : IntegerWidth} {number : Nat}
    (fits : number < Word.limit width.bytes) :
    (IntegerFormat.unsigned width).Holds number ∧
      writeNumber (.unsigned width) width.bytes number =
        (IntegerFormat.unsigned width).write number :=
  ⟨⟨by omega, by omega⟩, rfl⟩

/-- A word in two's complement that holds a negative integer is one of its formats. -/
theorem signed_holds {width : IntegerWidth} {below : Nat}
    (fits : 2 * below < Word.limit width.bytes) :
    (IntegerFormat.signed width).Holds (.negSucc below) ∧
      writeNumber (.signed width) width.bytes (Word.limit width.bytes - 1 - below) =
        (IntegerFormat.signed width).write (.negSucc below) := by
  have even : Word.limit width.bytes % 2 = 0 := by cases width <;> decide
  have wrapped : Int.negSucc below % Word.limit width.bytes =
      Int.negSucc below + Word.limit width.bytes := by
    rw [← Int.add_emod_right, Int.emod_eq_of_lt (by omega) (by omega)]
  refine ⟨⟨by omega, by omega⟩, ?_⟩
  rw [IntegerFormat.write, wrapped]
  congr 1
  omega

/-- A number of 64 bits is written in a format that can hold it. -/
theorem exists_format_writeUnsigned {number : Nat} (fits : number < Word.limit 8) :
    ∃ format : IntegerFormat, format.Holds number ∧ writeUnsigned number = format.write number := by
  unfold writeUnsigned
  by_cases small : number < 128
  · refine ⟨.positive, ⟨by omega, by omega⟩, ?_⟩
    rw [dif_pos small]
    rfl
  rw [dif_neg small]
  by_cases one : number < Word.limit 1
  · rw [if_pos one]
    exact ⟨.unsigned .one, unsigned_holds one⟩
  rw [if_neg one]
  by_cases two : number < Word.limit 2
  · rw [if_pos two]
    exact ⟨.unsigned .two, unsigned_holds two⟩
  rw [if_neg two]
  by_cases four : number < Word.limit 4
  · rw [if_pos four]
    exact ⟨.unsigned .four, unsigned_holds four⟩
  rw [if_neg four]
  exact ⟨.unsigned .eight, unsigned_holds fits⟩

/-- A negative integer of 64 bits is written in a format that can hold it. -/
theorem exists_format_writeNegative {below : Nat} (fits : 2 * below < Word.limit 8) :
    ∃ format : IntegerFormat, format.Holds (.negSucc below) ∧
      writeNegative below = format.write (.negSucc below) := by
  unfold writeNegative
  by_cases small : below < 32
  · refine ⟨.negative, ⟨by omega, by omega⟩, ?_⟩
    have place : (Int.negSucc below + 32).toNat = 32 - (below + 1) := by omega
    rw [dif_pos small, IntegerFormat.write, place]
    rfl
  rw [dif_neg small]
  by_cases one : 2 * below < Word.limit 1
  · rw [if_pos one]
    exact ⟨.signed .one, signed_holds one⟩
  rw [if_neg one]
  by_cases two : 2 * below < Word.limit 2
  · rw [if_pos two]
    exact ⟨.signed .two, signed_holds two⟩
  rw [if_neg two]
  by_cases four : 2 * below < Word.limit 4
  · rw [if_pos four]
    exact ⟨.signed .four, signed_holds four⟩
  rw [if_neg four]
  exact ⟨.signed .eight, signed_holds fits⟩

/-- An integer of 64 bits, of either sign, is written in a format that can hold it. -/
theorem exists_format_writeInteger {number : Int} (least : -0x8000000000000000 ≤ number)
    (most : number < 0x10000000000000000) :
    ∃ format : IntegerFormat, format.Holds number ∧ writeInteger number = format.write number := by
  have limit : Word.limit 8 = 0x10000000000000000 := rfl
  cases number with
  | ofNat number =>
    have fits : number < Word.limit 8 := by
      rw [limit]
      exact Int.ofNat_lt.mp most
    exact exists_format_writeUnsigned fits
  | negSucc below =>
    have fits : 2 * below < Word.limit 8 := by omega
    exact exists_format_writeNegative fits

/-- The head of a text is written in a format that can hold its length. -/
theorem exists_format_writeTextHead {length : Nat} (fits : length < 0x100000000) :
    ∃ format : TextFormat, format.Holds length ∧ writeTextHead length = format.head length := by
  unfold writeTextHead
  by_cases short : length < 32
  · refine ⟨.short, short, ?_⟩
    rw [dif_pos short]
    rfl
  rw [dif_neg short]
  by_cases one : length < Word.limit 1
  · rw [if_pos one]
    exact ⟨.sized .one, one, rfl⟩
  rw [if_neg one]
  by_cases two : length < Word.limit 2
  · rw [if_pos two]
    exact ⟨.sized .two, two, rfl⟩
  rw [if_neg two]
  exact ⟨.sized .four, fits, rfl⟩

/-- The head of bytes is written in a format that can hold their length. -/
theorem exists_width_writeBinaryHead {length : Nat} (fits : length < 0x100000000) :
    ∃ width : LengthWidth, length < Word.limit width.bytes ∧
      writeBinaryHead length = binaryHead width length := by
  unfold writeBinaryHead
  by_cases one : length < Word.limit 1
  · rw [if_pos one]
    exact ⟨.one, one, rfl⟩
  rw [if_neg one]
  by_cases two : length < Word.limit 2
  · rw [if_pos two]
    exact ⟨.two, two, rfl⟩
  rw [if_neg two]
  exact ⟨.four, fits, rfl⟩

/-- The head of an array is written in a format that can hold its count. -/
theorem exists_format_writeArrayHead {count : Nat} (fits : count < 0x100000000) :
    ∃ format : CountFormat, format.Holds count ∧ writeArrayHead count = format.arrayHead count := by
  unfold writeArrayHead
  by_cases few : count < 16
  · refine ⟨.few, few, ?_⟩
    rw [dif_pos few]
    rfl
  rw [dif_neg few]
  by_cases two : count < Word.limit 2
  · rw [if_pos two]
    exact ⟨.sized .two, two, rfl⟩
  rw [if_neg two]
  exact ⟨.sized .four, fits, rfl⟩

/-- The head of a map is written in a format that can hold its count. -/
theorem exists_format_writeMapHead {count : Nat} (fits : count < 0x100000000) :
    ∃ format : CountFormat, format.Holds count ∧ writeMapHead count = format.mapHead count := by
  unfold writeMapHead
  by_cases few : count < 16
  · refine ⟨.few, few, ?_⟩
    rw [dif_pos few]
    rfl
  rw [dif_neg few]
  by_cases two : count < Word.limit 2
  · rw [if_pos two]
    exact ⟨.sized .two, two, rfl⟩
  rw [if_neg two]
  exact ⟨.sized .four, fits, rfl⟩

/-- A text is written as a name. -/
theorem denotesName_writeText {name : String} (fits : (Utf8.encode name).length < 0x100000000) :
    DenotesName (writeText name) name := by
  obtain ⟨format, holds, same⟩ := exists_format_writeTextHead fits
  rw [writeText, same]
  exact .text format name holds

/-- Items are written one after the other. -/
theorem writeItems_eq_flatMap (items : List Value) : writeItems items = items.flatMap write := by
  induction items with
  | nil => rfl
  | cons item items ih => rw [writeItems, ih, List.flatMap_cons]

/-- Entries are written one after the other. -/
theorem writeEntries_eq_flatMap (entries : List (String × Value)) :
    writeEntries entries = entries.flatMap fun entry => writeText entry.1 ++ write entry.2 := by
  induction entries with
  | nil => rfl
  | cons entry entries ih => rw [writeEntries, ih, List.flatMap_cons]

/-- An item as a part of what is written. -/
def writtenPart (item : Value) : Part := ⟨write item, item.normalise, item.depth⟩

/-- An entry as a part of what is written. -/
def writtenEntry (entry : String × Value) : NamedPart :=
  ⟨writtenPart entry.2, writeText entry.1, entry.1⟩

/-- The parts that items are written as nest like the items. -/
theorem deepest_writtenPart (items : List Value) :
    deepest (items.map writtenPart) = Value.depthItems items := by
  induction items with
  | nil => rfl
  | cons item items ih => rw [List.map_cons, deepest, ih, Value.depthItems, writtenPart]

/-- The parts that entries are written as nest like the entries. -/
theorem deepest_writtenEntry (entries : List (String × Value)) :
    deepest ((entries.map writtenEntry).map NamedPart.toPart) = Value.depthEntries entries := by
  induction entries with
  | nil => rfl
  | cons entry entries ih =>
    rw [List.map_cons, List.map_cons, deepest, ih, Value.depthEntries, writtenEntry, writtenPart]

/-- What is written of a value is a document of the normalised value. -/
theorem denotes_write {value : Value} (fits : value.Fits) :
    Denotes (write value) value.normalise value.depth := by
  induction value using Value.treeInduction with
  | nil => exact .scalar .nil
  | bool flag => exact .scalar (.bool flag)
  | int number =>
    have least := number.le_toInt
    have most := number.toInt_lt
    obtain ⟨format, holds, same⟩ := exists_format_writeInteger least (by omega)
    rw [write, same, Value.normalise, ← Int64.ofInt_toInt number,
      Value.ofInt64_ofInt least most, Int64.ofInt_toInt number]
    exact .scalar (.integer format number.toInt holds)
  | uint number =>
    obtain ⟨format, holds, same⟩ := exists_format_writeUnsigned number.toNat_lt
    have denotes := DenotesScalar.integer format number.toNat holds
    rw [Value.ofInteger, if_pos (by omega), Int.toNat_natCast, UInt64.ofNat_toNat] at denotes
    rw [write, same]
    exact .scalar denotes
  | float number => exact .scalar (.float64 number.bits)
  | text written =>
    obtain ⟨format, holds, same⟩ := exists_format_writeTextHead fits.here
    rw [write, writeText, same]
    exact .text format written holds
  | binary bytes =>
    obtain ⟨width, holds, same⟩ := exists_width_writeBinaryHead fits.here
    rw [write, same]
    exact .binary width bytes holds
  | array items ih =>
    obtain ⟨format, holds, same⟩ := exists_format_writeArrayHead fits.here
    have each : ∀ part ∈ items.map writtenPart, Denotes part.bytes part.value part.depth := by
      rw [List.forall_mem_map]
      intro item member
      exact ih item member (fits.item item member)
    have denotes := Denotes.array format (items.map writtenPart)
      (by rw [List.length_map]; exact holds) each
    rw [deepest_writtenPart, List.length_map, List.flatMap_map, List.map_map] at denotes
    rw [write, same, writeItems_eq_flatMap, Value.normalise, Value.normaliseItems_eq_map]
    exact denotes
  | map entries ih =>
    obtain ⟨format, holds, same⟩ := exists_format_writeMapHead fits.here.1
    have named : ∀ part ∈ entries.map writtenEntry, DenotesName part.naming part.name := by
      rw [List.forall_mem_map]
      intro entry member
      exact denotesName_writeText (fits.here.2 entry member)
    have each : ∀ part ∈ entries.map writtenEntry,
        Denotes part.bytes part.value part.depth := by
      rw [List.forall_mem_map]
      intro entry member
      exact ih entry member (fits.entry entry member)
    have denotes := Denotes.map format (entries.map writtenEntry)
      (by rw [List.length_map]; exact holds) named each
    rw [deepest_writtenEntry, List.length_map, List.flatMap_map, List.map_map] at denotes
    rw [write, same, writeEntries_eq_flatMap, Value.normalise, Value.normaliseEntries_eq_map]
    exact denotes

/-- Things of at least one byte each are no more than their bytes. -/
theorem length_le_length_flatMap {α : Type} (written : α → Bytes) {things : List α}
    (positive : ∀ thing ∈ things, 0 < (written thing).length) :
    things.length ≤ (things.flatMap written).length := by
  induction things with
  | nil => exact Nat.zero_le _
  | cons thing things ih =>
    rw [List.forall_mem_cons] at positive
    obtain ⟨first, others⟩ := positive
    have fewer := ih others
    rw [List.flatMap_cons, List.length_append, List.length_cons]
    omega

/-- The bytes of one thing are no more than the bytes of all. -/
theorem length_written_le {α : Type} (written : α → Bytes) (things : List α) :
    ∀ thing ∈ things, (written thing).length ≤ (things.flatMap written).length := by
  intro thing member
  obtain ⟨before, after, rfl⟩ := List.append_of_mem member
  simp only [List.flatMap_append, List.flatMap_cons, List.length_append]
  omega

/-- A value whose document is short enough has no length that a document cannot hold. -/
theorem fits_of_length_write {value : Value} (short : (write value).length < 0x100000000) :
    value.Fits := by
  induction value using Value.treeInduction with
  | nil | bool | int | uint | float => exact .intro trivial (by simp [Value.children])
  | text written =>
    have fits : (Utf8.encode written).length < 0x100000000 := by
      rw [write, writeText, List.length_append] at short
      omega
    exact .intro fits (by simp [Value.children])
  | binary bytes =>
    have fits : bytes.length < 0x100000000 := by
      rw [write, List.length_append] at short
      omega
    exact .intro fits (by simp [Value.children])
  | array items ih =>
    rw [write, List.length_append, writeItems_eq_flatMap] at short
    have part := length_written_le write items
    have inside : ∀ item ∈ items, item.Fits := by
      intro item member
      have within := part item member
      exact ih item member (by omega)
    have few := length_le_length_flatMap write fun item member =>
      (denotes_write (inside item member)).length_pos
    have fits : items.length < 0x100000000 := by omega
    exact .intro fits inside
  | map entries ih =>
    rw [write, List.length_append, writeEntries_eq_flatMap] at short
    have part := length_written_le (fun entry => writeText entry.1 ++ write entry.2) entries
    simp only [List.length_append] at part
    have inside : ∀ entry ∈ entries, entry.2.Fits := by
      intro entry member
      have within := part entry member
      exact ih entry member (by omega)
    have few : entries.length ≤
        (entries.flatMap fun entry => writeText entry.1 ++ write entry.2).length := by
      apply length_le_length_flatMap
      intro entry member
      have positive := (denotes_write (inside entry member)).length_pos
      rw [List.length_append]
      omega
    refine .intro ⟨by omega, ?_⟩ ?_
    · intro entry member
      have within := part entry member
      rw [writeText, List.length_append] at within
      omega
    · rw [Value.children, List.forall_mem_map]
      exact inside

/-- A value within the limit is decoded from its document as the normalised value. -/
theorem decodeValue_write {value : Value} (fits : value.Fits) (shallow : value.depth ≤ 1023) :
    decodeValue (write value) = .ok value.normalise := by
  rw [decodeValue, readWhole_eq_ok_iff]
  have read := (denotes_write fits).readValue nestingLimit []
  rw [List.append_nil, if_pos (show value.depth ≤ nestingLimit from shallow)] at read
  exact read

/-- A value beyond the limit has a document that is too deep. -/
theorem decodeValue_write_of_deep {value : Value} (fits : value.Fits)
    (deep : 1023 < value.depth) : decodeValue (write value) = .error .tooDeep := by
  have read := (denotes_write fits).readValue nestingLimit []
  rw [List.append_nil, if_neg (show ¬value.depth ≤ nestingLimit from Nat.not_le.mpr deep)] at read
  unfold decodeValue readWhole
  rw [read]
  rfl

/-- A canonical value within the limit is decoded from its document unchanged. -/
theorem decodeValue_write_of_canonical {value : Value} (fits : value.Fits)
    (canonical : value.Canonical) (shallow : value.depth ≤ 1023) :
    decodeValue (write value) = .ok value := by
  rw [decodeValue_write fits shallow, Value.normalise_of_canonical value canonical]

/-- What becomes of a value that is written and decoded again. -/
structure ComesBack (value : Value) : Prop where
  /-- Within the limit the normalised value is decoded. -/
  normalised : value.depth ≤ 1023 → decodeValue (write value) = .ok value.normalise
  /-- Beyond the limit the document is too deep. -/
  tooDeep : 1023 < value.depth → decodeValue (write value) = .error .tooDeep
  /-- A canonical value within the limit is decoded unchanged. -/
  unchanged : value.Canonical → value.depth ≤ 1023 → decodeValue (write value) = .ok value

/-- Every value with lengths that a document can hold comes back. -/
theorem comesBack_of_fits (value : Value) (fits : value.Fits) : ComesBack value :=
  ⟨decodeValue_write fits, decodeValue_write_of_deep fits, decodeValue_write_of_canonical fits⟩

/-- A map with a repeated name and a non-negative integer of the signed constructor comes back with
the last value at the name's first place. -/
theorem comesBack_repeated_name :
    decodeValue (write (.map [("a", .int 5), ("b", .nil), ("a", .int 7)])) =
      .ok (.map [("a", .uint 7), ("b", .nil)]) := by
  have fits : Value.Fits (.map [("a", .int 5), ("b", .nil), ("a", .int 7)]) := by
    refine .intro ⟨by decide, by decide⟩ ?_
    simp only [Value.children, List.map_cons, List.map_nil, List.forall_mem_cons]
    exact ⟨.intro trivial (by simp [Value.children]), .intro trivial (by simp [Value.children]),
      .intro trivial (by simp [Value.children]), by simp⟩
  exact (comesBack_of_fits _ fits).normalised (by decide)

end BrokerWire.MessagePack

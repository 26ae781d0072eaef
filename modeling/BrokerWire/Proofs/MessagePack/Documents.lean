import BrokerWire.Proofs.MessagePack.Heads
import BrokerWire.Proofs.Text.Utf8

/-!
# Reading documents

The reader and the grammar agree in both directions. A document is read from in front of any bytes
when it nests within the levels, and is too deep otherwise; what has been read stands in front as a
document of that value. Both are inductions, over the document and over the levels, and both
go through lists of parts read one after the other.
-/
namespace BrokerWire.MessagePack

section Many

variable {α γ : Type} {readOne : Bytes → Outcome (α × Bytes)} {written : γ → Bytes}
  {result : γ → α} {fault : Fault}

/-- Pieces are read one after the other when all of them are admitted; a piece that is not ends the
reading with its fault. -/
theorem readMany_append {admitted : γ → Prop} [DecidablePred admitted] {pieces : List γ}
    (each : ∀ piece ∈ pieces, ∀ rest, readOne (written piece ++ rest) =
      if admitted piece then .ok (result piece, rest) else .error fault) (rest : Bytes) :
    readMany readOne pieces.length (pieces.flatMap written ++ rest) =
      if ∀ piece ∈ pieces, admitted piece then .ok (pieces.map result, rest)
      else .error fault := by
  induction pieces with
  | nil => simp [readMany]
  | cons piece pieces ih =>
    have first := each piece (List.mem_cons_self ..) (pieces.flatMap written ++ rest)
    have others := ih fun other member => each other (List.mem_cons_of_mem piece member)
    simp only [List.flatMap_cons, List.length_cons, readMany, List.append_assoc,
      List.forall_mem_cons]
    rw [first]
    by_cases here : admitted piece
    · rw [if_pos here]
      simp only [bind, Except.bind, others]
      by_cases all : ∀ other ∈ pieces, admitted other
      · rw [if_pos all, if_pos ⟨here, all⟩]
        rfl
      · rw [if_neg all, if_neg fun both => all both.2]
    · rw [if_neg here, if_neg fun both => here both.1]
      rfl

/-- What has been read one after the other stands there piece by piece. -/
theorem pieces_of_readMany {good : γ → Prop} {count : Nat} {bytes rest : Bytes} {results : List α}
    (each : ∀ {bytes rest : Bytes} {found : α}, readOne bytes = .ok (found, rest) →
      ∃ piece, good piece ∧ bytes = written piece ++ rest ∧ result piece = found)
    (read : readMany readOne count bytes = .ok (results, rest)) :
    ∃ pieces : List γ, pieces.length = count ∧ (∀ piece ∈ pieces, good piece) ∧
      bytes = pieces.flatMap written ++ rest ∧ pieces.map result = results := by
  induction count generalizing bytes results with
  | zero =>
    obtain ⟨rfl, rfl⟩ := Prod.mk.inj (Except.ok.inj read)
    exact ⟨[], rfl, by simp, rfl, rfl⟩
  | succ count ih =>
    obtain ⟨⟨found, middle⟩, first, read⟩ := bind_eq_ok_iff.mp read
    obtain ⟨⟨others, last⟩, following, read⟩ := bind_eq_ok_iff.mp read
    obtain ⟨rfl, rfl⟩ := Prod.mk.inj (Except.ok.inj read)
    obtain ⟨piece, sound, rfl, rfl⟩ := each first
    obtain ⟨pieces, rfl, all, rfl, rfl⟩ := ih following
    refine ⟨piece :: pieces, rfl, List.forall_mem_cons.mpr ⟨sound, all⟩, ?_, rfl⟩
    rw [List.flatMap_cons, List.append_assoc]

end Many

/-- A name is read from in front of any bytes. -/
theorem DenotesName.readText {bytes : Bytes} {name : String} (denotes : DenotesName bytes name)
    (levels : Nat) (rest : Bytes) :
    MessagePack.readText levels (bytes ++ rest) = .ok (name, rest) := by
  cases denotes with
  | text format name holds =>
    unfold MessagePack.readText
    rw [List.append_assoc, format.readHead_head holds]
    simp only [bind, Except.bind, readContents_append, Utf8.decode_encode]
  | binary width name holds =>
    unfold MessagePack.readText
    rw [List.append_assoc, readHead_binaryHead holds]
    simp only [bind, Except.bind, readContents_append, Utf8.decode_encode]

/-- A name that has been read stands in front. -/
theorem denotesName_of_readText {levels : Nat} {bytes rest : Bytes} {name : String}
    (read : readText levels bytes = .ok (name, rest)) :
    ∃ front, bytes = front ++ rest ∧ DenotesName front name := by
  obtain ⟨⟨head, tail⟩, announced, behind⟩ := bind_eq_ok_iff.mp read
  obtain ⟨front, rfl, spelled⟩ := spelledBy_of_readHead announced
  cases head with
  | scalar scalar => contradiction
  | text length =>
    obtain ⟨format, holds, rfl⟩ := spelled
    obtain ⟨⟨contents, last⟩, taken, decoding⟩ := bind_eq_ok_iff.mp behind
    obtain ⟨rfl, rfl⟩ := contents_of_readContents taken
    cases decoded : Utf8.decode contents with
    | error fault =>
      simp only [decoded] at decoding
      contradiction
    | ok written =>
      simp only [decoded] at decoding
      obtain ⟨rfl, rfl⟩ := Prod.mk.inj (Except.ok.inj decoding)
      obtain rfl := Utf8.decode_eq_ok_iff.mp decoded
      exact ⟨_, (List.append_assoc ..).symm, .text format written holds⟩
  | binary length =>
    obtain ⟨width, holds, rfl⟩ := spelled
    obtain ⟨⟨contents, last⟩, taken, decoding⟩ := bind_eq_ok_iff.mp behind
    obtain ⟨rfl, rfl⟩ := contents_of_readContents taken
    cases decoded : Utf8.decode contents with
    | error fault =>
      simp only [decoded] at decoding
      contradiction
    | ok written =>
      simp only [decoded] at decoding
      obtain ⟨rfl, rfl⟩ := Prod.mk.inj (Except.ok.inj decoding)
      obtain rfl := Utf8.decode_eq_ok_iff.mp decoded
      exact ⟨_, (List.append_assoc ..).symm, .binary width written holds⟩
  | container kind count =>
    by_cases none : levels = 0
    · simp only [if_pos none] at behind
      contradiction
    · simp only [if_neg none] at behind
      contradiction

/-- An entry is read from in front of any bytes as its value is. -/
theorem readEntry_append {part : NamedPart} {levels : Nat}
    (named : DenotesName part.naming part.name) (rest : Bytes)
    (item : readValue levels (part.bytes ++ rest) =
      if part.depth ≤ levels then .ok (part.value, rest) else .error .tooDeep) :
    readEntry levels (readValue levels) (part.naming ++ part.bytes ++ rest) =
      if part.depth ≤ levels then .ok ((part.name, part.value), rest) else .error .tooDeep := by
  unfold readEntry
  rw [List.append_assoc, named.readText]
  simp only [bind, Except.bind, item]
  by_cases within : part.depth ≤ levels
  · rw [if_pos within, if_pos within]
    rfl
  · rw [if_neg within, if_neg within]

/-- The contents of a text format are a document, of text or of bytes. -/
theorem denotes_textValue {format : TextFormat} {contents : Bytes}
    (holds : format.Holds contents.length) :
    Denotes (format.head contents.length ++ contents) (textValue contents) 0 := by
  unfold textValue
  cases decoded : Utf8.decode contents with
  | ok written =>
    obtain rfl := Utf8.decode_eq_ok_iff.mp decoded
    exact .text format written holds
  | error fault =>
    apply Denotes.notText format contents holds
    intro written same
    rw [Utf8.decode_eq_ok_iff.mpr same] at decoded
    contradiction

/-- What is read of a value behind its head. -/
def readBehind (levels : Nat) : Head → Bytes → Outcome (Value × Bytes)
  | .scalar simple, rest => .ok (simple.value, rest)
  | .text length, rest => do
    let (contents, rest) ← readContents length rest
    return (textValue contents, rest)
  | .binary length, rest => do
    let (contents, rest) ← readContents length rest
    return (.binary contents, rest)
  | .container kind count, rest =>
    match levels with
    | 0 => .error .tooDeep
    | levels + 1 =>
      match kind with
      | .array => do
        let (items, rest) ← readMany (readValue levels) count rest
        return (.array items, rest)
      | .map => do
        let (pairs, rest) ← readMany (readEntry levels (readValue levels)) count rest
        return (.map (Entries.collect pairs), rest)
      | .extension => .error (.wrongKind .wrapped Value.expected)

/-- A value is its head and what is read behind it. -/
theorem readValue_eq_bind (levels : Nat) (bytes : Bytes) :
    readValue levels bytes =
      readHead bytes >>= fun (head, rest) => readBehind levels head rest := by
  cases levels with
  | zero | succ levels =>
    rw [readValue]
    cases readHead bytes with
    | error fault => rfl
    | ok found =>
      obtain ⟨head, rest⟩ := found
      cases head <;> rfl

/-- What has been read of a value whose head is known. -/
theorem readValue_of_readHead {levels : Nat} {bytes rest : Bytes} {head : Head}
    (announced : readHead bytes = .ok (head, rest)) :
    readValue levels bytes = readBehind levels head rest := by
  rw [readValue_eq_bind, announced]
  rfl

/-- A document is read from in front of any bytes when it nests within the levels, and is too deep
otherwise. -/
theorem Denotes.readValue {bytes : Bytes} {value : Value} {depth : Nat}
    (denotes : Denotes bytes value depth) (levels : Nat) (rest : Bytes) :
    MessagePack.readValue levels (bytes ++ rest) =
      if depth ≤ levels then .ok (value, rest) else .error .tooDeep := by
  induction denotes generalizing levels rest with
  | scalar denotes =>
    obtain ⟨scalar, rfl, announced⟩ := denotes.readHead rest
    rw [readValue_of_readHead announced, if_pos (Nat.zero_le levels)]
    rfl
  | text format written holds =>
    rw [List.append_assoc, readValue_of_readHead (format.readHead_head holds _),
      if_pos (Nat.zero_le levels)]
    simp only [readBehind, readContents_append, bind, Except.bind, textValue, Utf8.decode_encode]
    rfl
  | notText format contents holds unwritten =>
    obtain ⟨fault, undecoded⟩ := Utf8.decode_eq_error unwritten
    rw [List.append_assoc, readValue_of_readHead (format.readHead_head holds _),
      if_pos (Nat.zero_le levels)]
    simp only [readBehind, readContents_append, bind, Except.bind, textValue, undecoded]
    rfl
  | binary width contents holds =>
    rw [List.append_assoc, readValue_of_readHead (readHead_binaryHead holds _),
      if_pos (Nat.zero_le levels)]
    simp only [readBehind, readContents_append, bind, Except.bind]
    rfl
  | array format items holds each ih =>
    rw [List.append_assoc, readValue_of_readHead (format.readHead_arrayHead holds _)]
    cases levels with
    | zero =>
      rw [if_neg (by omega)]
      rfl
    | succ levels =>
      have all := readMany_append (fun item member => ih item member levels) rest
      simp only [readBehind, all, ← deepest_le_iff, Nat.add_le_add_iff_right]
      by_cases within : deepest items ≤ levels
      · rw [if_pos within, if_pos within]
        rfl
      · rw [if_neg within, if_neg within]
        rfl
  | map format entries holds named each ih =>
    rw [List.append_assoc, readValue_of_readHead (format.readHead_mapHead holds _)]
    cases levels with
    | zero =>
      rw [if_neg (by omega)]
      rfl
    | succ levels =>
      have all := readMany_append (fun entry member rest =>
        readEntry_append (named entry member) rest (ih entry member levels rest)) rest
      have nested : deepest (entries.map NamedPart.toPart) ≤ levels ↔
          ∀ entry ∈ entries, entry.depth ≤ levels := by
        rw [deepest_le_iff, List.forall_mem_map]
      simp only [readBehind, all, ← nested, Nat.add_le_add_iff_right]
      by_cases within : deepest (entries.map NamedPart.toPart) ≤ levels
      · rw [if_pos within, if_pos within, ← Entries.collect_eq_merge]
        rfl
      · rw [if_neg within, if_neg within]
        rfl

/-- Every document takes at least one byte. -/
theorem Denotes.length_pos {bytes : Bytes} {value : Value} {depth : Nat}
    (denotes : Denotes bytes value depth) : 0 < bytes.length := by
  cases bytes with
  | nil =>
    have read := denotes.readValue depth []
    rw [if_pos (Nat.le_refl depth), readValue_eq_bind] at read
    contradiction
  | cons byte bytes => exact Nat.zero_lt_succ _

/-- An entry that has been read stands in front when its value does. -/
theorem namedPart_of_readEntry {levels : Nat} {bytes rest : Bytes} {found : String × Value}
    (item : ∀ {bytes rest : Bytes} {value : Value}, readValue levels bytes = .ok (value, rest) →
      ∃ part : Part, (part.depth ≤ levels ∧ Denotes part.bytes part.value part.depth) ∧
        bytes = part.bytes ++ rest ∧ part.value = value)
    (read : readEntry levels (readValue levels) bytes = .ok (found, rest)) :
    ∃ entry : NamedPart, (DenotesName entry.naming entry.name ∧ entry.depth ≤ levels ∧
        Denotes entry.bytes entry.value entry.depth) ∧
      bytes = entry.naming ++ entry.bytes ++ rest ∧ (entry.name, entry.value) = found := by
  obtain ⟨⟨name, behind⟩, naming, read⟩ := bind_eq_ok_iff.mp read
  obtain ⟨⟨value, last⟩, valued, read⟩ := bind_eq_ok_iff.mp read
  obtain ⟨rfl, rfl⟩ := Prod.mk.inj (Except.ok.inj read)
  obtain ⟨front, rfl, named⟩ := denotesName_of_readText naming
  obtain ⟨part, sound, rfl, rfl⟩ := item valued
  exact ⟨⟨part, front, name⟩, ⟨named, sound⟩, (List.append_assoc ..).symm, rfl⟩

/-- What has been read is a document in front of the bytes handed back. -/
theorem part_of_readValue {levels : Nat} {bytes rest : Bytes} {value : Value}
    (read : readValue levels bytes = .ok (value, rest)) :
    ∃ part : Part, (part.depth ≤ levels ∧ Denotes part.bytes part.value part.depth) ∧
      bytes = part.bytes ++ rest ∧ part.value = value := by
  induction levels using Nat.strongRecOn generalizing bytes rest value with
  | ind levels ih =>
    rw [readValue_eq_bind] at read
    obtain ⟨⟨head, tail⟩, announced, behind⟩ := bind_eq_ok_iff.mp read
    obtain ⟨front, rfl, spelled⟩ := spelledBy_of_readHead announced
    cases head with
    | scalar scalar =>
      obtain ⟨rfl, rfl⟩ := Prod.mk.inj (Except.ok.inj behind)
      exact ⟨⟨front, scalar.value, 0⟩, ⟨Nat.zero_le levels, .scalar spelled⟩, rfl, rfl⟩
    | text length =>
      obtain ⟨format, holds, rfl⟩ := spelled
      obtain ⟨⟨contents, last⟩, taken, made⟩ := bind_eq_ok_iff.mp behind
      obtain ⟨rfl, rfl⟩ := Prod.mk.inj (Except.ok.inj made)
      obtain ⟨rfl, rfl⟩ := contents_of_readContents taken
      refine ⟨⟨format.head contents.length ++ contents, textValue contents, 0⟩,
        ⟨Nat.zero_le levels, ?_⟩, (List.append_assoc ..).symm, rfl⟩
      exact denotes_textValue holds
    | binary length =>
      obtain ⟨width, holds, rfl⟩ := spelled
      obtain ⟨⟨contents, last⟩, taken, made⟩ := bind_eq_ok_iff.mp behind
      obtain ⟨rfl, rfl⟩ := Prod.mk.inj (Except.ok.inj made)
      obtain ⟨rfl, rfl⟩ := contents_of_readContents taken
      exact ⟨⟨binaryHead width contents.length ++ contents, .binary contents, 0⟩,
        ⟨Nat.zero_le levels, .binary width contents holds⟩, (List.append_assoc ..).symm, rfl⟩
    | container kind count =>
      cases levels with
      | zero => contradiction
      | succ levels =>
        cases kind with
        | array =>
          obtain ⟨format, holds, rfl⟩ := spelled
          obtain ⟨⟨found, last⟩, taken, made⟩ := bind_eq_ok_iff.mp behind
          obtain ⟨rfl, rfl⟩ := Prod.mk.inj (Except.ok.inj made)
          obtain ⟨items, rfl, sound, rfl, rfl⟩ :=
            pieces_of_readMany (ih levels (Nat.lt_succ_self levels)) taken
          refine ⟨⟨_, _, _⟩, ⟨?_, .array format items holds fun item member =>
            (sound item member).2⟩, (List.append_assoc ..).symm, rfl⟩
          have nested := deepest_le_iff.mpr fun item member => (sound item member).1
          exact Nat.succ_le_succ nested
        | map =>
          obtain ⟨format, holds, rfl⟩ := spelled
          obtain ⟨⟨found, last⟩, taken, made⟩ := bind_eq_ok_iff.mp behind
          obtain ⟨rfl, rfl⟩ := Prod.mk.inj (Except.ok.inj made)
          obtain ⟨entries, rfl, sound, rfl, rfl⟩ := pieces_of_readMany
            (namedPart_of_readEntry (ih levels (Nat.lt_succ_self levels))) taken
          refine ⟨⟨_, _, _⟩, ⟨?_, .map format entries holds
            (fun entry member => (sound entry member).1)
            (fun entry member => (sound entry member).2.2)⟩, (List.append_assoc ..).symm, ?_⟩
          · have nested : deepest (entries.map NamedPart.toPart) ≤ levels :=
              deepest_le_iff.mpr (List.forall_mem_map.mpr fun entry member =>
                (sound entry member).2.1)
            exact Nat.succ_le_succ nested
          · rw [Entries.collect_eq_merge]
        | extension => contradiction

/-- Bytes are read as a whole exactly when nothing is left behind what is read. -/
theorem readWhole_eq_ok_iff {α : Type} {read : Bytes → Outcome (α × Bytes)} {bytes : Bytes}
    {result : α} : readWhole read bytes = .ok result ↔ read bytes = .ok (result, []) := by
  unfold readWhole
  rw [bind_eq_ok_iff]
  constructor
  · rintro ⟨⟨found, rest⟩, taken, whole⟩
    cases rest with
    | nil =>
      obtain rfl := Except.ok.inj whole
      exact taken
    | cons byte rest => contradiction
  · intro taken
    exact ⟨(result, []), taken, rfl⟩

/-- Bytes that are decoded are a document of the value, within the limit. -/
theorem exists_denotes_of_decodeValue {bytes : Bytes} {value : Value}
    (decoded : decodeValue bytes = .ok value) : ∃ depth ≤ 1023, Denotes bytes value depth := by
  unfold decodeValue at decoded
  obtain ⟨part, ⟨within, denotes⟩, whole, rfl⟩ :=
    part_of_readValue (readWhole_eq_ok_iff.mp decoded)
  rw [List.append_nil] at whole
  subst whole
  exact ⟨part.depth, within, denotes⟩

/-- A document within the limit is decoded into its value. -/
theorem Denotes.decodeValue {bytes : Bytes} {value : Value} {depth : Nat}
    (denotes : Denotes bytes value depth) (within : depth ≤ 1023) :
    MessagePack.decodeValue bytes = .ok value := by
  unfold MessagePack.decodeValue
  rw [readWhole_eq_ok_iff]
  have read := denotes.readValue nestingLimit []
  rw [List.append_nil, if_pos (show depth ≤ nestingLimit from within)] at read
  exact read

/-- Bytes are decoded into a value exactly when they are a document of that value in which at most
1023 arrays and maps stand one inside the other. -/
theorem decodeValue_eq_ok_iff (bytes : Bytes) (value : Value) :
    decodeValue bytes = .ok value ↔ ∃ depth ≤ 1023, Denotes bytes value depth := by
  constructor
  · exact exists_denotes_of_decodeValue
  · rintro ⟨depth, within, denotes⟩
    exact denotes.decodeValue within

/-- An array and an integer in wider formats than they need. -/
example : decodeValue [0xDD, 0, 0, 0, 1, 0xD2, 0, 0, 0, 5] = .ok (.array [.uint 5]) := by
  rfl

end BrokerWire.MessagePack

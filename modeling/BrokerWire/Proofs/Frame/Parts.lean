import BrokerWire.Word

/-!
# Parts of a fixed size

The parts of headers take the same number of bytes whatever they are. Words are such parts, and so
is what is composed of them; each is read back from its bytes, from no others, and is missing only
where fewer bytes are left.
-/
namespace BrokerWire

/-- A part that always takes the same number of bytes: it is read back from in front of any bytes,
no others are read as it, and as many bytes as it takes are one. -/
structure FixedPart {α : Type} (read? : Bytes → Option (α × Bytes)) (write : α → Bytes)
    (size : Nat) : Prop where
  /-- Its bytes are so many. -/
  length_write : ∀ part, (write part).length = size
  /-- It is read back. -/
  read_write : ∀ part rest, read? (write part ++ rest) = some (part, rest)
  /-- What is read is followed by exactly the bytes handed back. -/
  eq_of_read : ∀ {bytes part rest}, read? bytes = some (part, rest) → bytes = write part ++ rest
  /-- So many bytes in front are one. -/
  exists_write : ∀ {bytes : Bytes}, size ≤ bytes.length → ∃ part rest, bytes = write part ++ rest

namespace FixedPart

variable {α β : Type} {read? : Bytes → Option (α × Bytes)} {write : α → Bytes} {size : Nat}
  {readNext? : Bytes → Option (β × Bytes)} {writeNext : β → Bytes} {sizeNext : Nat}

/-- A part is missing exactly where fewer bytes are left. -/
theorem eq_none_iff (fixed : FixedPart read? write size) {bytes : Bytes} :
    read? bytes = none ↔ bytes.length < size := by
  constructor
  · intro missing
    refine Nat.not_le.mp fun enough => ?_
    obtain ⟨part, rest, rfl⟩ := fixed.exists_write enough
    rw [fixed.read_write] at missing
    contradiction
  · intro short
    rw [Option.eq_none_iff_forall_ne_some]
    rintro ⟨part, rest⟩ found
    rw [fixed.eq_of_read found, List.length_append, fixed.length_write] at short
    omega

/-- A byte is such a part. -/
theorem byte : FixedPart Word.read8 (fun byte => [byte]) 1 where
  length_write _ := rfl
  read_write _ _ := rfl
  eq_of_read := Word.eq_of_read8
  exists_write := by
    intro bytes enough
    obtain ⟨byte, rest, rfl⟩ := List.exists_cons_of_length_pos enough
    exact ⟨byte, rest, rfl⟩

/-- A word of two bytes is such a part. -/
theorem word16 : FixedPart Word.read16 Word.write16 2 where
  length_write word := Word.length_little 2 word.toNat
  read_write := Word.read16_write16
  eq_of_read := Word.eq_of_read16
  exists_write := Word.exists_write16

/-- A word of four bytes is such a part. -/
theorem word32 : FixedPart Word.read32 Word.write32 4 where
  length_write word := Word.length_little 4 word.toNat
  read_write := Word.read32_write32
  eq_of_read := Word.eq_of_read32
  exists_write := Word.exists_write32

/-- A word of eight bytes is such a part. -/
theorem word64 : FixedPart Word.read64 Word.write64 8 where
  length_write word := Word.length_little 8 word.toNat
  read_write := Word.read64_write64
  eq_of_read := Word.eq_of_read64
  exists_write := Word.exists_write64

/-- Two parts behind each other are one. -/
theorem pair (fixed : FixedPart read? write size)
    (next : FixedPart readNext? writeNext sizeNext) :
    FixedPart
      (fun bytes => do
        let (one, rest) ← read? bytes
        let (two, rest) ← readNext? rest
        return ((one, two), rest))
      (fun both => write both.1 ++ writeNext both.2) (size + sizeNext) where
  length_write both := by rw [List.length_append, fixed.length_write, next.length_write]
  read_write both rest := by
    rw [List.append_assoc, fixed.read_write]
    simp only [bind, Option.bind_some, next.read_write]
    rfl
  eq_of_read := by
    intro bytes both rest found
    simp only [bind, Option.bind_eq_some_iff, pure, Option.some.injEq, Prod.mk.injEq,
      Prod.exists] at found
    obtain ⟨one, behind, first, two, last, second, rfl, rfl⟩ := found
    rw [fixed.eq_of_read first, next.eq_of_read second, List.append_assoc]
  exists_write := by
    intro bytes enough
    obtain ⟨one, behind, rfl⟩ := fixed.exists_write (show size ≤ bytes.length by omega)
    rw [List.length_append, fixed.length_write] at enough
    obtain ⟨two, rest, rfl⟩ := next.exists_write (show sizeNext ≤ behind.length by omega)
    exact ⟨(one, two), rest, (List.append_assoc ..).symm⟩

/-- What a part is made into, one to one, is a part as well. -/
theorem made (fixed : FixedPart read? write size) (make : α → β) (tell : β → α)
    (make_tell : ∀ part, make (tell part) = part) (tell_make : ∀ part, tell (make part) = part)
    (read : ∀ bytes, readNext? bytes = (read? bytes).map fun (part, rest) => (make part, rest))
    (written : ∀ part, writeNext part = write (tell part)) :
    FixedPart readNext? writeNext size where
  length_write part := by rw [written, fixed.length_write]
  read_write part rest := by
    simp only [read, written, fixed.read_write, Option.map_some, make_tell]
  eq_of_read := by
    intro bytes part rest found
    rw [read, Option.map_eq_some_iff] at found
    obtain ⟨⟨told, behind⟩, first, same⟩ := found
    obtain ⟨rfl, rfl⟩ := Prod.mk.inj same
    rw [written, tell_make, fixed.eq_of_read first]
  exists_write := by
    intro bytes enough
    obtain ⟨part, rest, rfl⟩ := fixed.exists_write enough
    exact ⟨make part, rest, by rw [written, tell_make]⟩

end FixedPart

end BrokerWire

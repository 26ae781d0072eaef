/-!
# Byte strings

Everything read or written here is a list of bytes in wire order. A reader takes what it needs
from the front and hands back the bytes after it, so the only way to come up short is to ask for
more bytes than there are.
-/
namespace BrokerWire

/-- Bytes in wire order. -/
abbrev Bytes := List UInt8

namespace Bytes

/-- The first `count` bytes and the bytes after them, or nothing when fewer are left. -/
def split? (count : Nat) (bytes : Bytes) : Option (Bytes × Bytes) :=
  let first := bytes.take count
  if first.length = count then some (first, bytes.drop count) else none

/-- A split succeeds exactly at the given first part, and loses nothing. -/
theorem split?_eq_some_iff {count : Nat} {bytes first rest : Bytes} :
    split? count bytes = some (first, rest) ↔ bytes = first ++ rest ∧ first.length = count := by
  simp only [split?]
  constructor
  · intro found
    split at found
    · rename_i enough
      simp only [Option.some.injEq, Prod.mk.injEq] at found
      obtain ⟨rfl, rfl⟩ := found
      exact ⟨(List.take_append_drop count bytes).symm, enough⟩
    · contradiction
  · rintro ⟨rfl, rfl⟩
    simp

/-- A split fails exactly when too few bytes are left. -/
theorem split?_eq_none_iff {count : Nat} {bytes : Bytes} :
    split? count bytes = none ↔ bytes.length < count := by
  simp only [split?, ite_eq_right_iff, reduceCtorEq, imp_false, List.length_take]
  omega

/-- Bytes written in front of any others are split off again. -/
theorem split?_append (first rest : Bytes) :
    split? first.length (first ++ rest) = some (first, rest) :=
  split?_eq_some_iff.mpr ⟨rfl, rfl⟩

end Bytes

end BrokerWire

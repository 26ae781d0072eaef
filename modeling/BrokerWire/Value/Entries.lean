import Std.Data.HashMap

/-!
# Collecting entries

Pairs of a name and a value, gathered into entries with distinct names: the first occurrence of a
name fixes its place, the last one its value. The collector keeps the place of every name in an
index, so that no entry is searched for; `put` is the same rule without an index.
-/
namespace BrokerWire.Entries

variable {α : Type}

/-- Write a value under a name: over the entry of that name, or else behind all entries. -/
def put (entries : List (String × α)) (name : String) (value : α) : List (String × α) :=
  match entries with
  | [] => [(name, value)]
  | (present, old) :: rest =>
    if present = name then (present, value) :: rest else (present, old) :: put rest name value

/-- The entries gathered so far, and the place of each name among them. -/
structure Collector (α : Type) where
  /-- Entries in the order of their names' first occurrences. -/
  entries : Array (String × α)
  /-- The place of every name present. -/
  places : Std.HashMap String Nat

namespace Collector

/-- Nothing gathered. -/
def empty : Collector α := ⟨#[], ∅⟩

/-- Take one pair: over the entry at the name's place, or else behind all entries. -/
def add (collector : Collector α) (name : String) (value : α) : Collector α :=
  match collector.places[name]? with
  | some place => { collector with entries := collector.entries.setIfInBounds place (name, value) }
  | none =>
    { entries := collector.entries.push (name, value)
      places := collector.places.insert name collector.entries.size }

end Collector

/-- The entries that the pairs leave, in the order of their names' first occurrences. -/
def collect (pairs : List (String × α)) : List (String × α) :=
  (pairs.foldl (fun collector (name, value) => collector.add name value)
    Collector.empty).entries.toList

end BrokerWire.Entries

import Mathlib.Data.Finmap

/-!
# Finite maps

What a finite map has after an insertion or an erasure, by cases on where it
comes from, and the maps that have the same keys as a list.
-/

namespace Finmap

variable {Key Value : Type} [DecidableEq Key] {map : Finmap fun _ : Key => Value}
  {key : Key} {value : Value}

/-- What a map has after an insertion is the new entry or was there before. -/
theorem lookup_insert_cases {newKey : Key} {newValue : Value}
    (present : (map.insert newKey newValue).lookup key = some value) :
    (key = newKey ∧ newValue = value) ∨
      (key ≠ newKey ∧ map.lookup key = some value) := by
  by_cases same : key = newKey
  · rw [same, lookup_insert, Option.some.injEq] at present
    exact Or.inl ⟨same, present⟩
  · rw [lookup_insert_of_ne _ same] at present
    exact Or.inr ⟨same, present⟩

/-- What a map has after an erasure was there before, under another key. -/
theorem lookup_of_erase {oldKey : Key}
    (present : (map.erase oldKey).lookup key = some value) :
    key ≠ oldKey ∧ map.lookup key = some value := by
  by_cases same : key = oldKey
  · rw [same, lookup_erase] at present
    cases present
  · rw [lookup_erase_ne same] at present
    exact ⟨same, present⟩

/-- A map whose keys are those of a list without duplicates is as large. -/
theorem card_keys_eq_length {keys : List Key} (nodup : keys.Nodup)
    (sameKeys : ∀ key, key ∈ map ↔ key ∈ keys) :
    map.keys.card = keys.length := by
  rw [← List.toFinset_card_of_nodup nodup]
  refine congrArg Finset.card (Finset.ext fun key => ?_)
  rw [mem_keys, List.mem_toFinset]
  exact sameKeys key

end Finmap

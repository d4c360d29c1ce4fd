import Mathlib.Algebra.Ring.Nat
import Mathlib.Data.List.AList
import Mathlib.Algebra.BigOperators.Group.List.Basic

/-! # Totals over an association list

The sum of a quantity over the entries of an `AList`, and how it changes when an
entry is inserted, replaced or erased.
-/

namespace AList

open List

variable {α : Type} {β : α → Type}

/-- The sum of a quantity over all entries. -/
def total (weight : (key : α) → β key → Nat) (map : AList β) : Nat :=
  (map.entries.map fun entry => weight entry.1 entry.2).sum

variable (weight : (key : α) → β key → Nat)

variable [DecidableEq α] {map : AList β}

theorem total_insert (key : α) (value : β key) (map : AList β) :
    total weight (map.insert key value) = weight key value + total weight (map.erase key) := by
  rfl

theorem total_of_lookup {key : α} {value : β key} (found : map.lookup key = some value) :
    total weight map = weight key value + total weight (map.erase key) := by
  obtain ⟨entries, nodup⟩ := map
  have present : key ∈ entries.keys := by
    rw [← dlookup_isSome]
    exact Option.isSome_of_eq_some found
  obtain ⟨other, before, after, absent, split, erased⟩ := exists_of_kerase present
  have same : other = value := by
    have lookup : entries.dlookup key = some other := by
      rw [← Option.mem_def, mem_dlookup_iff nodup, split]
      simp
    exact Option.some.inj (lookup.symm.trans found)
  subst same
  change (entries.map _).sum = _ + ((entries.kerase key).map _).sum
  rw [erased, split]
  simp only [map_append, map_cons, sum_append, sum_cons]
  omega

theorem total_erase_of_lookup_none {key : α} (missing : map.lookup key = none) :
    total weight (map.erase key) = total weight map := by
  have absent : key ∉ map := lookup_eq_none.mp missing
  have unchanged : (map.erase key).entries = map.entries := kerase_of_notMem_keys absent
  rw [total, total, unchanged]

theorem le_total_of_lookup {key : α} {value : β key} (found : map.lookup key = some value) :
    weight key value ≤ total weight map := by
  rw [total_of_lookup weight found]
  exact Nat.le_add_right _ _

/-- The entries under distinct keys do not add up to more than all entries. -/
theorem sum_lookup_le_total {keys : List α} (nodup : keys.Nodup) (map : AList β) :
    (keys.map fun key => (map.lookup key).elim 0 (weight key)).sum ≤ total weight map := by
  induction keys generalizing map with
  | nil => exact Nat.zero_le _
  | cons key rest ih =>
    obtain ⟨absent, nodup⟩ := nodup_cons.mp nodup
    have unchanged : rest.map (fun other => (map.lookup other).elim 0 (weight other)) =
        rest.map fun other => ((map.erase key).lookup other).elim 0 (weight other) := by
      refine map_congr_left fun other mem => ?_
      have ne : other ≠ key := fun same => absent (same ▸ mem)
      rw [lookup_erase_ne ne]
    rw [map_cons, sum_cons, unchanged]
    cases found : map.lookup key with
    | none =>
      rw [← total_erase_of_lookup_none weight found, Option.elim_none, Nat.zero_add]
      exact ih nodup _
    | some value =>
      rw [total_of_lookup weight found, Option.elim_some]
      exact Nat.add_le_add_left (ih nodup _) _

variable {weight}

/-- The total only looks at the entries. -/
theorem total_congr {other : (key : α) → β key → Nat}
    (agree : ∀ key value, map.lookup key = some value → weight key value = other key value) :
    total weight map = total other map := by
  refine congrArg List.sum (map_congr_left fun entry mem => ?_)
  exact agree entry.1 entry.2 (mem_lookup_iff.mpr mem)

/-- What is left after an entry is erased was there before, under another key. -/
theorem lookup_of_erase {key other : α} {value : β other}
    (looked : (map.erase key).lookup other = some value) :
    map.lookup other = some value ∧ other ≠ key := by
  have ne : other ≠ key := by
    rintro rfl
    rw [lookup_erase] at looked
    cases looked
  rw [lookup_erase_ne ne] at looked
  exact ⟨looked, ne⟩

end AList

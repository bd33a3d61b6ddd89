import Mathlib.Data.List.AList

namespace KeyMaster.Data

/-! Hash maps whose iteration order carries no information.

A map is a list of entries with distinct keys.  The list order is the order in
which the map happens to be iterated; `SameEntries` relates two maps with the
same contents iterated in any two orders.
-/

/-- A hash map together with one iteration order of its entries. -/
abbrev HashMap (κ α : Type) := AList fun _ : κ => α

namespace HashMap

variable {κ α : Type} {map left right : HashMap κ α} {key other : κ} {value : α}

def values (map : HashMap κ α) : List α := map.entries.map Sigma.snd

/-- The contents agree, the iteration orders need not. -/
def SameEntries (left right : HashMap κ α) : Prop := left.entries.Perm right.entries

theorem SameEntries.refl (map : HashMap κ α) : SameEntries map map := List.Perm.refl _

theorem SameEntries.symm (same : SameEntries left right) : SameEntries right left :=
  List.Perm.symm same

theorem SameEntries.trans {middle : HashMap κ α} (first : SameEntries left middle)
    (second : SameEntries middle right) : SameEntries left right :=
  List.Perm.trans first second

variable [DecidableEq κ]

theorem SameEntries.lookup (same : SameEntries left right) (key : κ) :
    left.lookup key = right.lookup key :=
  AList.perm_lookup same

theorem mem_values : value ∈ map.values ↔ ∃ key, map.lookup key = some value := by
  constructor
  · intro member
    obtain ⟨⟨key, found⟩, inEntries, rfl⟩ := List.mem_map.mp member
    exact ⟨key, AList.mem_lookup_iff.mpr inEntries⟩
  · rintro ⟨key, found⟩
    exact List.mem_map.mpr ⟨⟨key, value⟩, AList.mem_lookup_iff.mp found, rfl⟩

theorem lookup_insert_eq (map : HashMap κ α) (key other : κ) (value : α) :
    (map.insert key value).lookup other = if other = key then some value else map.lookup other := by
  by_cases same : other = key
  · subst other
    simp
  · rw [AList.lookup_insert_ne same, if_neg same]

theorem lookup_erase_eq (map : HashMap κ α) (key other : κ) :
    (map.erase key).lookup other = if other = key then none else map.lookup other := by
  by_cases same : other = key
  · subst other
    simp
  · rw [AList.lookup_erase_ne same, if_neg same]

def modify (map : HashMap κ α) (key : κ) (change : α → α) : HashMap κ α where
  entries := map.entries.map
    (Sigma.map id fun current value => if current = key then change value else value)
  nodupKeys := List.NodupKeys.map₂ _ map.entries map.nodupKeys

theorem lookup_modify_eq (map : HashMap κ α) (key other : κ) (change : α → α) :
    (map.modify key change).lookup other =
      if other = key then (map.lookup key).map change else map.lookup other := by
  have mapped := List.dlookup_map₂ (l := map.entries)
    (f := fun current value => if current = key then change value else value) other
  refine mapped.trans ?_
  by_cases same : other = key
  · subst other
    simp [AList.lookup]
  · simp [AList.lookup, same]

/-- A scan for a value that only one key holds does not depend on the
iteration order. -/
theorem find?_values_eq_some (map : HashMap κ α) (value : α) (predicate : α → Bool)
    (unique : ∀ first second firstValue secondValue,
      map.lookup first = some firstValue → map.lookup second = some secondValue →
      predicate firstValue = true → predicate secondValue = true → first = second) :
    map.values.find? predicate = some value ↔
      ∃ key, map.lookup key = some value ∧ predicate value = true := by
  constructor
  · intro found
    obtain ⟨key, lookup⟩ := mem_values.mp (List.mem_of_find?_eq_some found)
    exact ⟨key, lookup, List.find?_some found⟩
  · rintro ⟨key, lookup, holds⟩
    cases found : map.values.find? predicate with
    | none =>
        have absent := List.find?_eq_none.mp found value (mem_values.mpr ⟨key, lookup⟩)
        exact absurd holds absent
    | some other =>
        obtain ⟨otherKey, otherLookup⟩ := mem_values.mp (List.mem_of_find?_eq_some found)
        have same := unique key otherKey value other lookup otherLookup holds (List.find?_some found)
        subst otherKey
        rw [lookup] at otherLookup
        exact otherLookup.symm

theorem find?_values_eq_none (predicate : α → Bool) :
    map.values.find? predicate = none ↔
      ∀ key value, map.lookup key = some value → predicate value = false := by
  rw [List.find?_eq_none]
  constructor
  · intro absent key value lookup
    simpa using absent value (mem_values.mpr ⟨key, lookup⟩)
  · intro absent value member
    obtain ⟨key, lookup⟩ := mem_values.mp member
    simp [absent key value lookup]

end HashMap

end KeyMaster.Data

import KeyMaster.Json
import Mathlib.Data.List.Induction

namespace KeyMaster.Value

/-! Maps in key order: what inserting a member does to the others. -/

variable {α : Type} {key : String} {value held : α} {map : List (String × α)}

/-- The order in which `serde_json::Map` keeps its members. -/
def KeyOrdered (map : List (String × α)) : Prop := map.Pairwise fun left right => left.1 < right.1

theorem mem_mapInsert {member : String × α} (inserted : member ∈ mapInsert key value map) :
    member = (key, value) ∨ member ∈ map := by
  induction map with
  | nil => exact .inl (List.mem_singleton.mp inserted)
  | cons first rest ih =>
      rw [mapInsert] at inserted
      split_ifs at inserted with before same
      · exact List.mem_cons.mp inserted
      · exact (List.mem_cons.mp inserted).imp_right (List.mem_cons_of_mem _)
      · rcases List.mem_cons.mp inserted with rfl | inRest
        · exact .inr List.mem_cons_self
        · exact (ih inRest).imp_right (List.mem_cons_of_mem _)

theorem KeyOrdered.mapInsert (ordered : KeyOrdered map) : KeyOrdered (mapInsert key value map) := by
  induction map with
  | nil => exact List.pairwise_singleton _ _
  | cons first rest ih =>
      obtain ⟨least, orderedRest⟩ := List.pairwise_cons.mp ordered
      rw [Value.mapInsert]
      split_ifs with before same
      · refine List.pairwise_cons.mpr ⟨?_, ordered⟩
        intro member inMap
        rcases List.mem_cons.mp inMap with rfl | inRest
        · exact before
        · exact before.trans (least member inRest)
      · exact List.pairwise_cons.mpr ⟨same ▸ least, orderedRest⟩
      · refine List.pairwise_cons.mpr ⟨?_, ih orderedRest⟩
        intro member inserted
        rcases mem_mapInsert inserted with rfl | inRest
        · exact lt_of_le_of_ne (not_lt.mp before) (Ne.symm same)
        · exact least member inRest

theorem keyOrdered_mapOfMembers (members : List (String × α)) : KeyOrdered (mapOfMembers members) := by
  have extend : ∀ map : List (String × α), KeyOrdered map →
      KeyOrdered (members.foldl (fun map member => mapInsert member.1 member.2 map) map) := by
    induction members with
    | nil => exact fun map ordered => ordered
    | cons member rest ih => exact fun map ordered => ih _ ordered.mapInsert
  exact extend [] .nil

theorem lookup_cons_eq (key : String) (member : String × α) (rest : List (String × α)) :
    (member :: rest).lookup key = if key = member.1 then some member.2 else rest.lookup key := by
  rw [← Prod.mk.eta (p := member), List.lookup_cons]
  by_cases same : key = member.1
  · rw [if_pos same, beq_iff_eq.mpr same]
  · rw [if_neg same, beq_eq_false_iff_ne.mpr same]

theorem lookup_mapInsert (key other : String) (value : α) (map : List (String × α)) :
    (mapInsert key value map).lookup other = if other = key then some value else map.lookup other := by
  induction map with
  | nil => rw [mapInsert, lookup_cons_eq]
  | cons first rest ih =>
      rw [mapInsert]
      by_cases before : key < first.1
      · rw [if_pos before, lookup_cons_eq]
      by_cases same : key = first.1
      · rw [if_neg before, if_pos same, lookup_cons_eq, lookup_cons_eq, same]
        split_ifs <;> rfl
      · rw [if_neg before, if_neg same, lookup_cons_eq, lookup_cons_eq, ih]
        by_cases inserted : other = key
        · rw [if_pos inserted, if_pos inserted, if_neg (inserted ▸ same)]
        · rw [if_neg inserted, if_neg inserted]

/-- The last member under a key is the one that counts. -/
theorem get_jsonObject (members : List (String × Value)) (key : String) :
    (jsonObject members).get key = members.reverse.lookup key := by
  rw [jsonObject, Value.get]
  induction members using List.reverseRecOn with
  | nil => rfl
  | append_singleton members member ih =>
      rw [mapOfMembers, List.foldl_append, ← mapOfMembers, List.foldl_cons, List.foldl_nil,
        lookup_mapInsert, ih, List.reverse_append, List.reverse_singleton, List.singleton_append,
        lookup_cons_eq]

theorem KeyOrdered.lookup_of_mem {member : String × α} (ordered : KeyOrdered map)
    (inMap : member ∈ map) : map.lookup member.1 = some member.2 := by
  induction map with
  | nil => cases inMap
  | cons first rest ih =>
      obtain ⟨least, orderedRest⟩ := List.pairwise_cons.mp ordered
      rw [lookup_cons_eq]
      rcases List.mem_cons.mp inMap with rfl | inRest
      · rw [if_pos rfl]
      · rw [if_neg (least member inRest).ne', ih orderedRest inRest]

/-! ### Changing the values -/

def mapValues {β : Type} (change : String → α → β) (map : List (String × α)) : List (String × β) :=
  map.map fun member => (member.1, change member.1 member.2)

@[simp] theorem mapValues_cons {β : Type} (change : String → α → β) (member : String × α)
    (rest : List (String × α)) :
    mapValues change (member :: rest) = (member.1, change member.1 member.2) :: mapValues change rest :=
  rfl

theorem mapInsert_mapValues {β : Type} (change : String → α → β) (key : String) (value : α)
    (map : List (String × α)) :
    mapInsert key (change key value) (mapValues change map) =
      mapValues change (mapInsert key value map) := by
  induction map with
  | nil => rfl
  | cons first rest ih =>
      rw [mapValues_cons, mapInsert, mapInsert, ih]
      split_ifs <;> rfl

theorem mapOfMembers_mapValues {β : Type} (change : String → α → β) (members : List (String × α)) :
    mapOfMembers (mapValues change members) = mapValues change (mapOfMembers members) := by
  have extend : ∀ map : List (String × α),
      (mapValues change members).foldl (fun map member => mapInsert member.1 member.2 map)
          (mapValues change map) =
        mapValues change (members.foldl (fun map member => mapInsert member.1 member.2 map) map) := by
    induction members with
    | nil => exact fun map => rfl
    | cons member rest ih =>
        intro map
        rw [mapValues_cons, List.foldl_cons, List.foldl_cons, mapInsert_mapValues, ih]
  exact extend []

theorem KeyOrdered.mapValues {β : Type} {change : String → α → β} (ordered : KeyOrdered map) :
    KeyOrdered (mapValues change map) :=
  List.pairwise_map.mpr ordered

theorem mapValues_eq_self {change : String → α → α}
    (unchanged : ∀ member ∈ map, change member.1 member.2 = member.2) :
    Value.mapValues change map = map := by
  induction map with
  | nil => rfl
  | cons first rest ih =>
      rw [mapValues_cons, unchanged first List.mem_cons_self,
        ih fun member inRest => unchanged member (List.mem_cons_of_mem _ inRest)]

/-- Inserting under a key that is there changes that member alone. -/
theorem KeyOrdered.mapInsert_eq (ordered : KeyOrdered map) (found : map.lookup key = some held)
    (change : α → α) :
    Value.mapInsert key (change held) map =
      Value.mapValues (fun other value => if other = key then change value else value) map := by
  induction map with
  | nil => cases found
  | cons first rest ih =>
      obtain ⟨least, orderedRest⟩ := List.pairwise_cons.mp ordered
      rw [lookup_cons_eq] at found
      rw [Value.mapInsert, mapValues_cons]
      by_cases same : key = first.1
      · rw [if_pos same] at found
        have unchanged : Value.mapValues
            (fun other value => if other = key then change value else value) rest = rest :=
          mapValues_eq_self fun member inRest => if_neg (same ▸ (least member inRest).ne')
        rw [unchanged, if_neg (same ▸ lt_irrefl _), if_pos same, if_pos same.symm,
          Option.some.inj found, same]
      · rw [if_neg same] at found
        have later : ¬ key < first.1 := by
          obtain ⟨left, right, split, _⟩ := List.lookup_eq_some_iff.mp found
          exact not_lt.mpr (least (key, held) (by rw [split]; simp)).le
        rw [if_neg later, if_neg same, if_neg (Ne.symm same), ih orderedRest found]

end KeyMaster.Value

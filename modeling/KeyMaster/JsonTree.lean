import KeyMaster.JsonMap

namespace KeyMaster

/-! What holds at every depth of a value, and how trees and held values relate. -/

def isNumberChar (char : Char) : Bool :=
  char.isDigit || char == '-' || char == '+' || char == '.' || char == 'e'

def isFloatMark (char : Char) : Bool := char == '.' || char == 'e'

/-- A number as `serde_json` makes it: a `NegInt` is below zero, and a float is
printed with a point or an exponent. -/
def Number.Valid : Number → Prop
  | .posInt _ => True
  | .negInt value => value.toInt < 0
  | .float token => (∀ char ∈ token.toList, isNumberChar char = true) ∧
      ∃ char ∈ token.toList, isFloatMark char = true

namespace Value

mutual

/-- Each number and the keys of each object, in their order, are as demanded. -/
def Every (number : Number → Prop) (keys : List String → Prop) : Value → Prop
  | .number value => number value
  | .array items => EveryItem number keys items
  | .object members => keys (members.map Prod.fst) ∧ EveryMember number keys members
  | .null | .bool _ | .string _ => True

def EveryItem (number : Number → Prop) (keys : List String → Prop) : List Value → Prop
  | [] => True
  | item :: rest => Every number keys item ∧ EveryItem number keys rest

def EveryMember (number : Number → Prop) (keys : List String → Prop) : List (String × Value) → Prop
  | [] => True
  | (_, value) :: rest => Every number keys value ∧ EveryMember number keys rest

end

/-- The tree of a text. -/
def Tree (value : Value) : Prop := value.Every Number.Valid fun _ => True

/-- The tree of a text in which no object repeats a key. -/
def DistinctKeys (value : Value) : Prop := value.Every Number.Valid List.Nodup

/-- A value that the program holds: its objects are in key order. -/
def Held (value : Value) : Prop := value.Every Number.Valid (List.Pairwise (· < ·))

section Every

variable {number : Number → Prop} {keys weaker : List String → Prop}

theorem everyMember_iff {members : List (String × Value)} :
    EveryMember number keys members ↔ ∀ member ∈ members, Every number keys member.2 := by
  induction members with
  | nil => simp [EveryMember]
  | cons member rest ih => rw [EveryMember, ih, List.forall_mem_cons]

mutual

theorem Every.weaken (implies : ∀ names, keys names → weaker names) :
    ∀ {value : Value}, Every number keys value → Every number weaker value
  | .null, every | .bool _, every | .string _, every | .number _, every => every
  | .array _, every => EveryItem.weaken implies every
  | .object _, every => ⟨implies _ every.1, EveryMember.weaken implies every.2⟩

theorem EveryItem.weaken (implies : ∀ names, keys names → weaker names) :
    ∀ {items : List Value}, EveryItem number keys items → EveryItem number weaker items
  | [], every => every
  | _ :: _, every => ⟨Every.weaken implies every.1, EveryItem.weaken implies every.2⟩

theorem EveryMember.weaken (implies : ∀ names, keys names → weaker names) :
    ∀ {members : List (String × Value)}, EveryMember number keys members →
      EveryMember number weaker members
  | [], every => every
  | _ :: _, every => ⟨Every.weaken implies every.1, EveryMember.weaken implies every.2⟩

end

end Every

theorem DistinctKeys.tree {value : Value} (distinct : value.DistinctKeys) : value.Tree :=
  Every.weaken (fun _ _ => trivial) distinct

theorem Held.tree {value : Value} (held : value.Held) : value.Tree :=
  Every.weaken (fun _ _ => trivial) held

/-! ### Maps -/

section Maps

variable {α : Type} {left right map members : List (String × α)} {key : String} {value : α}

theorem keyOrdered_iff : KeyOrdered map ↔ (map.map Prod.fst).Pairwise (· < ·) :=
  List.pairwise_map.symm

/-- Insertion behind every key of the map appends. -/
theorem mapInsert_append (last : ∀ member ∈ map, member.1 < key) :
    mapInsert key value map = map ++ [(key, value)] := by
  induction map with
  | nil => rfl
  | cons first rest ih =>
      have later : first.1 < key := last first List.mem_cons_self
      rw [mapInsert, if_neg (not_lt.mpr later.le), if_neg later.ne',
        ih fun member inRest => last member (List.mem_cons_of_mem _ inRest), List.cons_append]

theorem KeyOrdered.mapOfMembers_eq (ordered : KeyOrdered members) : mapOfMembers members = members := by
  induction members using List.reverseRecOn with
  | nil => rfl
  | append_singleton members member ih =>
      obtain ⟨orderedInit, _, last⟩ := List.pairwise_append.mp ordered
      rw [mapOfMembers, List.foldl_append, ← mapOfMembers, ih orderedInit, List.foldl_cons,
        List.foldl_nil]
      exact mapInsert_append fun other inInit => last other inInit member (List.mem_singleton_self _)

theorem lookup_eq_some_of_nodup (distinct : (members.map Prod.fst).Nodup) :
    members.lookup key = some value ↔ (key, value) ∈ members := by
  induction members with
  | nil => simp
  | cons first rest ih =>
      rw [List.map_cons, List.nodup_cons] at distinct
      rw [lookup_cons_eq, List.mem_cons]
      by_cases same : key = first.1
      · have absent : (key, value) ∉ rest := fun member =>
          distinct.1 (same ▸ List.mem_map_of_mem (f := Prod.fst) member)
        rw [if_pos same, or_iff_left absent, Option.some.injEq, Prod.ext_iff]
        simp only [same, true_and, eq_comm]
      · have other : (key, value) ≠ first := fun whole => same (congrArg Prod.fst whole)
        rw [if_neg same, ih distinct.2]
        simp only [other, false_or]

theorem lookup_perm (distinct : (left.map Prod.fst).Nodup) (perm : left.Perm right) (key : String) :
    left.lookup key = right.lookup key := by
  have other := (perm.map Prod.fst).nodup_iff.mp distinct
  apply Option.ext
  intro value
  rw [lookup_eq_some_of_nodup distinct, lookup_eq_some_of_nodup other, perm.mem_iff]

theorem KeyOrdered.nodup (ordered : KeyOrdered map) : (map.map Prod.fst).Nodup :=
  (keyOrdered_iff.mp ordered).imp ne_of_lt

/-- A map in key order is determined by its lookups. -/
theorem KeyOrdered.ext (orderedLeft : KeyOrdered left) (orderedRight : KeyOrdered right)
    (same : ∀ key, left.lookup key = right.lookup key) : left = right := by
  have members : ∀ member, member ∈ left ↔ member ∈ right := by
    intro member
    rw [← lookup_eq_some_of_nodup orderedLeft.nodup, same,
      lookup_eq_some_of_nodup orderedRight.nodup]
  have nodup : ∀ {map : List (String × α)}, KeyOrdered map → map.Nodup := by
    intro map ordered
    apply List.Pairwise.imp _ ordered
    rintro first second before rfl
    exact lt_irrefl _ before
  have perm : left.Perm right :=
    (List.perm_ext_iff_of_nodup (nodup orderedLeft) (nodup orderedRight)).mpr members
  exact perm.eq_of_pairwise (fun _ _ _ _ before after => absurd after (not_lt.mpr before.le))
    orderedLeft orderedRight

theorem mem_mapOfMembers {member : String × α} (held : member ∈ mapOfMembers members) :
    member ∈ members := by
  induction members using List.reverseRecOn with
  | nil => cases held
  | append_singleton members last ih =>
      rw [mapOfMembers, List.foldl_append, ← mapOfMembers, List.foldl_cons, List.foldl_nil] at held
      rcases mem_mapInsert held with rfl | earlier
      · simp
      · exact List.mem_append_left _ (ih earlier)

theorem lookup_mapOfMembers (distinct : (members.map Prod.fst).Nodup) (key : String) :
    (mapOfMembers members).lookup key = members.lookup key := by
  have last : (mapOfMembers members).lookup key = members.reverse.lookup key := by
    induction members using List.reverseRecOn with
    | nil => rfl
    | append_singleton members member ih =>
        rw [List.map_append, List.nodup_append] at distinct
        rw [mapOfMembers, List.foldl_append, ← mapOfMembers, List.foldl_cons, List.foldl_nil,
          lookup_mapInsert, ih distinct.1, List.reverse_append, List.reverse_singleton,
          List.singleton_append, lookup_cons_eq]
  rw [last]
  exact (lookup_perm distinct (List.reverse_perm members).symm key).symm

theorem lookup_mapValues {β : Type} (change : α → β) (members : List (String × α)) (key : String) :
    (mapValues (fun _ => change) members).lookup key = (members.lookup key).map change := by
  induction members with
  | nil => rfl
  | cons member rest ih =>
      rw [mapValues_cons, lookup_cons_eq, lookup_cons_eq, ih]
      split_ifs <;> rfl

end Maps

/-! ### Reading a tree as a value -/

theorem normalizeMembers_eq (members : List (String × Value)) :
    normalizeMembers members = mapValues (fun _ => normalize) members := by
  induction members with
  | nil => rfl
  | cons member rest ih => rw [normalizeMembers, ih, mapValues_cons]

mutual

theorem Tree.held : ∀ {value : Value}, value.Tree → value.normalize.Held
  | .null, _ | .bool _, _ | .string _, _ => trivial
  | .number _, tree => tree
  | .array _, tree => normalizeItems_held tree
  | .object _, tree =>
      ⟨keyOrdered_iff.mp (keyOrdered_mapOfMembers _), everyMember_iff.mpr fun member inMap =>
        everyMember_iff.mp (normalizeMembers_held tree.2) member (mem_mapOfMembers inMap)⟩

theorem normalizeItems_held : ∀ {items : List Value}, EveryItem Number.Valid (fun _ => True) items →
    EveryItem Number.Valid (List.Pairwise (· < ·)) (normalizeItems items)
  | [], _ => trivial
  | _ :: _, tree => ⟨Tree.held tree.1, normalizeItems_held tree.2⟩

theorem normalizeMembers_held : ∀ {members : List (String × Value)},
    EveryMember Number.Valid (fun _ => True) members →
    EveryMember Number.Valid (List.Pairwise (· < ·)) (normalizeMembers members)
  | [], _ => trivial
  | _ :: _, tree => ⟨Tree.held tree.1, normalizeMembers_held tree.2⟩

end

theorem held_jsonObject {members : List (String × Value)} (held : ∀ member ∈ members, member.2.Held) :
    (jsonObject members).Held :=
  ⟨keyOrdered_iff.mp (keyOrdered_mapOfMembers _),
    everyMember_iff.mpr fun member inMap => held member (mem_mapOfMembers inMap)⟩

mutual

/-- A value that the program holds reads as itself. -/
theorem Held.normalize_eq : ∀ {value : Value}, value.Held → value.normalize = value
  | .null, _ | .bool _, _ | .string _, _ | .number _, _ => rfl
  | .array _, held => congrArg array (normalizeItems_of_held held)
  | .object _, held => by
      rw [normalize, normalizeMembers_of_held held.2,
        KeyOrdered.mapOfMembers_eq (keyOrdered_iff.mpr held.1)]

theorem normalizeItems_of_held : ∀ {items : List Value},
    EveryItem Number.Valid (List.Pairwise (· < ·)) items → normalizeItems items = items
  | [], _ => rfl
  | _ :: _, held => by rw [normalizeItems, Held.normalize_eq held.1, normalizeItems_of_held held.2]

theorem normalizeMembers_of_held : ∀ {members : List (String × Value)},
    EveryMember Number.Valid (List.Pairwise (· < ·)) members → normalizeMembers members = members
  | [], _ => rfl
  | _ :: _, held => by
      rw [normalizeMembers, Held.normalize_eq held.1, normalizeMembers_of_held held.2]

end

/-! ### Order of members -/

mutual

/-- The same JSON value up to the order of object members, at every depth. -/
def Same : Value → Value → Prop
  | .null, .null => True
  | .bool left, .bool right => left = right
  | .number left, .number right => left = right
  | .string left, .string right => left = right
  | .array left, .array right => SameItems left right
  | .object left, .object right =>
      (left.map Prod.fst).Perm (right.map Prod.fst) ∧ SameMembers left right
  | _, _ => False

def SameItems : List Value → List Value → Prop
  | [], [] => True
  | left :: leftRest, right :: rightRest => Same left right ∧ SameItems leftRest rightRest
  | _, _ => False

/-- Each member has its counterpart among the others. -/
def SameMembers : List (String × Value) → List (String × Value) → Prop
  | [], _ => True
  | (key, value) :: rest, others =>
      (∃ other, (key, other) ∈ others ∧ Same value other) ∧ SameMembers rest others

end

theorem isSome_lookup {α : Type} {members : List (String × α)} {key : String} :
    (members.lookup key).isSome ↔ key ∈ members.map Prod.fst := by
  induction members with
  | nil => simp
  | cons member rest ih =>
      rw [lookup_cons_eq, List.map_cons, List.mem_cons, ← ih]
      by_cases same : key = member.1 <;> simp [same]

theorem normalizeMembers_keys (members : List (String × Value)) :
    (normalizeMembers members).map Prod.fst = members.map Prod.fst := by
  rw [normalizeMembers_eq, mapValues, List.map_map]
  rfl

theorem lookup_normalize {members : List (String × Value)} (distinct : (members.map Prod.fst).Nodup)
    (key : String) :
    (mapOfMembers (normalizeMembers members)).lookup key = (members.lookup key).map normalize := by
  have distinctKeys := distinct
  rw [← normalizeMembers_keys] at distinctKeys
  rw [lookup_mapOfMembers distinctKeys, normalizeMembers_eq, lookup_mapValues]

theorem get_normalize {members : List (String × Value)} (distinct : (members.map Prod.fst).Nodup)
    (key : String) : (object members).normalize.get key = (members.lookup key).map normalize := by
  rw [normalize, get, lookup_normalize distinct]

theorem get_normalize_of_not_mem {members : List (String × Value)} {key : String}
    (absent : key ∉ members.map Prod.fst) : (object members).normalize.get key = none := by
  rw [normalize, get, ← Option.not_isSome_iff_eq_none, isSome_lookup]
  intro present
  obtain ⟨member, inMap, isKey⟩ := List.mem_map.mp present
  rw [← normalizeMembers_keys, ← isKey] at absent
  exact absent (List.mem_map_of_mem (mem_mapOfMembers inMap))

/-- Two objects hold the same map exactly if their keys are the same and so is
what they hold under each key. -/
theorem mapOfMembers_normalize_eq {left right : List (String × Value)}
    (distinctLeft : (left.map Prod.fst).Nodup) (distinctRight : (right.map Prod.fst).Nodup) :
    mapOfMembers (normalizeMembers left) = mapOfMembers (normalizeMembers right) ↔
      (left.map Prod.fst).Perm (right.map Prod.fst) ∧
        ∀ member ∈ left, (right.lookup member.1).map normalize = some member.2.normalize := by
  constructor
  · intro same
    have lookups : ∀ key, (left.lookup key).map normalize = (right.lookup key).map normalize := by
      intro key
      rw [← lookup_normalize distinctLeft, same, lookup_normalize distinctRight]
    constructor
    · apply (List.perm_ext_iff_of_nodup distinctLeft distinctRight).mpr
      intro key
      have present := congrArg Option.isSome (lookups key)
      rw [Option.isSome_map, Option.isSome_map] at present
      rw [← isSome_lookup, ← isSome_lookup, present]
    · intro member inLeft
      rw [← lookups, (lookup_eq_some_of_nodup distinctLeft).mpr inLeft, Option.map_some]
  · intro ⟨sameKeys, counterparts⟩
    apply KeyOrdered.ext (keyOrdered_mapOfMembers _) (keyOrdered_mapOfMembers _)
    intro key
    rw [lookup_normalize distinctLeft, lookup_normalize distinctRight]
    cases found : left.lookup key with
    | some value =>
        have inLeft := (lookup_eq_some_of_nodup distinctLeft).mp found
        rw [counterparts _ inLeft, Option.map_some]
    | none =>
        have absent : ¬ (right.lookup key).isSome := by
          rw [isSome_lookup, ← sameKeys.mem_iff, ← isSome_lookup, found]
          simp
        rw [Option.not_isSome_iff_eq_none.mp absent]

mutual

theorem same_iff : ∀ {left right : Value}, left.DistinctKeys → right.DistinctKeys →
    (Same left right ↔ left.normalize = right.normalize)
  | .null, right, _, _ | .bool _, right, _, _ | .number _, right, _, _ | .string _, right, _, _ => by
      cases right <;> simp [Same, normalize]
  | .array left, right, distinctLeft, distinctRight => by
      cases right with
      | array right => simpa [Same, normalize] using sameItems_iff distinctLeft distinctRight
      | null | bool | number | string | object => simp [Same, normalize]
  | .object left, right, distinctLeft, distinctRight => by
      cases right with
      | object right =>
          rw [Same, normalize, normalize, object.injEq,
            mapOfMembers_normalize_eq distinctLeft.1 distinctRight.1,
            sameMembers_iff distinctLeft.2 distinctRight.1 distinctRight.2]
      | null | bool | number | string | array => simp [Same, normalize]

theorem sameItems_iff : ∀ {left right : List Value}, EveryItem Number.Valid List.Nodup left →
    EveryItem Number.Valid List.Nodup right →
    (SameItems left right ↔ normalizeItems left = normalizeItems right)
  | [], right, _, _ => by cases right <;> simp [SameItems, normalizeItems]
  | left :: leftRest, right, distinctLeft, distinctRight => by
      cases right with
      | nil => simp [SameItems, normalizeItems]
      | cons right rightRest =>
          rw [SameItems, normalizeItems, normalizeItems, List.cons.injEq,
            same_iff distinctLeft.1 distinctRight.1, sameItems_iff distinctLeft.2 distinctRight.2]

theorem sameMembers_iff : ∀ {members others : List (String × Value)},
    EveryMember Number.Valid List.Nodup members → (others.map Prod.fst).Nodup →
    EveryMember Number.Valid List.Nodup others →
    (SameMembers members others ↔
      ∀ member ∈ members, (others.lookup member.1).map normalize = some member.2.normalize)
  | [], _, _, _, _ => by simp [SameMembers]
  | (key, value) :: rest, others, distinct, distinctKeys, distinctOthers => by
      have first : (∃ other, (key, other) ∈ others ∧ Same value other) ↔
          (others.lookup key).map normalize = some value.normalize := by
        rw [Option.map_eq_some_iff]
        apply exists_congr
        intro other
        rw [lookup_eq_some_of_nodup distinctKeys]
        apply and_congr_right
        intro inOthers
        rw [same_iff distinct.1 (everyMember_iff.mp distinctOthers _ inOthers), eq_comm]
      rw [SameMembers, first, sameMembers_iff distinct.2 distinctKeys distinctOthers,
        List.forall_mem_cons]

end

end Value

/-! ### Printed items and members -/

theorem itemsToJson_eq (items : List Value) : itemsToJson items = items.map Value.toJson := by
  induction items with
  | nil => rfl
  | cons item rest ih => rw [itemsToJson, ih, List.map_cons]

theorem membersToJson_eq (members : List (String × Value)) :
    membersToJson members =
      (Value.mapValues (fun _ => Value.toJson) members).map fun member =>
        quote member.1 ++ ":" ++ member.2 := by
  induction members with
  | nil => rfl
  | cons member rest ih => rw [membersToJson, ih, Value.mapValues_cons, List.map_cons]

end KeyMaster

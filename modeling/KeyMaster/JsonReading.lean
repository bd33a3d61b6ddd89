import KeyMaster.JsonText

namespace KeyMaster

/-! A reader of texts all of whose values are trees. -/

def Number.isValid : Number → Bool
  | .posInt _ => true
  | .negInt value => value.toInt < 0
  | .float token => token.toList.all isNumberChar && token.toList.any isFloatMark

theorem Number.isValid_iff {number : Number} : number.isValid = true ↔ number.Valid := by
  cases number with
  | posInt => exact ⟨fun _ => trivial, fun _ => rfl⟩
  | negInt => exact decide_eq_true_iff
  | float => simp only [isValid, Valid, Bool.and_eq_true, List.all_eq_true, List.any_eq_true]

namespace Value

mutual

def isTree : Value → Bool
  | .number value => value.isValid
  | .array items => areTrees items
  | .object members => holdTrees members
  | .null | .bool _ | .string _ => true

def areTrees : List Value → Bool
  | [] => true
  | item :: rest => isTree item && areTrees rest

def holdTrees : List (String × Value) → Bool
  | [] => true
  | (_, value) :: rest => isTree value && holdTrees rest

end

mutual

theorem isTree_iff : ∀ {value : Value}, value.isTree = true ↔ value.Tree
  | .null | .bool _ | .string _ => ⟨fun _ => trivial, fun _ => rfl⟩
  | .number _ => Number.isValid_iff
  | .array items => by
      rw [isTree, @areTrees_iff items]
      rfl
  | .object members => by
      rw [isTree, @holdTrees_iff members]
      exact ⟨fun trees => ⟨trivial, trees⟩, And.right⟩

theorem areTrees_iff : ∀ {items : List Value}, areTrees items = true ↔
    EveryItem Number.Valid (fun _ => True) items
  | [] => ⟨fun _ => trivial, fun _ => rfl⟩
  | item :: rest => by
      rw [areTrees, Bool.and_eq_true, @isTree_iff item, @areTrees_iff rest]
      rfl

theorem holdTrees_iff : ∀ {members : List (String × Value)}, holdTrees members = true ↔
    EveryMember Number.Valid (fun _ => True) members
  | [] => ⟨fun _ => trivial, fun _ => rfl⟩
  | (_, value) :: rest => by
      rw [holdTrees, Bool.and_eq_true, @isTree_iff value, @holdTrees_iff rest]
      rfl

end

end Value

def readTree (text : String) : Option Value := (JsonText.readJson text).filter Value.isTree

theorem readTree_toJson {tree : Value} (isTree : tree.Tree) : readTree tree.toJson = some tree := by
  rw [readTree, JsonText.readJson_toJson isTree, Option.filter_some, if_pos (Value.isTree_iff.mpr isTree)]

theorem tree_of_readTree {text : String} {tree : Value} (read : readTree text = some tree) : tree.Tree :=
  Value.isTree_iff.mp (Option.filter_eq_some_iff.mp read).2

end KeyMaster

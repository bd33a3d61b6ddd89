import KeyMaster.Avatar.Connector
import KeyMaster.JsonText

namespace KeyMaster

open Value

/-! The text that a connector signature is over. -/

mutual

/-- A held value is in key order at every depth, so that canonicalization prints
it like the JSON printer, arrays and what is inside them included. -/
theorem canonicalizeJson_held : ∀ {value : Value}, value.Held → canonicalizeJson value = value.toJson
  | .null, _ | .bool _, _ | .number _, _ | .string _, _ | .array _, _ => rfl
  | .object members, held => by
      have ordered : KeyOrdered members := keyOrdered_iff.mpr held.1
      rw [canonicalizeJson, canonicalMembers_held held.2, ordered.mapValues.mapOfMembers_eq,
        ← membersToJson_eq, Value.toJson]

theorem canonicalMembers_held : ∀ {members : List (String × Value)},
    EveryMember Number.Valid (List.Pairwise (· < ·)) members →
    canonicalMembers members = mapValues (fun _ => Value.toJson) members
  | [], _ => rfl
  | (_, .object _) :: _, held => by
      rw [canonicalMembers, canonicalizeJson_held held.1, canonicalMembers_held held.2, mapValues_cons]
  | (_, .null) :: _, held | (_, .bool _) :: _, held | (_, .number _) :: _, held
  | (_, .string _) :: _, held | (_, .array _) :: _, held => by
      rw [canonicalMembers, canonicalMembers_held held.2, mapValues_cons]
      simp

end

theorem canonicalizeJson_injective {left right : Value} (heldLeft : left.Held) (heldRight : right.Held)
    (same : canonicalizeJson left = canonicalizeJson right) : left = right := by
  rw [canonicalizeJson_held heldLeft, canonicalizeJson_held heldRight] at same
  exact JsonText.toJson_injective heldLeft.tree heldRight.tree same

/-- Two texts without repeated keys have one canonical form exactly if they are
the same JSON value up to the order of object members. -/
theorem canonicalizeJson_eq_iff {left right : Value} (distinctLeft : left.DistinctKeys)
    (distinctRight : right.DistinctKeys) :
    canonicalizeJson left.normalize = canonicalizeJson right.normalize ↔ Same left right := by
  rw [same_iff distinctLeft distinctRight]
  constructor
  · exact canonicalizeJson_injective distinctLeft.tree.held distinctRight.tree.held
  · exact congrArg canonicalizeJson

/-! One connector, its members in two orders. -/

namespace Transparent

def hosts (swapped : Bool) : Value :=
  let host := [("name", .string "a\"b"), ("port", .number (.posInt 22))]
  .object (if swapped then [("v", .number (.float "1.0")), ("hosts", .array [.object host.reverse])]
    else [("hosts", .array [.object host]), ("v", .number (.float "1.0"))])

theorem hosts_distinct (swapped : Bool) : (hosts swapped).DistinctKeys := by
  cases swapped <;>
    simp [hosts, DistinctKeys, Every, EveryItem, EveryMember, Number.Valid, isNumberChar, isFloatMark]

end Transparent

open Transparent in
theorem hosts_canonical :
    canonicalizeJson (hosts false).normalize = canonicalizeJson (hosts true).normalize ↔
      Same (hosts false) (hosts true) :=
  canonicalizeJson_eq_iff (hosts_distinct false) (hosts_distinct true)

end KeyMaster

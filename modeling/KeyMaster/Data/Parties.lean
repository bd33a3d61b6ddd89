import Mathlib.Algebra.Group.Action.Defs
import Mathlib.Algebra.Order.Group.Nat
import Mathlib.Algebra.Order.Ring.Nat
import Mathlib.Algebra.Order.BigOperators.Group.List

namespace KeyMaster.Data

/-! Parties that are numbered by their position, and a lock among them. -/

variable {π : Type} {parties : List π} {number : Nat} {party next : π}

theorem getElem?_set_of_some (found : parties[number]? = some party) (other : Nat) :
    (parties.set number next)[other]? = if other = number then some next else parties[other]? := by
  have bound : number < parties.length := (List.getElem?_eq_some_iff.mp found).1
  rw [List.getElem?_set]
  by_cases same : number = other
  · simp [same, same ▸ bound]
  · simp [same, Ne.symm same]

/-- What a party is replaced by takes its place in a sum. -/
theorem sum_map_set (weigh : π → Nat) (next : π) (found : parties[number]? = some party) :
    ((parties.set number next).map weigh).sum + weigh party = (parties.map weigh).sum + weigh next := by
  induction parties generalizing number with
  | nil => cases found
  | cons first rest ih =>
      cases number with
      | zero =>
          cases found
          simp only [List.set_cons_zero, List.map_cons, List.sum_cons]
          omega
      | succ number =>
          have later : rest[number]? = some party := found
          have rest := ih later
          simp only [List.set_cons_succ, List.map_cons, List.sum_cons]
          omega

theorem sum_map_le {weigh : π → Nat} {bound : Nat} (light : ∀ party, weigh party ≤ bound)
    (parties : List π) : (parties.map weigh).sum ≤ bound * parties.length := by
  have bounded := List.sum_le_card_nsmul (parties.map weigh) bound (by
    intro weight member
    obtain ⟨party, _, rfl⟩ := List.mem_map.mp member
    exact light party)
  rw [List.length_map, smul_eq_mul, Nat.mul_comm] at bounded
  exact bounded

theorem exists_weight_of_sum_ne_zero {weigh : π → Nat} (weighs : (parties.map weigh).sum ≠ 0) :
    ∃ (number : Nat) (party : π), parties[number]? = some party ∧ weigh party ≠ 0 := by
  induction parties with
  | nil => exact absurd rfl weighs
  | cons first rest ih =>
      by_cases light : weigh first = 0
      · rw [List.map_cons, List.sum_cons, light, Nat.zero_add] at weighs
        obtain ⟨number, party, found, heavy⟩ := ih weighs
        exact ⟨number + 1, party, found, heavy⟩
      · exact ⟨0, first, rfl, light⟩

/-- Each party of the one list is still there in the other, as is asked of it. -/
def Follows (follows : π → π → Prop) (before after : List π) : Prop :=
  ∀ (number : Nat) (party : π), before[number]? = some party →
    ∃ later : π, after[number]? = some later ∧ follows party later

theorem Follows.refl {follows : π → π → Prop} (same : ∀ party, follows party party) (parties : List π) :
    Follows follows parties parties :=
  fun _ party found => ⟨party, found, same party⟩

theorem Follows.set {follows : π → π → Prop} {first : List π} (stay : Follows follows first parties)
    (found : parties[number]? = some party) (next : π)
    (goesOn : ∀ earlier, follows earlier party → follows earlier next) :
    Follows follows first (parties.set number next) := by
  intro other held isHeld
  obtain ⟨later, isLater, before⟩ := stay other held isHeld
  rw [getElem?_set_of_some found]
  split
  · rename_i changed
    rw [changed, found] at isLater
    cases isLater
    exact ⟨next, rfl, goesOn held before⟩
  · exact ⟨later, isLater, before⟩

/-- The lock names the party that holds it. -/
def Guards (holds : π → Bool) (parties : List π) (lock : Option Nat) : Prop :=
  ∀ number, lock = some number ↔ ∃ party, parties[number]? = some party ∧ holds party = true

namespace Guards

variable {holds : π → Bool} {lock : Option Nat}

theorem start : Guards holds [] none := by
  intro number
  simp

theorem held (guards : Guards holds parties lock) (found : parties[number]? = some party)
    (holding : holds party = true) : lock = some number :=
  (guards number).mpr ⟨party, found, holding⟩

theorem not_holds (guards : Guards holds parties none) (found : parties[number]? = some party) :
    holds party = false := by
  cases holding : holds party with
  | false => rfl
  | true => cases guards.held found holding

/-- Two parties that hold the lock are one. -/
theorem unique (guards : Guards holds parties lock) {other : Nat} {second : π}
    (found : parties[number]? = some party) (holding : holds party = true)
    (foundOther : parties[other]? = some second) (holdingOther : holds second = true) :
    number = other :=
  Option.some.inj ((guards.held found holding).symm.trans (guards.held foundOther holdingOther))

theorem join (guards : Guards holds parties lock) (free : holds party = false) :
    Guards holds (parties ++ [party]) lock := by
  intro number
  rw [guards number]
  constructor
  · rintro ⟨holder, found, holding⟩
    have bound := (List.getElem?_eq_some_iff.mp found).1
    exact ⟨holder, by rwa [List.getElem?_append_left bound], holding⟩
  · rintro ⟨holder, found, holding⟩
    by_cases old : number < parties.length
    · exact ⟨holder, by rwa [List.getElem?_append_left old] at found, holding⟩
    · rw [List.getElem?_append_right (Nat.not_lt.mp old)] at found
      rw [List.mem_singleton.mp (List.mem_of_getElem? found), free] at holding
      cases holding

theorem keep (guards : Guards holds parties lock) (found : parties[number]? = some party)
    (same : holds next = holds party) : Guards holds (parties.set number next) lock := by
  intro other
  rw [guards other, getElem?_set_of_some found]
  by_cases changed : other = number
  · rw [if_pos changed, changed, found]
    simp [same]
  · rw [if_neg changed]

theorem acquire (guards : Guards holds parties none) (found : parties[number]? = some party)
    (holding : holds next = true) : Guards holds (parties.set number next) (some number) := by
  intro other
  rw [getElem?_set_of_some found]
  by_cases changed : other = number
  · simp [changed, holding]
  · rw [if_neg changed, ← guards other]
    simp [Ne.symm changed]

theorem release (guards : Guards holds parties lock) (found : parties[number]? = some party)
    (holding : holds party = true) (free : holds next = false) :
    Guards holds (parties.set number next) none := by
  have isHolder := guards.held found holding
  intro other
  rw [getElem?_set_of_some found]
  by_cases changed : other = number
  · simp [changed, free]
  · rw [if_neg changed, ← guards other, isHolder]
    simp [Ne.symm changed]

end Guards

end KeyMaster.Data

import KeyMaster.Pkcs11.Search
import Mathlib.Data.List.Nodup
import Mathlib.Data.Set.Function

namespace KeyMaster.Pkcs11

/-! A search in batches: `c_find_objects` over and over after one
`c_find_objects_init`. -/

def findAll (session : Nat) : State → List Nat → List (Outcome (List Nat × Nat))
  | _, [] => []
  | state, maxCount :: rest =>
      let outcome := cFindObjects state session false maxCount false
      outcome :: findAll session outcome.state rest

def Outcome.found (outcome : Outcome (List Nat × Nat)) : List Nat := outcome.written.elim [] Prod.fst

/-- The handles of the objects of these kinds, identity by identity. -/
def enumeration (count : Nat) (kinds : List HandleType) : List Nat :=
  (List.range count).flatMap fun index => kinds.map fun kind => kind.handle index

/-- Every object of these kinds has one handle in the list. -/
structure Enumerates (count : Nat) (kinds : List HandleType) (handles : List Nat) : Prop where
  nodup : handles.Nodup
  bijective : Set.BijOn handleToIdentityIndex {handle | handle ∈ handles}
    {object | ∃ index < count, ∃ kind ∈ kinds, object = some (index, kind)}

/-- The calls hand out the list from its start, as far as their counts reach. -/
structure InBatches (handles maxCounts : List Nat) (outcomes : List (Outcome (List Nat × Nat))) :
    Prop where
  each : List.Forall₂
    (fun maxCount outcome => outcome.rv = .ok ∧ outcome.found.length ≤ maxCount ∧
      outcome.written = some (outcome.found, outcome.found.length))
    maxCounts outcomes
  all : outcomes.flatMap Outcome.found = handles.take (min maxCounts.sum handles.length)
  later : ∀ calls, handles.length ≤ (maxCounts.take calls).sum →
    ∀ outcome ∈ outcomes.drop calls, outcome.written = some ([], 0)

/-- A template without entries, or one that asks for the class in each of them. -/
def AsksFor (template : Option (List Attribute)) : Option Nat → Prop
  | none => template.getD [] = []
  | some objectClass => objectClass < 2 ^ 64 ∧ template.getD [] ≠ [] ∧
      ∀ attr ∈ template.getD [], attr = .ofValue ckaClass (neBytes objectClass)

def kindsOfClass : Option Nat → List HandleType
  | none => HandleType.all
  | some objectClass => HandleType.all.filter fun kind => kind.objectClass == objectClass

/-! ### The list of handles -/

variable {count : Nat} {kinds : List HandleType}

theorem mem_enumeration {handle : Nat} :
    handle ∈ enumeration count kinds ↔
      ∃ index < count, ∃ kind ∈ kinds, kind.handle index = handle := by
  simp [enumeration]

theorem handle_injective {kind other : HandleType} {index position : Nat}
    (same : kind.handle index = other.handle position) : index = position ∧ kind = other := by
  have decoded := handleToIdentityIndex_handle kind index
  rw [same, handleToIdentityIndex_handle] at decoded
  cases decoded
  exact ⟨rfl, rfl⟩

theorem nodup_enumeration (distinct : kinds.Nodup) (count : Nat) :
    (enumeration count kinds).Nodup := by
  rw [enumeration, List.nodup_flatMap]
  constructor
  · intro index _
    exact distinct.map fun kind other same => (handle_injective same).2
  · refine List.nodup_range.imp fun {index position} apart => ?_
    intro handle inFirst inSecond
    obtain ⟨kind, _, rfl⟩ := List.mem_map.mp inFirst
    obtain ⟨other, _, same⟩ := List.mem_map.mp inSecond
    exact apart (handle_injective same).1.symm

theorem bijOn_enumeration (count : Nat) (kinds : List HandleType) :
    Set.BijOn handleToIdentityIndex {handle | handle ∈ enumeration count kinds}
      {object | ∃ index < count, ∃ kind ∈ kinds, object = some (index, kind)} := by
  refine ⟨?_, ?_, ?_⟩
  · intro handle member
    obtain ⟨index, bound, kind, wanted, rfl⟩ := mem_enumeration.mp member
    exact ⟨index, bound, kind, wanted, handleToIdentityIndex_handle kind index⟩
  · intro handle member other _ same
    obtain ⟨index, bound, kind, wanted, rfl⟩ := mem_enumeration.mp member
    rw [handleToIdentityIndex_handle] at same
    exact (handleToIdentityIndex_eq_some.mp same.symm).symm
  · intro object ⟨index, bound, kind, wanted, isObject⟩
    refine ⟨kind.handle index, mem_enumeration.mpr ⟨index, bound, kind, wanted, rfl⟩, ?_⟩
    rw [isObject, handleToIdentityIndex_handle]

theorem nodup_wantedKinds (template : Option (List Attribute)) : (wantedKinds template).Nodup := by
  have distinct : HandleType.all.Nodup := by decide
  rw [wantedKinds]
  split
  · exact distinct.filter _
  · exact distinct

theorem wantedKinds_of_asksFor {template : Option (List Attribute)} {objectClass : Option Nat}
    (asks : AsksFor template objectClass) : wantedKinds template = kindsOfClass objectClass := by
  cases objectClass with
  | none =>
      have isEmpty : template.getD [] = [] := asks
      rw [wantedKinds, wantClass, isEmpty]
      rfl
  | some objectClass =>
      obtain ⟨bound, nonempty, entries⟩ := asks
      have isClass : wantClass template = some objectClass := by
        rw [wantClass, ← List.dropLast_append_getLast nonempty, List.foldl_append, List.foldl_cons,
          List.foldl_nil, entries _ (List.getLast_mem nonempty)]
        have number : ofNeBytes (neBytes objectClass) = objectClass := ofNeBytes_leBytes bound
        have length : (neBytes objectClass).length = 8 := rfl
        simp only [Attribute.ofValue, length, and_self, if_true]
        rw [List.take_of_length_le (Nat.le_of_eq length), number]
      rw [wantedKinds, isClass]
      rfl

/-! ### The batches -/

variable {state : State} {session : Nat} {module : ModuleState}

/-- A module between two calls of `c_find_objects`. -/
def ModuleState.finding (module : ModuleState) (handles : List Nat) (position : Nat) : ModuleState :=
  { module with findOp := some ⟨handles, position⟩ }

theorem InSession.finding (inSession : InSession state session module) (handles : List Nat)
    (position : Nat) :
    InSession (some (module.finding handles position)) session (module.finding handles position) :=
  ⟨rfl, inSession.initialized, inSession.isOpen, inSession.handle⟩

theorem cFindObjects_finding {handles : List Nat} {position : Nat}
    (inSession : InSession state session (module.finding handles position)) (maxCount : Nat) :
    cFindObjects state session false maxCount false =
      ⟨.ok, some ((handles.drop position).take maxCount, min (handles.length - position) maxCount),
        some (module.finding handles (position + min (handles.length - position) maxCount))⟩ := by
  rw [cFindObjects, inSession.withState]
  simp only [Bool.or_self, if_false, Bool.false_eq_true]
  rw [inSession.withSession]
  have sameTake : (handles.drop position).take (min (handles.length - position) maxCount) =
      (handles.drop position).take maxCount := by
    rw [Nat.min_comm, ← List.length_drop, List.take_eq_take_min.symm]
  simp only [ModuleState.finding, sameTake]

theorem findAll_inBatches (inSession : InSession state session module) (handles maxCounts : List Nat)
    (position : Nat) :
    InBatches (handles.drop position) maxCounts
      (findAll session (some (module.finding handles position)) maxCounts) := by
  induction maxCounts generalizing position with
  | nil => exact ⟨.nil, by simp [findAll], by simp [findAll]⟩
  | cons maxCount rest ih =>
      let advance := min (handles.length - position) maxCount
      have next := ih (position + advance)
      have dropped : handles.drop (position + advance) = (handles.drop position).drop maxCount := by
        rw [List.drop_drop]
        by_cases reaches : maxCount ≤ handles.length - position
        · rw [show advance = maxCount from Nat.min_eq_right reaches]
        · rw [List.drop_of_length_le (by omega), List.drop_of_length_le (by omega)]
      rw [dropped] at next
      rw [findAll, cFindObjects_finding (inSession.finding handles position)]
      have length : ((handles.drop position).take maxCount).length = advance := by
        rw [List.length_take, List.length_drop, Nat.min_comm]
      refine ⟨.cons ⟨rfl, List.length_take_le _ _, ?_⟩ next.each, ?_, ?_⟩
      · exact congrArg (fun length => some ((handles.drop position).take maxCount, length)) length.symm
      · rw [List.flatMap_cons, next.all, List.sum_cons]
        have restTake : (((handles.drop position).drop maxCount).take
            (min rest.sum ((handles.drop position).drop maxCount).length)) =
            ((handles.drop position).drop maxCount).take rest.sum := List.take_eq_take_min.symm
        have wholeTake : (handles.drop position).take
            (min (maxCount + rest.sum) (handles.drop position).length) =
            (handles.drop position).take (maxCount + rest.sum) := List.take_eq_take_min.symm
        rw [restTake, wholeTake, List.take_add]
        rfl
      · intro calls exhausted outcome member
        cases calls with
        | zero =>
            have noneLeft : (handles.drop position).length = 0 := Nat.le_zero.mp exhausted
            have isEmpty : handles.drop position = [] := List.eq_nil_of_length_eq_zero noneLeft
            rcases List.mem_cons.mp member with rfl | later
            · rw [List.length_drop] at noneLeft
              rw [isEmpty, noneLeft, List.take_nil, Nat.zero_min]
            · refine next.later 0 ?_ outcome later
              rw [isEmpty, List.drop_nil]
              exact Nat.zero_le _
        | succ calls =>
            refine next.later calls ?_ outcome member
            rw [List.take_succ_cons, List.sum_cons] at exhausted
            rw [List.length_drop]
            omega

/-- Whatever the sizes of the batches, they run through the objects of the class
asked for, each of them once, and then come back empty. -/
theorem findAll_enumerates (inSession : InSession state session module)
    (template : Option (List Attribute)) :
    (cFindObjectsInit state session template).rv = .ok ∧
      (∀ objectClass, AsksFor template objectClass → wantedKinds template = kindsOfClass objectClass) ∧
      ∃ handles, Enumerates module.identities.length (wantedKinds template) handles ∧
        ∀ maxCounts, InBatches handles maxCounts
          (findAll session (cFindObjectsInit state session template).state maxCounts) := by
  let handles := enumeration module.identities.length (wantedKinds template)
  have started : cFindObjectsInit state session template =
      ⟨.ok, none, some (module.finding handles 0)⟩ := by
    rw [cFindObjectsInit, inSession.withState, inSession.withSession,
      funext (handlesOf_wantClass template)]
    rfl
  rw [started]
  refine ⟨rfl, fun _ => wantedKinds_of_asksFor, handles, ⟨?_, ?_⟩, fun maxCounts => ?_⟩
  · exact nodup_enumeration (nodup_wantedKinds template) _
  · exact bijOn_enumeration _ _
  · exact findAll_inBatches inSession handles maxCounts 0

open Sample in
theorem twoKeys_findAll :
    (cFindObjectsInit twoKeys 1 none).rv = .ok ∧
      (∀ objectClass, AsksFor none objectClass → wantedKinds none = kindsOfClass objectClass) ∧
      ∃ handles, Enumerates twoKeysModule.identities.length (wantedKinds none) handles ∧
        ∀ maxCounts, InBatches handles maxCounts
          (findAll 1 (cFindObjectsInit twoKeys 1 none).state maxCounts) :=
  findAll_enumerates twoKeys_inSession none

end KeyMaster.Pkcs11

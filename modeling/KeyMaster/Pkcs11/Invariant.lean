import KeyMaster.Data.Runs
import KeyMaster.Pkcs11.Module

namespace KeyMaster.Pkcs11

open Data

/-! What every sequence of calls keeps of the module's state. -/

inductive Call where
  | initializeModule (socketPath : String) (listing : Listing)
  | finalize
  | openSession (slotId flags : Nat) (sessionNull : Bool)
  | closeSession (session : Nat)
  | closeAllSessions (slotId : Nat)
  | findObjectsInit (session : Nat) (template : Option (List Attribute))
  | findObjects (session : Nat) (objectsNull : Bool) (maxCount : Nat) (countNull : Bool)
  | findObjectsFinal (session : Nat)
  | signInit (session : Nat) (mechanism : Option Nat) (key : Nat)
  | sign (session : Nat) (call : SignCall)

def Call.after (codecs : Codecs) (state : State) : Call → State
  | .initializeModule socketPath listing => (cInitialize codecs state socketPath listing).state
  | .finalize => (cFinalize state).state
  | .openSession slotId flags sessionNull => (cOpenSession state slotId flags sessionNull).state
  | .closeSession session => (cCloseSession state session).state
  | .closeAllSessions slotId => (cCloseAllSessions state slotId).state
  | .findObjectsInit session template => (cFindObjectsInit state session template).state
  | .findObjects session objectsNull maxCount countNull =>
      (cFindObjects state session objectsNull maxCount countNull).state
  | .findObjectsFinal session => (cFindObjectsFinal state session).state
  | .signInit session mechanism key => (cSignInit state session mechanism key).state
  | .sign session call => (cSign state session call).state

def Step (codecs : Codecs) (before : State) (call : Call) (after : State) : Prop :=
  after = call.after codecs before

/-- The handle is that of an identity's object of the type. -/
def ModuleState.Denotes (module : ModuleState) (handle : Nat) (kind : HandleType) : Prop :=
  ∃ index < module.identities.length, handleToIdentityIndex handle = some (index, kind)

structure ModuleState.Coherent (module : ModuleState) : Prop where
  initialized : module.initialized = true
  session : module.sessionHandle ≠ 0 ↔ module.sessionOpen = true
  signOpen : module.signOp.isSome → module.sessionOpen = true
  findOpen : module.findOp.isSome → module.sessionOpen = true
  sign : ∀ op, module.signOp = some op →
    op.mechanism = ckmEddsa ∧ module.Denotes op.keyHandle .privateKey
  find : ∀ op, module.findOp = some op →
    op.position ≤ op.handles.length ∧ ∀ handle ∈ op.handles, ∃ kind, module.Denotes handle kind
  keys : ∀ identity ∈ module.identities, identity.publicKey.length = 32

def Coherent (state : State) : Prop := ∀ module, state = some module → module.Coherent

theorem coherent_none : Coherent none := by
  intro module isModule
  cases isModule

/-! ### Rules for the guards -/

variable {α : Type} {codecs : Codecs} {state : State} {session : Nat} {module : ModuleState}

/-- A function keeps the invariant if its body does. -/
theorem Coherent.withState {run : ModuleState → Outcome α} (coherent : Coherent state)
    (keeps : ∀ module, module.Coherent → Coherent (run module).state) :
    Coherent (withState state run).state := by
  cases state with
  | none => exact coherent
  | some module =>
      have holds := coherent module rfl
      rw [Pkcs11.withState, Option.filter_some, if_pos holds.initialized]
      exact keeps module holds

theorem ModuleState.Coherent.lift (coherent : module.Coherent) : Pkcs11.Coherent (some module) := by
  intro other same
  cases same
  exact coherent

theorem ModuleState.Coherent.withSession {run : Outcome α} (coherent : module.Coherent)
    (keeps : module.sessionOpen = true → Pkcs11.Coherent run.state) :
    Pkcs11.Coherent (module.withSession session run).state := by
  rcases withSession_cases module session run with ⟨isOpen, _, same⟩ | refused
  · rw [same]
    exact keeps isOpen
  · rw [refused]
    exact coherent.lift

/-! ### The functions -/

theorem identitiesOf_keys (raw : List RawIdentity) :
    ∀ identity ∈ identitiesOf codecs raw, identity.publicKey.length = 32 := by
  intro identity member
  obtain ⟨⟨entry, index⟩, _, decoded⟩ := List.mem_filterMap.mp member
  simp only [identityOf] at decoded
  split_ifs at decoded
  split at decoded
  · cases decoded
  · split_ifs at decoded with length
    cases decoded
    exact not_not.mp length

theorem cInitialize_coherent (coherent : Coherent state) (socketPath : String) (listing : Listing) :
    Coherent (cInitialize codecs state socketPath listing).state := by
  unfold cInitialize
  split
  · exact coherent
  · cases listing with
    | connectFailed | requestFailed => exact coherent
    | identities raw =>
        exact ModuleState.Coherent.lift
          { initialized := rfl
            session := by simp [ckInvalidHandle]
            signOpen := by simp
            findOpen := by simp
            sign := by simp
            find := by simp
            keys := identitiesOf_keys raw }

theorem closed_coherent (coherent : module.Coherent) : module.closed.Coherent where
  initialized := coherent.initialized
  session := by simp [ModuleState.closed, ckInvalidHandle]
  signOpen := by simp [ModuleState.closed]
  findOpen := by simp [ModuleState.closed]
  sign := by simp [ModuleState.closed]
  find := by simp [ModuleState.closed]
  keys := coherent.keys

theorem cOpenSession_coherent (coherent : Coherent state) (slotId flags : Nat) (sessionNull : Bool) :
    Coherent (cOpenSession state slotId flags sessionNull).state := by
  refine coherent.withState fun module holds => ?_
  split_ifs
  · exact holds.lift
  · exact holds.lift
  · exact holds.lift
  · exact ModuleState.Coherent.lift { holds with
      session := by simp
      signOpen := fun _ => rfl
      findOpen := fun _ => rfl }

theorem cCloseSession_coherent (coherent : Coherent state) (session : Nat) :
    Coherent (cCloseSession state session).state :=
  coherent.withState fun _ holds => holds.withSession fun _ => (closed_coherent holds).lift

theorem cCloseAllSessions_coherent (coherent : Coherent state) (slotId : Nat) :
    Coherent (cCloseAllSessions state slotId).state := by
  refine coherent.withState fun module holds => ?_
  split_ifs
  · exact holds.lift
  · exact (closed_coherent holds).lift

theorem handlesOf_denotes {index handle : Nat} {wanted : Option Nat}
    (bound : index < module.identities.length) (member : handle ∈ handlesOf wanted index) :
    ∃ kind, module.Denotes handle kind := by
  have named : ∃ kind : HandleType, handle = kind.handle index := by
    unfold handlesOf at member
    split at member
    · split_ifs at member
      · exact ⟨_, List.mem_singleton.mp member⟩
      · exact ⟨_, List.mem_singleton.mp member⟩
      · exact ⟨_, List.mem_singleton.mp member⟩
      · cases member
    · obtain ⟨kind, _, isHandle⟩ := List.mem_map.mp member
      exact ⟨kind, isHandle.symm⟩
  obtain ⟨kind, rfl⟩ := named
  exact ⟨kind, index, bound, handleToIdentityIndex_handle kind index⟩

theorem cFindObjectsInit_coherent (coherent : Coherent state) (session : Nat)
    (template : Option (List Attribute)) :
    Coherent (cFindObjectsInit state session template).state := by
  refine coherent.withState fun module holds => holds.withSession fun isOpen => ?_
  refine ModuleState.Coherent.lift { holds with findOpen := fun _ => isOpen, find := ?_ }
  intro op active
  cases active
  refine ⟨Nat.zero_le _, fun handle member => ?_⟩
  obtain ⟨index, inRange, found⟩ := List.mem_flatMap.mp member
  exact handlesOf_denotes (List.mem_range.mp inRange) found

theorem cFindObjects_coherent (coherent : Coherent state) (session : Nat) (objectsNull : Bool)
    (maxCount : Nat) (countNull : Bool) :
    Coherent (cFindObjects state session objectsNull maxCount countNull).state := by
  refine coherent.withState fun module holds => ?_
  split_ifs
  · exact holds.lift
  · refine holds.withSession fun isOpen => ?_
    cases found : module.findOp with
    | none => exact holds.lift
    | some op =>
        obtain ⟨within, denotes⟩ := holds.find op found
        refine ModuleState.Coherent.lift { holds with findOpen := fun _ => isOpen, find := ?_ }
        intro op active
        cases active
        exact ⟨by simp only; omega, denotes⟩

theorem cFindObjectsFinal_coherent (coherent : Coherent state) (session : Nat) :
    Coherent (cFindObjectsFinal state session).state := by
  refine coherent.withState fun module holds => holds.withSession fun isOpen => ?_
  exact ModuleState.Coherent.lift { holds with findOpen := by simp, find := by simp }

theorem cSignInit_coherent (coherent : Coherent state) (session : Nat) (mechanism : Option Nat)
    (key : Nat) : Coherent (cSignInit state session mechanism key).state := by
  refine coherent.withState fun module holds => ?_
  cases mechanism with
  | none => exact holds.lift
  | some mechType =>
      refine holds.withSession fun isOpen => ?_
      cases found : module.object? key with
      | none => exact holds.lift
      | some object =>
          obtain ⟨index, kind, identity⟩ := object
          obtain ⟨rfl, isIdentity⟩ := object?_eq_some.mp found
          have bound := (List.getElem?_eq_some_iff.mp isIdentity).1
          by_cases isPrivate : kind = .privateKey
          · by_cases isEddsa : mechType = ckmEddsa
            · simp only [isPrivate, isEddsa, ne_eq, not_true, if_false]
              refine ModuleState.Coherent.lift { holds with signOpen := fun _ => isOpen, sign := ?_ }
              intro op active
              cases active
              exact ⟨rfl, index, bound, handleToIdentityIndex_handle .privateKey index⟩
            · simp only [isPrivate, isEddsa, ne_eq, not_true, not_false_iff, if_false, if_true]
              exact holds.lift
          · simp only [isPrivate, ne_eq, not_false_iff, if_true]
            exact holds.lift

theorem ModuleState.Coherent.withoutSignOp (coherent : module.Coherent) :
    ModuleState.Coherent { module with signOp := none } :=
  { coherent with signOpen := by simp, sign := by simp }

theorem cSign_coherent (coherent : Coherent state) (session : Nat) (call : SignCall) :
    Coherent (cSign state session call).state := by
  refine coherent.withState fun module holds => ?_
  split
  · refine holds.withSession fun isOpen => ?_
    cases module.signOp with
    | none => exact holds.lift
    | some op =>
        simp only
        split
        · exact holds.lift
        · exact holds.withoutSignOp.lift
  · exact holds.lift

theorem Step.coherent {before after : State} {call : Call} (step : Step codecs before call after)
    (coherent : Coherent before) : Coherent after := by
  rw [Step] at step
  subst step
  cases call with
  | initializeModule socketPath listing => exact cInitialize_coherent coherent socketPath listing
  | finalize => exact coherent.withState fun _ _ => coherent_none
  | openSession slotId flags sessionNull =>
      exact cOpenSession_coherent coherent slotId flags sessionNull
  | closeSession session => exact cCloseSession_coherent coherent session
  | closeAllSessions slotId => exact cCloseAllSessions_coherent coherent slotId
  | findObjectsInit session template => exact cFindObjectsInit_coherent coherent session template
  | findObjects session objectsNull maxCount countNull =>
      exact cFindObjects_coherent coherent session objectsNull maxCount countNull
  | findObjectsFinal session => exact cFindObjectsFinal_coherent coherent session
  | signInit session mechanism key => exact cSignInit_coherent coherent session mechanism key
  | sign session call => exact cSign_coherent coherent session call

/-! ### Runs -/

theorem reachable_coherent (reachable : Reachable (Step codecs) none state) : Coherent state :=
  Reachable.invariant Coherent (fun _ _ _ step => step.coherent) coherent_none reachable

theorem ModuleState.Coherent.signObject (coherent : module.Coherent) {op : SignOp}
    (active : module.signOp = some op) : (module.object? op.keyHandle).isSome := by
  obtain ⟨_, index, bound, decoded⟩ := coherent.sign op active
  have isIdentity := List.getElem?_eq_getElem bound
  rw [object?_eq_some.mpr ⟨handleToIdentityIndex_eq_some.mp decoded, isIdentity⟩]
  rfl

theorem signOutside_ne_generalError (call : SignCall) (request : SignRequest) (signatureLen : Nat) :
    (signOutside call request signatureLen).1 ≠ .generalError := by
  unfold signOutside
  split
  · simp
  · split_ifs
    · simp
    · split
      · simp
      · simp
      · split_ifs <;> simp

theorem Coherent.cSign_ne_generalError (coherent : Coherent state) (session : Nat) (call : SignCall) :
    (cSign state session call).rv ≠ .generalError := by
  cases state with
  | none => simp [cSign, Pkcs11.withState]
  | some module =>
      have holds := coherent module rfl
      rw [cSign, Pkcs11.withState, Option.filter_some, if_pos holds.initialized]
      simp only
      split
      · rw [ModuleState.withSession]
        split
        · simp [ModuleState.fail]
        · cases active : module.signOp with
          | none => simp [ModuleState.fail]
          | some op =>
              obtain ⟨⟨index, kind, identity⟩, found⟩ :=
                Option.isSome_iff_exists.mp (holds.signObject active)
              simp only [found]
              exact signOutside_ne_generalError _ _ _
      · simp [ModuleState.fail]

/-- The invariant after every sequence of calls, and what rests on it. -/
theorem reachable_holds (reachable : Reachable (Step codecs) none state) :
    (∀ module, state = some module → module.Coherent) ∧
      (∀ session call, (cSign state session call).rv ≠ .generalError) ∧
      ∀ module find, state = some module → module.findOp = some find →
        find.position ≤ find.handles.length := by
  have coherent := reachable_coherent reachable
  refine ⟨coherent, coherent.cSign_ne_generalError, ?_⟩
  intro module find isModule active
  exact ((coherent module isModule).find find active).1

namespace Sample

open Transparent

/-- A search and a signature with the second key are under way. -/
def busy : State :=
  Call.after (simpleCodecs []) (Call.after (simpleCodecs []) twoKeys (.signInit 1 (some ckmEddsa) 4))
    (.findObjectsInit 1 none)

theorem busy_eq : busy = some { twoKeysModule with
    signOp := some ⟨4, ckmEddsa⟩
    findOp := some ⟨[1, 2, 3, 4, 5, 6], 0⟩ } := by
  rw [busy, Call.after, Call.after, twoKeys_eq]
  rfl

theorem busy_reachable : Reachable (Step (simpleCodecs [])) none busy :=
  ⟨_, .cons (@rfl _ (Call.after _ _ (.initializeModule _ (.identities rawKeys)))) <|
    .cons (@rfl _ (Call.after _ _ (.openSession 0 ckfSerialSession false))) <|
    .cons (@rfl _ (Call.after _ _ (.signInit 1 (some ckmEddsa) 4))) <|
    .cons (@rfl _ (Call.after _ _ (.findObjectsInit 1 none))) <| .nil _⟩

end Sample

open Transparent Sample in
theorem busy_holds :
    busy = some { twoKeysModule with
      signOp := some ⟨4, ckmEddsa⟩
      findOp := some ⟨[1, 2, 3, 4, 5, 6], 0⟩ } ∧
    (∀ module, busy = some module → module.Coherent) ∧
      (∀ session call, (cSign busy session call).rv ≠ .generalError) ∧
      ∀ module find, busy = some module → module.findOp = some find →
        find.position ≤ find.handles.length :=
  ⟨busy_eq, reachable_holds busy_reachable⟩

end KeyMaster.Pkcs11

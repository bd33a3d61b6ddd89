import KeyMaster.Pkcs11.Attributes
import KeyMaster.Pkcs11.Invariant
import KeyMaster.Pkcs11.LocalClient

namespace KeyMaster.Pkcs11

open Data

/-! The key of a sign request, back to the avatar's list and to the handle that
`c_sign_init` was given. -/

/-- What `sign` of the client sends as its payload. -/
def LocalClient.signPayload (codecs : Codecs) (request : SignRequest) : Value :=
  jsonObject [("key_index", .number (.posInt (UInt64.ofNat request.keyIndex))),
    ("public_key", .string (codecs.base64Encode request.publicKey)),
    ("data", .string (codecs.base64Encode request.data)), ("mechanism", .string "eddsa")]

abbrev CallTransition := Transition State Call

namespace CallTransition

variable (codecs : Codecs) (transition : CallTransition)

/-- The list that an initialization takes over. -/
def listed : Option (List RawIdentity) :=
  match transition.label with
  | .initializeModule socketPath (.identities raw) =>
      if (cInitialize codecs transition.before socketPath (.identities raw)).rv = .ok then some raw
      else none
  | _ => none

/-- The handle that a `c_sign_init` accepts. -/
def signKey : Option Nat :=
  match transition.label with
  | .signInit session mechanism key =>
      if (cSignInit transition.before session mechanism key).rv = .ok then some key else none
  | _ => none

/-- The request that a `c_sign` sends, and the session that it is for. -/
def request : Option (Nat × SignRequest) :=
  match transition.label with
  | .sign session call =>
      ((cSign transition.before session call).written.bind SignWritten.sent).map (session, ·)
  | _ => none

end CallTransition

/-- The latest of what the transitions of a trace hold. -/
def latest {α : Type} (held : CallTransition → Option α) (trace : List CallTransition) : Option α :=
  (trace.filterMap held).getLast?

theorem latest_snoc {α : Type} (held : CallTransition → Option α) (trace : List CallTransition)
    (last : CallTransition) : latest held (trace ++ [last]) = (held last).or (latest held trace) := by
  rw [latest, List.filterMap_append, List.getLast?_append, latest]
  cases isHeld : held last with
  | none => simp [isHeld]
  | some value => simp [isHeld]

/-! ### What the functions keep -/

/-- The identities stay, and so does the operation unless one with this key
takes its place. -/
def Keeps (before : State) (key : Option Nat) (after : State) : Prop :=
  ∀ module, after = some module → ∃ earlier, before = some earlier ∧
    module.identities = earlier.identities ∧
    ∀ op, module.signOp = some op → (earlier.signOp = some op ∧ key = none) ∨ key = some op.keyHandle

variable {α : Type} {codecs : Codecs} {state : State} {session : Nat} {module : ModuleState}

theorem keeps_self (state : State) : Keeps state none state :=
  fun module isModule => ⟨module, isModule, rfl, fun _ active => .inl ⟨active, rfl⟩⟩

theorem keeps_withState {run : ModuleState → Outcome α}
    (keeps : ∀ module, Keeps (some module) none (run module).state) :
    Keeps state none (withState state run).state := by
  rcases withState_cases state run with ⟨module, rfl, _, ran⟩ | refused
  · rw [ran]
    exact keeps module
  · rw [refused]
    exact keeps_self state

theorem keeps_withSession {run : Outcome α} (keeps : Keeps (some module) none run.state) :
    Keeps (some module) none (module.withSession session run).state := by
  rcases withSession_cases module session run with ⟨_, _, same⟩ | refused
  · rw [same]
    exact keeps
  · rw [refused]
    exact keeps_self _

theorem keeps_ended {module after : ModuleState} (identities : after.identities = module.identities)
    (ended : after.signOp = none) : Keeps (some module) none (some after) := by
  intro other same
  cases same
  refine ⟨module, rfl, identities, fun op active => ?_⟩
  rw [ended] at active
  cases active

theorem keeps_same {module after : ModuleState} (identities : after.identities = module.identities)
    (signOp : after.signOp = module.signOp) : Keeps (some module) none (some after) := by
  intro other same
  cases same
  exact ⟨module, rfl, identities, fun op active => .inl ⟨signOp ▸ active, rfl⟩⟩

theorem cSignInit_cases (state : State) (session : Nat) (mechanism : Option Nat) (key : Nat) :
    ((cSignInit state session mechanism key).rv ≠ .ok ∧
        (cSignInit state session mechanism key).state = state) ∨
      ∃ module, state = some module ∧ (cSignInit state session mechanism key).rv = .ok ∧
        (cSignInit state session mechanism key).state =
          some { module with signOp := some ⟨key, ckmEddsa⟩ } := by
  rw [cSignInit]
  rcases withState_cases state _ with ⟨module, rfl, _, ran⟩ | refused
  · rw [ran]
    cases mechanism with
    | none => exact .inl ⟨by simp [ModuleState.fail], rfl⟩
    | some mechType =>
        simp only
        rcases withSession_cases module session _ with ⟨_, _, inSession⟩ | closed
        · rw [inSession]
          cases module.object? key with
          | none => exact .inl ⟨by simp [ModuleState.fail], rfl⟩
          | some object =>
              simp only
              split_ifs with notPrivate notEddsa
              · exact .inl ⟨by simp [ModuleState.fail], rfl⟩
              · exact .inl ⟨by simp [ModuleState.fail], rfl⟩
              · rw [not_not.mp notEddsa]
                exact .inr ⟨module, rfl, rfl, rfl⟩
        · rw [closed]
          exact .inl ⟨by simp [ModuleState.fail], rfl⟩
  · rw [refused]
    exact .inl ⟨by simp, rfl⟩

theorem cSignInit_keeps (state : State) (session : Nat) (mechanism : Option Nat) (key : Nat) :
    Keeps state (if (cSignInit state session mechanism key).rv = .ok then some key else none)
      (cSignInit state session mechanism key).state := by
  rcases cSignInit_cases state session mechanism key with ⟨refused, same⟩ | ⟨module, rfl, started, after⟩
  · rw [if_neg refused, same]
    exact keeps_self state
  · rw [if_pos started, after]
    intro other same
    cases same
    refine ⟨module, rfl, rfl, fun op active => .inr ?_⟩
    cases active
    rfl

theorem cFindObjects_keeps (state : State) (session : Nat) (objectsNull : Bool) (maxCount : Nat)
    (countNull : Bool) :
    Keeps state none (cFindObjects state session objectsNull maxCount countNull).state := by
  refine keeps_withState fun module => ?_
  split
  · exact keeps_self _
  · refine keeps_withSession ?_
    cases module.findOp with
    | none => exact keeps_self _
    | some find => exact keeps_same rfl rfl

theorem cSign_keeps (state : State) (session : Nat) (call : SignCall) :
    Keeps state none (cSign state session call).state := by
  refine keeps_withState fun module => ?_
  split
  · refine keeps_withSession ?_
    cases module.signOp with
    | none => exact keeps_self _
    | some signOp =>
        simp only
        split
        · exact keeps_self _
        · exact keeps_ended rfl rfl
  · exact keeps_self _

theorem cOpenSession_keeps (state : State) (slotId flags : Nat) (sessionNull : Bool) :
    Keeps state none (cOpenSession state slotId flags sessionNull).state := by
  refine keeps_withState fun module => ?_
  split_ifs
  · exact keeps_self _
  · exact keeps_self _
  · exact keeps_self _
  · exact keeps_same rfl rfl

theorem cCloseAllSessions_keeps (state : State) (slotId : Nat) :
    Keeps state none (cCloseAllSessions state slotId).state := by
  refine keeps_withState fun module => ?_
  split_ifs
  · exact keeps_self _
  · exact keeps_ended rfl rfl

theorem cInitialize_cases (state : State) (socketPath : String) (listing : Listing) :
    ((cInitialize codecs state socketPath listing).rv ≠ .ok ∧
        (cInitialize codecs state socketPath listing).state = state) ∨
      ∃ raw module, listing = .identities raw ∧
        (cInitialize codecs state socketPath listing).rv = .ok ∧
        (cInitialize codecs state socketPath listing).state = some module ∧
        module.identities = identitiesOf codecs raw ∧ module.signOp = none := by
  unfold cInitialize
  split
  · exact .inl ⟨by simp, rfl⟩
  · cases listing with
    | connectFailed | requestFailed => exact .inl ⟨by simp, rfl⟩
    | identities raw => exact .inr ⟨raw, _, rfl, rfl, rfl, rfl, rfl⟩

/-! ### The latest list and the latest handle -/

/-- The identities are those of the latest list, and an operation is for the
latest handle. -/
structure ModuleState.Tracks (codecs : Codecs) (trace : List CallTransition) (module : ModuleState) :
    Prop where
  identities : ∃ raw, latest (CallTransition.listed codecs) trace = some raw ∧
    module.identities = identitiesOf codecs raw
  signing : ∀ op, module.signOp = some op → latest CallTransition.signKey trace = some op.keyHandle

def Tracks (codecs : Codecs) (trace : List CallTransition) (state : State) : Prop :=
  ∀ module, state = some module → module.Tracks codecs trace

theorem Tracks.keeps {trace : List CallTransition} {transition : CallTransition}
    (tracks : Tracks codecs trace transition.before)
    (unlisted : transition.listed codecs = none)
    (keeps : Keeps transition.before transition.signKey transition.after) :
    Tracks codecs (trace ++ [transition]) transition.after := by
  intro module isAfter
  obtain ⟨earlier, isBefore, identities, signOps⟩ := keeps module isAfter
  obtain ⟨raw, isLatest, listed⟩ := (tracks earlier isBefore).identities
  refine ⟨⟨raw, ?_, identities.trans listed⟩, fun op active => ?_⟩
  · rw [latest_snoc, unlisted, isLatest]
    rfl
  · rw [latest_snoc]
    rcases signOps op active with ⟨before, silent⟩ | started
    · rw [silent, Option.none_or]
      exact (tracks earlier isBefore).signing op before
    · rw [started, Option.some_or]

theorem Tracks.step {trace : List CallTransition} {before after : State} {call : Call}
    (tracks : Tracks codecs trace before) (step : Step codecs before call after) :
    Tracks codecs (trace ++ [⟨before, call, after⟩]) after := by
  rw [Step] at step
  subst step
  cases call with
  | initializeModule socketPath listing =>
      rcases @cInitialize_cases codecs before socketPath listing with
        ⟨refused, same⟩ | ⟨raw, module, rfl, started, isAfter, identities, noOp⟩
      · have unlisted : CallTransition.listed codecs ⟨before, .initializeModule socketPath listing,
            Call.after codecs before (.initializeModule socketPath listing)⟩ = none := by
          cases listing with
          | connectFailed | requestFailed => rfl
          | identities raw => exact if_neg refused
        have kept : Keeps before none (cInitialize codecs before socketPath listing).state := by
          rw [same]
          exact keeps_self before
        exact tracks.keeps unlisted kept
      · intro other same
        rw [Call.after, isAfter] at same
        cases same
        refine ⟨⟨raw, ?_, identities⟩, fun op active => ?_⟩
        · have isListed : ∀ after, CallTransition.listed codecs
              ⟨before, .initializeModule socketPath (.identities raw), after⟩ = some raw :=
            fun _ => if_pos started
          rw [latest_snoc, isListed]
          rfl
        · rw [noOp] at active
          cases active
  | finalize =>
      refine tracks.keeps rfl (keeps_withState fun module => ?_)
      intro other same
      cases same
  | openSession slotId flags sessionNull =>
      exact tracks.keeps rfl (cOpenSession_keeps before slotId flags sessionNull)
  | closeSession session =>
      exact tracks.keeps rfl (keeps_withState fun _ => keeps_withSession (keeps_ended rfl rfl))
  | closeAllSessions slotId => exact tracks.keeps rfl (cCloseAllSessions_keeps before slotId)
  | findObjectsInit session template =>
      exact tracks.keeps rfl (keeps_withState fun _ => keeps_withSession (keeps_same rfl rfl))
  | findObjects session objectsNull maxCount countNull =>
      exact tracks.keeps rfl (cFindObjects_keeps before session objectsNull maxCount countNull)
  | findObjectsFinal session =>
      exact tracks.keeps rfl (keeps_withState fun _ => keeps_withSession (keeps_same rfl rfl))
  | signInit session mechanism key =>
      exact tracks.keeps rfl (cSignInit_keeps before session mechanism key)
  | sign session call => exact tracks.keeps rfl (cSign_keeps before session call)

theorem run_tracks {trace : List CallTransition} {final : State}
    (run : Run (Step codecs) none trace final) : Tracks codecs trace final :=
  run.snoc_induction (motive := Tracks codecs)
    (fun _ same => by cases same)
    (fun _ _ _ _ _ tracks step => tracks.step step)

/-! ### The request -/

theorem signOutside_sent {call : SignCall} {request sent : SignRequest} {signatureLen : Nat}
    (sends : (signOutside call request signatureLen).2.sent = some sent) : sent = request := by
  unfold signOutside at sends
  split at sends
  · cases sends
  · split_ifs at sends
    split at sends
    · cases sends
    · exact (Option.some.inj sends).symm
    · split_ifs at sends
      · exact (Option.some.inj sends).symm
      · exact (Option.some.inj sends).symm

theorem withState_written {run : ModuleState → Outcome α} {value : α}
    (writes : (withState state run).written = some value) :
    ∃ module, state = some module ∧ module.initialized = true ∧ (run module).written = some value := by
  rcases withState_cases state run with ⟨module, same, initialized, ran⟩ | refused
  · rw [ran] at writes
    exact ⟨module, same, initialized, writes⟩
  · rw [refused] at writes
    cases writes

theorem withSession_written {run : Outcome α} {value : α}
    (writes : (module.withSession session run).written = some value) :
    module.sessionOpen = true ∧ session = module.sessionHandle ∧ run.written = some value := by
  rcases withSession_cases module session run with ⟨isOpen, isHandle, ran⟩ | refused
  · rw [ran] at writes
    exact ⟨isOpen, isHandle, writes⟩
  · rw [refused] at writes
    cases writes

theorem cSign_sent {call : SignCall} {sent : SignRequest}
    (sends : (cSign state session call).written.bind SignWritten.sent = some sent) :
    ∃ module op index kind identity, InSession state session module ∧ module.signOp = some op ∧
      module.object? op.keyHandle = some (index, kind, identity) ∧
      sent.keyIndex = identity.index ∧ sent.publicKey = identity.publicKey := by
  obtain ⟨written, writes, isSent⟩ := Option.bind_eq_some_iff.mp sends
  obtain ⟨module, rfl, initialized, ran⟩ := withState_written writes
  simp only at ran
  split at ran
  · obtain ⟨isOpen, isHandle, signed⟩ := withSession_written ran
    cases active : module.signOp with
    | none =>
        rw [active] at signed
        cases signed
    | some op =>
        rw [active] at signed
        cases found : module.object? op.keyHandle with
        | none =>
            simp only [found] at signed
            cases signed
        | some object =>
            obtain ⟨index, kind, identity⟩ := object
            simp only [found] at signed
            cases signed
            rw [signOutside_sent isSent]
            exact ⟨module, op, index, kind, identity, ⟨rfl, initialized, isOpen, isHandle⟩, active,
              found, rfl, rfl⟩
  · cases ran

theorem identitiesOf_listed {raw : List RawIdentity} {identity : Identity}
    (member : identity ∈ identitiesOf codecs raw) :
    ∃ entry, raw[identity.index]? = some entry ∧ entry.keyType = "ed25519" ∧
      codecs.base64Decode entry.publicKey = .ok identity.publicKey ∧ identity.publicKey.length = 32 := by
  obtain ⟨⟨entry, index⟩, listed, decoded⟩ := List.mem_filterMap.mp member
  have isEntry : raw[index]? = some entry := List.mk_mem_zipIdx_iff_getElem?.mp listed
  simp only [identityOf] at decoded
  split_ifs at decoded with keyType
  split at decoded
  · cases decoded
  · rename_i publicKey isKey
    split_ifs at decoded with length
    cases decoded
    exact ⟨entry, isEntry, not_not.mp keyType, isKey, not_not.mp length⟩

end KeyMaster.Pkcs11

import KeyMaster.Pkcs11.Module

namespace KeyMaster.Pkcs11

/-! The calls of `c_sign` that follow a `c_sign_init`. -/

structure DataCall where
  data : List UInt8
  signature : Option (List UInt8)
  signatureLen : Nat
  avatar : SignRequest → SignReply

def DataCall.toCall (call : DataCall) : SignCall :=
  ⟨some call.data, call.signature, some call.signatureLen, call.avatar⟩

inductive Demand where
  | size
  /-- The buffer is too small. -/
  | short
  | signature
deriving DecidableEq

def DataCall.demand (call : DataCall) : Demand :=
  if call.signature.isNone then .size
  else if call.signatureLen < ed25519SigLen then .short
  else .signature

def signingKey (state : State) : Option Nat :=
  (state.bind ModuleState.signOp).map SignOp.keyHandle

def signs (identity : Identity) (call : DataCall) : SignRequest :=
  ⟨identity.index, identity.publicKey, call.data⟩

/-- A call as the convention has it, for an operation with this key. -/
def CallFollows (key : Nat) (identity : Identity) (call : DataCall) (outcome : Outcome SignWritten) :
    Prop :=
  match call.demand with
  | .size => outcome.rv = .ok ∧
      outcome.written.map SignWritten.signatureLen = some ed25519SigLen ∧
      signingKey outcome.state = some key
  | .short => outcome.rv = .bufferTooSmall ∧
      outcome.written.map SignWritten.signatureLen = some ed25519SigLen ∧
      signingKey outcome.state = some key
  | .signature => signingKey outcome.state = none ∧
      (call.avatar (signs identity call) ≠ .connectFailed →
        outcome.written.bind SignWritten.sent = some (signs identity call))

/-- The calls follow the convention up to the one that asks for the signature. -/
def CallsFollow (session key : Nat) (identity : Identity) : State → List DataCall → Prop
  | _, [] => True
  | state, call :: rest =>
      let outcome := cSign state session call.toCall
      CallFollows key identity call outcome ∧
        (call.demand ≠ .signature → CallsFollow session key identity outcome.state rest)

/-! ### One call -/

variable {state : State} {session key : Nat} {module : ModuleState} {identity : Identity}

theorem cSignInit_ok {mechanism : Option Nat}
    (started : (cSignInit state session mechanism key).rv = .ok) :
    ∃ module index identity, module.object? key = some (index, .privateKey, identity) ∧
      module.signOp = some ⟨key, ckmEddsa⟩ ∧
      InSession (cSignInit state session mechanism key).state session module := by
  obtain ⟨module, rfl, initialized, ran⟩ := withState_ok started
  rw [cSignInit] at started ⊢
  rw [ran] at started ⊢
  cases mechanism with
  | none => cases started
  | some mechType =>
      obtain ⟨isOpen, isHandle, inSession⟩ := withSession_ok started
      simp only [inSession] at started ⊢
      cases found : module.object? key with
      | none =>
          rw [found] at started
          cases started
      | some object =>
          obtain ⟨index, kind, identity⟩ := object
          simp only [found] at started ⊢
          by_cases isPrivate : kind = .privateKey
          · by_cases isEddsa : mechType = ckmEddsa
            · subst isPrivate isEddsa
              refine ⟨{ module with signOp := some ⟨key, ckmEddsa⟩ }, index, identity, found, rfl, ?_,
                initialized, isOpen, isHandle⟩
              simp
            · simp [isPrivate, isEddsa, ModuleState.fail] at started
          · simp [isPrivate, ModuleState.fail] at started

theorem cSign_eq (inSession : InSession state session module) {mechanism index : Nat}
    {kind : HandleType} (active : module.signOp = some ⟨key, mechanism⟩)
    (isObject : module.object? key = some (index, kind, identity)) (call : DataCall) :
    cSign state session call.toCall =
      let (rv, written) := signOutside call.toCall (signs identity call) call.signatureLen
      ⟨rv, some written, some { module with signOp := none }⟩ := by
  rw [cSign, inSession.withState]
  simp only [DataCall.toCall]
  rw [inSession.withSession, active]
  simp only [isObject, signs]

theorem sent_signOutside {call : DataCall} {request : SignRequest}
    (demanded : call.demand = .signature) (reached : call.avatar request ≠ .connectFailed) :
    (signOutside call.toCall request call.signatureLen).2.sent = some request := by
  rw [DataCall.demand] at demanded
  cases isNull : call.signature with
  | none => simp [isNull] at demanded
  | some memory =>
      have large : ¬ call.signatureLen < ed25519SigLen := by
        intro short
        simp [isNull, short] at demanded
      simp only [signOutside, DataCall.toCall, isNull, if_neg large]
      cases replied : call.avatar request with
      | connectFailed => exact absurd replied reached
      | failed => rfl
      | signed rawSig =>
          simp only
          split_ifs <;> rfl

/-- Any call ends the operation. -/
theorem signingKey_cSign (inSession : InSession state session module) {mechanism index : Nat}
    {kind : HandleType} (active : module.signOp = some ⟨key, mechanism⟩)
    (isObject : module.object? key = some (index, kind, identity)) (call : DataCall) :
    signingKey (cSign state session call.toCall).state = none := by
  rw [cSign_eq inSession active isObject]
  rfl

theorem callFollows_iff (inSession : InSession state session module) {mechanism index : Nat}
    {kind : HandleType} (active : module.signOp = some ⟨key, mechanism⟩)
    (isObject : module.object? key = some (index, kind, identity)) (call : DataCall) :
    CallFollows key identity call (cSign state session call.toCall) ↔ call.demand = .signature := by
  have ended := signingKey_cSign inSession active isObject call
  unfold CallFollows
  rw [ended]
  cases demand : call.demand with
  | size | short => simp
  | signature =>
      simp only [true_and, iff_true]
      intro reached
      rw [cSign_eq inSession active isObject]
      exact sent_signOutside demand reached

/-! ### Sequences of calls -/

/-- After a successful `c_sign_init` the calls follow the convention exactly if
the first of them brings a buffer for the signature. -/
theorem callsFollow_iff {mechanism : Option Nat}
    (started : (cSignInit state session mechanism key).rv = .ok) (calls : List DataCall) :
    ∃ module index identity, (cSignInit state session mechanism key).state = some module ∧
      module.object? key = some (index, .privateKey, identity) ∧
      signingKey (some module) = some key ∧
      (CallsFollow session key identity (some module) calls ↔
        ∀ first ∈ calls.head?, first.demand = .signature) := by
  obtain ⟨module, index, identity, isObject, active, inSession⟩ := cSignInit_ok started
  refine ⟨module, index, identity, inSession.state_eq, isObject, ?_, ?_⟩
  · simp [signingKey, active]
  · rw [inSession.state_eq] at inSession
    cases calls with
    | nil => simp [CallsFollow]
    | cons first rest =>
        have follows := callFollows_iff inSession active isObject first
        simp only [CallsFollow, follows, List.head?_cons, Option.mem_def, Option.some.injEq, forall_eq']
        exact ⟨fun ⟨demanded, _⟩ => demanded,
          fun demanded => ⟨demanded, fun other => absurd demanded other⟩⟩

namespace Sample

def sizeCall : DataCall := ⟨[0xCA, 0xFE], none, 0, fun _ => .signed (List.replicate 64 0x5A)⟩

def fullCall : DataCall :=
  { sizeCall with signature := some (List.replicate 64 0), signatureLen := 64 }

def signingKeys : Outcome Unit := cSignInit twoKeys 1 (some ckmEddsa) 1

theorem signingKeys_ok : signingKeys.rv = .ok := by
  rw [signingKeys, cSignInit, twoKeys_inSession.withState]
  rfl

end Sample

open Sample in
theorem signingKeys_callsFollow_iff :
    ∃ module index identity, signingKeys.state = some module ∧
      module.object? 1 = some (index, .privateKey, identity) ∧ signingKey (some module) = some 1 ∧
      (CallsFollow 1 1 identity (some module) [sizeCall, fullCall] ↔
        ∀ first ∈ [sizeCall, fullCall].head?, first.demand = .signature) :=
  callsFollow_iff signingKeys_ok [sizeCall, fullCall]

open Sample in
/-- After the length was asked for, the signature is refused. -/
theorem sizeCall_ends_operation :
    ∃ module, signingKeys.state = some module ∧ signingKey (some module) = some 1 ∧
      (cSign (some module) 1 sizeCall.toCall).rv = .ok ∧
      (cSign (cSign (some module) 1 sizeCall.toCall).state 1 fullCall.toCall).rv =
        .operationNotInitialized ∧
      ∀ identity, ¬ CallsFollow 1 1 identity (some module) [sizeCall, fullCall] := by
  have state : signingKeys.state = some { twoKeysModule with signOp := some ⟨1, ckmEddsa⟩ } := by
    rw [signingKeys, cSignInit, twoKeys_inSession.withState]
    rfl
  refine ⟨_, state, rfl, rfl, rfl, fun identity follows => ?_⟩
  have kept := follows.1.2.2
  cases kept

end KeyMaster.Pkcs11

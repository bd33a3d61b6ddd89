import KeyMaster.Codecs
import KeyMaster.Pkcs11.Certificate
import KeyMaster.Pkcs11.Types

namespace KeyMaster.Pkcs11

/-! The state of the module and the functions that change it. -/

/-- A key of the avatar, at its index in the avatar's list. -/
structure Identity where
  publicKey : List UInt8
  certDer : List UInt8
  label : String
  index : Nat

structure SignOp where
  keyHandle : Nat
  mechanism : Nat

structure FindOp where
  handles : List Nat
  position : Nat

structure ModuleState where
  initialized : Bool
  socketPath : String
  identities : List Identity
  sessionOpen : Bool
  sessionHandle : Nat
  signOp : Option SignOp
  findOp : Option FindOp

/-- `STATE`. -/
abbrev State := Option ModuleState

/-- What a function returns, what it wrote through its pointers, and the state
it leaves. -/
structure Outcome (α : Type) where
  rv : CkRv
  written : Option α
  state : State

variable {α : Type}

/-- Run on the state of an initialized module. -/
def withState (state : State) (run : ModuleState → Outcome α) : Outcome α :=
  match state.filter ModuleState.initialized with
  | none => ⟨.cryptokiNotInitialized, none, state⟩
  | some module => run module

namespace ModuleState

def fail (module : ModuleState) (rv : CkRv) : Outcome α := ⟨rv, none, some module⟩

def withSession (module : ModuleState) (session : Nat) (run : Outcome α) : Outcome α :=
  if !module.sessionOpen || session != module.sessionHandle then module.fail .sessionHandleInvalid
  else run

def closed (module : ModuleState) : ModuleState :=
  { module with
    sessionOpen := false
    sessionHandle := ckInvalidHandle
    signOp := none
    findOp := none }

end ModuleState

/-! ### Handles -/

inductive HandleType where
  | privateKey
  | publicKey
  | certificate
deriving DecidableEq, Repr

namespace HandleType

def all : List HandleType := [.privateKey, .publicKey, .certificate]

def objectClass : HandleType → Nat
  | .privateKey => ckoPrivateKey
  | .publicKey => ckoPublicKey
  | .certificate => ckoCertificate

def handle (kind : HandleType) (index : Nat) : Nat :=
  match kind with
  | .privateKey => index * 3 + 1
  | .publicKey => index * 3 + 2
  | .certificate => index * 3 + 3

end HandleType

def handleToIdentityIndex (handle : Nat) : Option (Nat × HandleType) :=
  if handle = 0 then none
  else
    let h := handle - 1
    let kind := match h % 3 with
      | 0 => .privateKey
      | 1 => .publicKey
      | _ => .certificate
    some (h / 3, kind)

theorem handleToIdentityIndex_handle (kind : HandleType) (index : Nat) :
    handleToIdentityIndex (kind.handle index) = some (index, kind) := by
  cases kind with
  | privateKey =>
      have remainder : (index * 3 + 1 - 1) % 3 = 0 := by omega
      have quotient : (index * 3 + 1 - 1) / 3 = index := by omega
      simp only [handleToIdentityIndex, HandleType.handle, remainder, quotient, Nat.succ_ne_zero, if_false]
  | publicKey =>
      have remainder : (index * 3 + 2 - 1) % 3 = 1 := by omega
      have quotient : (index * 3 + 2 - 1) / 3 = index := by omega
      simp only [handleToIdentityIndex, HandleType.handle, remainder, quotient, Nat.succ_ne_zero, if_false]
  | certificate =>
      have remainder : (index * 3 + 3 - 1) % 3 = 2 := by omega
      have quotient : (index * 3 + 3 - 1) / 3 = index := by omega
      simp only [handleToIdentityIndex, HandleType.handle, remainder, quotient, Nat.succ_ne_zero, if_false]

theorem handleToIdentityIndex_eq_some {handle index : Nat} {kind : HandleType} :
    handleToIdentityIndex handle = some (index, kind) ↔ handle = kind.handle index := by
  constructor
  · intro decoded
    by_cases zero : handle = 0
    · rw [handleToIdentityIndex, if_pos zero] at decoded
      cases decoded
    have remainder : (handle - 1) % 3 = 0 ∨ (handle - 1) % 3 = 1 ∨ (handle - 1) % 3 = 2 := by omega
    rcases remainder with remainder | remainder | remainder
    all_goals
      simp only [handleToIdentityIndex, zero, if_false, remainder] at decoded
      cases decoded
      simp only [HandleType.handle]
      omega
  · intro isHandle
    rw [isHandle, handleToIdentityIndex_handle]

def ModuleState.object? (module : ModuleState) (handle : Nat) :
    Option (Nat × HandleType × Identity) :=
  (handleToIdentityIndex handle).bind fun (index, kind) =>
    module.identities[index]?.map fun identity => (index, kind, identity)

theorem object?_eq_some {module : ModuleState} {handle index : Nat} {kind : HandleType}
    {identity : Identity} :
    module.object? handle = some (index, kind, identity) ↔
      handle = kind.handle index ∧ module.identities[index]? = some identity := by
  rw [ModuleState.object?, Option.bind_eq_some_iff]
  constructor
  · intro ⟨⟨index, kind⟩, decoded, found⟩
    obtain ⟨identity, isIdentity, same⟩ := Option.map_eq_some_iff.mp found
    cases same
    exact ⟨handleToIdentityIndex_eq_some.mp decoded, isIdentity⟩
  · intro ⟨isHandle, found⟩
    exact ⟨(index, kind), handleToIdentityIndex_eq_some.mpr isHandle, by simp [found]⟩

/-! ### Initialization -/

structure RawIdentity where
  keyType : String
  publicKey : String
  label : String

inductive Listing where
  | connectFailed
  | requestFailed
  | identities (raw : List RawIdentity)

section Initialize

variable (codecs : Codecs)

def identityOf (raw : RawIdentity) (index : Nat) : Option Identity :=
  if raw.keyType ≠ "ed25519" then none
  else
    match codecs.base64Decode raw.publicKey with
    | .error _ => none
    | .ok publicKey =>
        if publicKey.length ≠ 32 then none
        else some ⟨publicKey, createSelfSignedCert publicKey raw.label, raw.label, index⟩

def identitiesOf (raw : List RawIdentity) : List Identity :=
  raw.zipIdx.filterMap fun (raw, index) => identityOf codecs raw index

/-- `c_initialize`; the import of the public certificate does not touch the state. -/
def cInitialize (state : State) (socketPath : String) (listing : Listing) : Outcome Unit :=
  if (state.filter ModuleState.initialized).isSome then
    ⟨.cryptokiAlreadyInitialized, none, state⟩
  else
    match listing with
    | .connectFailed | .requestFailed => ⟨.deviceError, none, state⟩
    | .identities raw =>
        ⟨.ok, none, some
          { initialized := true
            socketPath
            identities := identitiesOf codecs raw
            sessionOpen := false
            sessionHandle := ckInvalidHandle
            signOp := none
            findOp := none }⟩

end Initialize

def cFinalize (state : State) : Outcome Unit :=
  withState state fun _ => ⟨.ok, none, none⟩

/-! ### Sessions -/

def cOpenSession (state : State) (slotId flags : Nat) (sessionNull : Bool) : Outcome Nat :=
  withState state fun module =>
    if slotId ≠ 0 then module.fail .slotIdInvalid
    else if sessionNull then module.fail .argumentsBad
    else if flags &&& ckfSerialSession = 0 then module.fail .generalError
    else ⟨.ok, some 1, some { module with sessionOpen := true, sessionHandle := 1 }⟩

def cCloseSession (state : State) (session : Nat) : Outcome Unit :=
  withState state fun module => module.withSession session ⟨.ok, none, some module.closed⟩

def cCloseAllSessions (state : State) (slotId : Nat) : Outcome Unit :=
  withState state fun module =>
    if slotId ≠ 0 then module.fail .slotIdInvalid else ⟨.ok, none, some module.closed⟩

/-! ### Finding objects -/

/-- The class of the last entry that holds one. -/
def wantClass (template : Option (List Attribute)) : Option Nat :=
  (template.getD []).foldl
    (fun wanted attr =>
      match attr.pValue with
      | some memory =>
          if attr.attrType = ckaClass ∧ attr.valueLen = 8 then some (ofNeBytes (memory.take 8)) else wanted
      | none => wanted)
    none

/-- The handles of an identity in a search for a class. -/
def handlesOf (wanted : Option Nat) (index : Nat) : List Nat :=
  match wanted with
  | some objectClass =>
      if objectClass = ckoPrivateKey then [HandleType.privateKey.handle index]
      else if objectClass = ckoPublicKey then [HandleType.publicKey.handle index]
      else if objectClass = ckoCertificate then [HandleType.certificate.handle index]
      else []
  | none => HandleType.all.map fun kind => kind.handle index

def cFindObjectsInit (state : State) (session : Nat) (template : Option (List Attribute)) :
    Outcome Unit :=
  withState state fun module =>
    module.withSession session
      (let handles := (List.range module.identities.length).flatMap (handlesOf (wantClass template))
       ⟨.ok, none, some { module with findOp := some ⟨handles, 0⟩ }⟩)

/-- Either pointer may be null; the handles found are written, and their count. -/
def cFindObjects (state : State) (session : Nat) (objectsNull : Bool) (maxCount : Nat)
    (countNull : Bool) : Outcome (List Nat × Nat) :=
  withState state fun module =>
    if objectsNull || countNull then module.fail .argumentsBad
    else module.withSession session
      (match module.findOp with
       | none => module.fail .operationNotInitialized
       | some find =>
           let remaining := find.handles.length - find.position
           let toReturn := min remaining maxCount
           let found := (find.handles.drop find.position).take toReturn
           ⟨.ok, some (found, toReturn),
             some { module with findOp := some { find with position := find.position + toReturn } }⟩)

def cFindObjectsFinal (state : State) (session : Nat) : Outcome Unit :=
  withState state fun module =>
    module.withSession session ⟨.ok, none, some { module with findOp := none }⟩

/-! ### Signing -/

def cSignInit (state : State) (session : Nat) (mechanism : Option Nat) (key : Nat) :
    Outcome Unit :=
  withState state fun module =>
    match mechanism with
    | none => module.fail .argumentsBad
    | some mechType =>
        module.withSession session
          (match module.object? key with
           | none => module.fail .objectHandleInvalid
           | some (_, kind, _) =>
               if kind ≠ .privateKey then module.fail .objectHandleInvalid
               else if mechType ≠ ckmEddsa then module.fail .mechanismInvalid
               else ⟨.ok, none, some { module with signOp := some ⟨key, mechType⟩ }⟩)

structure SignRequest where
  keyIndex : Nat
  publicKey : List UInt8
  data : List UInt8
deriving DecidableEq

inductive SignReply where
  | connectFailed
  | failed
  | signed (signature : List UInt8)

/-- The arguments of `c_sign` after the session, and what the avatar does. The
first two pointers lead to memory of the lengths given; any may be null. -/
structure SignCall where
  data : Option (List UInt8)
  signature : Option (List UInt8)
  signatureLen : Option Nat
  avatar : SignRequest → SignReply

/-- The length and the signature buffer after the call, and the request that
was sent. -/
structure SignWritten where
  signatureLen : Nat
  signature : Option (List UInt8)
  sent : Option SignRequest

def ed25519SigLen : Nat := 64

/-- The second half of `c_sign`, outside the lock. -/
def signOutside (call : SignCall) (request : SignRequest) (signatureLen : Nat) :
    CkRv × SignWritten :=
  match call.signature with
  | none => (.ok, ⟨ed25519SigLen, none, none⟩)
  | some memory =>
      if signatureLen < ed25519SigLen then (.bufferTooSmall, ⟨ed25519SigLen, some memory, none⟩)
      else
        match call.avatar request with
        | .connectFailed => (.deviceError, ⟨signatureLen, some memory, none⟩)
        | .failed => (.deviceError, ⟨signatureLen, some memory, some request⟩)
        | .signed rawSig =>
            if rawSig.length ≠ ed25519SigLen then
              (.deviceError, ⟨signatureLen, some memory, some request⟩)
            else
              (.ok, ⟨ed25519SigLen, some (rawSig ++ memory.drop ed25519SigLen), some request⟩)

def cSign (state : State) (session : Nat) (call : SignCall) : Outcome SignWritten :=
  withState state fun module =>
    match call.data, call.signatureLen with
    | some data, some signatureLen =>
        module.withSession session
          (match module.signOp with
           | none => module.fail .operationNotInitialized
           | some signOp =>
               match module.object? signOp.keyHandle with
               | none => module.fail .generalError
               | some (_, _, identity) =>
                   let request := ⟨identity.index, identity.publicKey, data⟩
                   let (rv, written) := signOutside call request signatureLen
                   ⟨rv, some written, some { module with signOp := none }⟩)
    | _, _ => module.fail .argumentsBad

/-! ### Calls under a session -/

/-- A state whose functions work under the session handle. -/
structure InSession (state : State) (session : Nat) (module : ModuleState) : Prop where
  state_eq : state = some module
  initialized : module.initialized = true
  isOpen : module.sessionOpen = true
  handle : session = module.sessionHandle

variable {state : State} {session : Nat} {module : ModuleState}

/-- A function runs on an initialized module or is refused. -/
theorem withState_cases (state : State) (run : ModuleState → Outcome α) :
    (∃ module, state = some module ∧ module.initialized = true ∧ withState state run = run module) ∨
      withState state run = ⟨.cryptokiNotInitialized, none, state⟩ := by
  cases state with
  | none => exact .inr rfl
  | some module =>
      rw [withState, Option.filter_some]
      by_cases initialized : module.initialized = true
      · exact .inl ⟨module, rfl, initialized, by rw [if_pos initialized]⟩
      · rw [if_neg initialized]
        exact .inr rfl

theorem withSession_cases (module : ModuleState) (session : Nat) (run : Outcome α) :
    (module.sessionOpen = true ∧ session = module.sessionHandle ∧ module.withSession session run = run) ∨
      module.withSession session run = module.fail .sessionHandleInvalid := by
  rw [ModuleState.withSession]
  split
  · exact .inr rfl
  · rename_i isOpen
    left
    simpa using isOpen

theorem withState_ok {run : ModuleState → Outcome α} (succeeds : (withState state run).rv = .ok) :
    ∃ module, state = some module ∧ module.initialized = true ∧ withState state run = run module := by
  rcases withState_cases state run with ran | refused
  · exact ran
  · rw [refused] at succeeds
    cases succeeds

theorem withSession_ok {run : Outcome α} (succeeds : (module.withSession session run).rv = .ok) :
    module.sessionOpen = true ∧ session = module.sessionHandle ∧
      module.withSession session run = run := by
  rcases withSession_cases module session run with ran | refused
  · exact ran
  · rw [refused] at succeeds
    cases succeeds

theorem InSession.withState (inSession : InSession state session module)
    (run : ModuleState → Outcome α) : withState state run = run module := by
  rw [Pkcs11.withState, inSession.state_eq, Option.filter_some, if_pos inSession.initialized]

theorem InSession.withSession (inSession : InSession state session module) (run : Outcome α) :
    module.withSession session run = run := by
  simp [ModuleState.withSession, inSession.isOpen, inSession.handle]

namespace Sample

open Transparent

def rawKeys : List RawIdentity :=
  [⟨"ed25519", String.ofList (toBase64 (List.replicate 32 0x11)), "alice / certification"⟩,
   ⟨"ed25519", String.ofList (toBase64 (List.replicate 32 0x22)), "bob / certification"⟩]

def identityWith (publicKey : List UInt8) (label : String) (index : Nat) : Identity :=
  ⟨publicKey, createSelfSignedCert publicKey label, label, index⟩

def twoKeysModule : ModuleState where
  initialized := true
  socketPath := "/tmp/keymaster-avatar.sock"
  identities := [identityWith (List.replicate 32 0x11) "alice / certification" 0,
    identityWith (List.replicate 32 0x22) "bob / certification" 1]
  sessionOpen := true
  sessionHandle := 1
  signOp := none
  findOp := none

def twoKeys : State :=
  (cOpenSession (cInitialize (simpleCodecs []) none "/tmp/keymaster-avatar.sock"
    (.identities rawKeys)).state 0 ckfSerialSession false).state

theorem twoKeys_eq : twoKeys = some twoKeysModule := by
  have decoded : ∀ bytes, (simpleCodecs []).base64Decode (String.ofList (toBase64 bytes)) = .ok bytes :=
    simpleCodecs_lossless []
  have listed : identitiesOf (simpleCodecs []) rawKeys = twoKeysModule.identities := by
    simp [identitiesOf, rawKeys, identityOf, decoded, twoKeysModule, identityWith, List.zipIdx]
  rw [twoKeys, cInitialize]
  simp [listed]
  rfl

theorem twoKeys_inSession : InSession twoKeys 1 twoKeysModule :=
  ⟨twoKeys_eq, rfl, rfl, rfl⟩

end Sample

end KeyMaster.Pkcs11

import KeyMaster.Pkcs11.Functions
import KeyMaster.Pkcs11.Search

namespace KeyMaster.Pkcs11

open Data

/-! The token as an application sees it, and that the module is that token. -/

/-- A session on a token with these keys. -/
structure Session (keys : List Identity) where
  /-- The key that is to sign. -/
  signing : Option (Fin keys.length)
  /-- The objects that the search has still to return. -/
  search : Option (List (Fin keys.length × HandleType))

inductive Token where
  | absent
  | present (keys : List Identity) (session : Option (Session keys))

namespace Token

variable {keys : List Identity}

def objectHandle (object : Fin keys.length × HandleType) : Nat := object.2.handle object.1

/-- The object behind a handle. -/
def object? (keys : List Identity) (handle : Nat) : Option (Fin keys.length × HandleType) :=
  (handleToIdentityIndex handle).bind fun decoded =>
    if bound : decoded.1 < keys.length then some (⟨decoded.1, bound⟩, decoded.2) else none

def objects (keys : List Identity) (template : Option (List Attribute)) :
    List (Fin keys.length × HandleType) :=
  (List.finRange keys.length).flatMap fun index => (wantedKinds template).map fun kind => (index, kind)

def done : Reply := ⟨.ok, .nothing⟩

/-- Run in the session, whose handle is always `1`. -/
def within (session : Option (Session keys)) (handle : Nat)
    (run : Session keys → Reply × Option (Session keys)) : Reply × Option (Session keys) :=
  match session with
  | some opened => if handle = 1 then run opened else (refusal .sessionHandleInvalid, session)
  | none => (refusal .sessionHandleInvalid, none)

/-- A call that leaves the keys as they are. -/
def sessionCall (session : Option (Session keys)) : Call → Reply × Option (Session keys)
  | .initializeModule _ _ => (refusal .cryptokiAlreadyInitialized, session)
  | .finalize => (done, none)
  | .openSession slotId flags sessionNull =>
      if slotId ≠ 0 then (refusal .slotIdInvalid, session)
      else if sessionNull then (refusal .argumentsBad, session)
      else if flags &&& ckfSerialSession = 0 then (refusal .generalError, session)
      else (⟨.ok, .session 1⟩, some (session.getD ⟨none, none⟩))
  | .closeSession handle => within session handle fun _ => (done, none)
  | .closeAllSessions slotId =>
      if slotId ≠ 0 then (refusal .slotIdInvalid, session) else (done, none)
  | .findObjectsInit handle template =>
      within session handle fun opened =>
        (done, some { opened with search := some (objects keys template) })
  | .findObjects handle objectsNull maxCount countNull =>
      if objectsNull || countNull then (refusal .argumentsBad, session)
      else within session handle fun opened =>
        match opened.search with
        | none => (refusal .operationNotInitialized, session)
        | some left =>
            (⟨.ok, .handles ((left.take maxCount).map objectHandle) (min left.length maxCount)⟩,
              some { opened with search := some (left.drop maxCount) })
  | .findObjectsFinal handle =>
      within session handle fun opened => (done, some { opened with search := none })
  | .signInit handle mechanism key =>
      match mechanism with
      | none => (refusal .argumentsBad, session)
      | some mechType =>
          within session handle fun opened =>
            match object? keys key with
            | some (index, .privateKey) =>
                if mechType ≠ ckmEddsa then (refusal .mechanismInvalid, session)
                else (done, some { opened with signing := some index })
            | _ => (refusal .objectHandleInvalid, session)
  | .sign handle call =>
      match call.data, call.signatureLen with
      | some data, some signatureLen =>
          within session handle fun opened =>
            match opened.signing with
            | none => (refusal .operationNotInitialized, session)
            | some index =>
                let request := ⟨keys[index].index, keys[index].publicKey, data⟩
                let (rv, written) := signOutside call request signatureLen
                (⟨rv, .signature written⟩, some { opened with signing := none })
      | _, _ => (refusal .argumentsBad, session)

def sessionInquiry (session : Option (Session keys)) : Inquiry → Reply
  | .getInfo infoNull => fillIn infoNull (.info {})
  | .getSlotList listNull count => listOne 0 listNull count
  | .getSlotInfo slotId infoNull => onSlot slotId (fillIn infoNull (.slotInfo {}))
  | .getTokenInfo slotId infoNull => onSlot slotId (fillIn infoNull (.tokenInfo {}))
  | .getMechanismList slotId listNull count => onSlot slotId (listOne ckmEddsa listNull count)
  | .getMechanismInfo slotId mechanism infoNull => onSlot slotId (mechanismReply mechanism infoNull)
  | .getSessionInfo handle infoNull =>
      if infoNull then refusal .argumentsBad
      else (within session handle fun _ => (⟨.ok, .sessionInfo {}⟩, session)).1
  | .login handle | .logout handle => (within session handle fun _ => (done, session)).1
  | .getAttributeValue handle object template =>
      match template with
      | none => refusal .argumentsBad
      | some attrs =>
          (within session handle fun _ =>
            match object? keys object with
            | none => (refusal .objectHandleInvalid, session)
            | some (index, kind) =>
                let (rv, filled) := fillAttributes (attributeData keys[index] index kind) .ok attrs
                (⟨rv, .attributes filled⟩, session)).1

/-- What the token answers, and what becomes of it. -/
def reply (codecs : Codecs) : Token → Request → Reply × Token
  | .absent, .call (.initializeModule _ (.identities raw)) =>
      (done, .present (identitiesOf codecs raw) none)
  | .absent, .call (.initializeModule _ _) => (refusal .deviceError, .absent)
  | .absent, _ => (refusal .cryptokiNotInitialized, .absent)
  | .present _ _, .call .finalize => (done, .absent)
  | .present keys session, .call call =>
      ((sessionCall session call).1, .present keys (sessionCall session call).2)
  | .present keys session, .inquiry inquiry => (sessionInquiry session inquiry, .present keys session)

end Token

/-! ### The module stands for the token -/

variable {keys : List Identity} {session : Option (Session keys)} {module : ModuleState} {α : Type}

/-- A module's flat fields say what the token and its session are. -/
structure Stands (session : Option (Session keys)) (module : ModuleState) : Prop where
  initialized : module.initialized = true
  identities : module.identities = keys
  isOpen : module.sessionOpen = session.isSome
  handle : module.sessionHandle = if session.isSome then 1 else ckInvalidHandle
  signOp : module.signOp = (session.bind Session.signing).map fun index =>
    ⟨HandleType.privateKey.handle index, ckmEddsa⟩
  findOp : module.findOp.map (fun op => op.handles.drop op.position) =
    (session.bind Session.search).map (List.map Token.objectHandle)

def Represents : Token → State → Prop
  | .absent, none => True
  | .present _ session, some module => Stands session module
  | _, _ => False

/-- The replies are the same, and the module goes on to stand for the token. -/
def Agrees (low : Reply × State) (high : Reply × Option (Session keys)) : Prop :=
  low.1 = high.1 ∧ ∃ module, low.2 = some module ∧ Stands high.2 module

theorem Stands.refuses (stands : Stands session module) (rv : CkRv) (write : α → Written) :
    Agrees ((module.fail rv).reply write) (refusal rv, session) :=
  ⟨rfl, module, rfl, stands⟩

theorem Stands.within (stands : Stands session module) {handle : Nat} {write : α → Written}
    {body : Outcome α} {run : Session keys → Reply × Option (Session keys)}
    (inner : ∀ opened, session = some opened → Agrees (body.reply write) (run opened)) :
    Agrees ((module.withSession handle body).reply write) (Token.within session handle run) := by
  have isOpen := stands.isOpen
  have isHandle := stands.handle
  cases isSession : session with
  | none =>
      rw [isSession] at isOpen
      rw [ModuleState.withSession, isOpen, Token.within]
      rw [isSession] at stands
      exact stands.refuses _ _
  | some opened =>
      rw [isSession] at isOpen isHandle
      rw [ModuleState.withSession, isOpen, isHandle, Token.within]
      by_cases same : handle = 1
      · rw [same]
        exact inner opened isSession
      · simp only [Option.isSome_some, Bool.not_true, Bool.false_or, if_true, bne_iff_ne, ne_eq, same,
          not_false_eq_true, if_false]
        rw [isSession] at stands
        exact stands.refuses _ _

theorem Stands.closed (stands : Stands session module) :
    Stands (none : Option (Session keys)) module.closed :=
  ⟨stands.initialized, stands.identities, rfl, rfl, rfl, rfl⟩

theorem Stands.withState (stands : Stands session module) (run : ModuleState → Outcome α) :
    withState (some module) run = run module := by
  rw [Pkcs11.withState, Option.filter_some, if_pos stands.initialized]

theorem Stands.object? (stands : Stands session module) (handle : Nat) :
    module.object? handle = (Token.object? keys handle).map fun object =>
      (object.1.val, object.2, keys[object.1]) := by
  rw [ModuleState.object?, Token.object?, stands.identities]
  cases handleToIdentityIndex handle with
  | none => rfl
  | some object =>
      obtain ⟨index, kind⟩ := object
      by_cases bound : index < keys.length
      · simp [bound]
      · simp [bound]

theorem objects_handles (keys : List Identity) (template : Option (List Attribute)) :
    (List.range keys.length).flatMap (handlesOf (wantClass template)) =
      (Token.objects keys template).map Token.objectHandle := by
  have indices : (List.finRange keys.length).map Fin.val = List.range keys.length := by
    apply List.ext_getElem <;> simp
  rw [Token.objects, List.map_flatMap, ← indices, List.flatMap_map]
  congr 1
  funext index
  rw [handlesOf_wantClass, List.map_map]
  rfl

theorem objectHandle_of_object? {handle : Nat} {object : Fin keys.length × HandleType}
    (found : Token.object? keys handle = some object) : Token.objectHandle object = handle := by
  obtain ⟨⟨index, kind⟩, decoded, bounded⟩ := Option.bind_eq_some_iff.mp found
  simp only at bounded
  split at bounded
  · cases bounded
    exact (handleToIdentityIndex_eq_some.mp decoded).symm
  · cases bounded

/-! ### The calls -/

variable {codecs : Codecs}

theorem Stands.setSign {opened : Session keys} (stands : Stands (some opened) module)
    (signing : Option (Fin keys.length)) :
    Stands (some { opened with signing })
      { module with
        signOp := signing.map fun (index : Fin keys.length) =>
          ⟨HandleType.privateKey.handle index, ckmEddsa⟩ } :=
  ⟨stands.initialized, stands.identities, stands.isOpen, stands.handle, rfl, stands.findOp⟩

theorem Stands.setFind {opened : Session keys} (stands : Stands (some opened) module)
    {search : Option (List (Fin keys.length × HandleType))} {findOp : Option FindOp}
    (find : findOp.map (fun op => op.handles.drop op.position) =
      search.map (List.map Token.objectHandle)) :
    Stands (some { opened with search }) { module with findOp } :=
  ⟨stands.initialized, stands.identities, stands.isOpen, stands.handle, stands.signOp, find⟩

theorem Stands.openSession (stands : Stands session module) (slotId flags : Nat) (sessionNull : Bool) :
    Agrees (Call.reply codecs (some module) (.openSession slotId flags sessionNull))
      (Token.sessionCall session (.openSession slotId flags sessionNull)) := by
  simp only [Call.reply, cOpenSession, stands.withState, Token.sessionCall]
  split_ifs
  · exact stands.refuses _ _
  · exact stands.refuses _ _
  · exact stands.refuses _ _
  · refine ⟨rfl, _, rfl, stands.initialized, stands.identities, rfl, rfl, ?_, ?_⟩
    · rw [stands.signOp]
      cases session <;> rfl
    · rw [stands.findOp]
      cases session <;> rfl

theorem Stands.closeAllSessions (stands : Stands session module) (slotId : Nat) :
    Agrees (Call.reply codecs (some module) (.closeAllSessions slotId))
      (Token.sessionCall session (.closeAllSessions slotId)) := by
  simp only [Call.reply, cCloseAllSessions, stands.withState, Token.sessionCall]
  split_ifs
  · exact stands.refuses _ _
  · exact ⟨rfl, _, rfl, stands.closed⟩

theorem Stands.findObjectsInit (stands : Stands session module) (handle : Nat)
    (template : Option (List Attribute)) :
    Agrees (Call.reply codecs (some module) (.findObjectsInit handle template))
      (Token.sessionCall session (.findObjectsInit handle template)) := by
  simp only [Call.reply, cFindObjectsInit, stands.withState, Token.sessionCall]
  apply stands.within
  intro opened isSession
  rw [isSession] at stands
  refine ⟨rfl, _, rfl, stands.setFind ?_⟩
  simp only [Option.map_some, List.drop_zero, stands.identities, objects_handles]

theorem take_min {α : Type} (items : List α) (count : Nat) :
    items.take (min items.length count) = items.take count :=
  List.take_eq_take_iff.mpr (by omega)

theorem drop_min {α : Type} (items : List α) (count : Nat) :
    items.drop (min items.length count) = items.drop count := by
  rcases Nat.le_total count items.length with within | beyond
  · rw [Nat.min_eq_right within]
  · rw [Nat.min_eq_left beyond, List.drop_length, List.drop_of_length_le beyond]

theorem Stands.findObjects (stands : Stands session module) (handle maxCount : Nat)
    (objectsNull countNull : Bool) :
    Agrees (Call.reply codecs (some module) (.findObjects handle objectsNull maxCount countNull))
      (Token.sessionCall session (.findObjects handle objectsNull maxCount countNull)) := by
  simp only [Call.reply, cFindObjects, stands.withState, Token.sessionCall]
  split_ifs
  · exact stands.refuses _ _
  · apply stands.within
    intro opened isSession
    rw [isSession] at stands ⊢
    have find := stands.findOp
    rw [Option.bind_some] at find
    cases search : opened.search with
    | none =>
        rw [search, Option.map_none, Option.map_eq_none_iff] at find
        rw [find]
        exact stands.refuses _ _
    | some left =>
        rw [search, Option.map_some] at find
        obtain ⟨op, isOp, isLeft⟩ := Option.map_eq_some_iff.mp find
        have size : op.handles.length - op.position = left.length := by
          rw [← List.length_drop, isLeft, List.length_map]
        rw [isOp]
        refine ⟨?_, _, rfl, stands.setFind ?_⟩
        · simp only [Outcome.reply, Option.elim_some, isLeft, size, ← List.map_take, take_min]
        · rw [Option.map_some, Option.map_some, size, List.map_drop, ← isLeft, ← List.drop_drop,
            isLeft, ← List.map_drop, drop_min, List.map_drop]

theorem Stands.findObjectsFinal (stands : Stands session module) (handle : Nat) :
    Agrees (Call.reply codecs (some module) (.findObjectsFinal handle))
      (Token.sessionCall session (.findObjectsFinal handle)) := by
  simp only [Call.reply, cFindObjectsFinal, stands.withState, Token.sessionCall]
  apply stands.within
  intro opened isSession
  rw [isSession] at stands
  exact ⟨rfl, _, rfl, stands.setFind rfl⟩

theorem Stands.closeSession (stands : Stands session module) (handle : Nat) :
    Agrees (Call.reply codecs (some module) (.closeSession handle))
      (Token.sessionCall session (.closeSession handle)) := by
  simp only [Call.reply, cCloseSession, stands.withState, Token.sessionCall]
  exact stands.within fun opened isSession => ⟨rfl, _, rfl, stands.closed⟩

theorem Stands.signInit (stands : Stands session module) (handle : Nat) (mechanism : Option Nat)
    (key : Nat) :
    Agrees (Call.reply codecs (some module) (.signInit handle mechanism key))
      (Token.sessionCall session (.signInit handle mechanism key)) := by
  simp only [Call.reply, cSignInit, stands.withState, Token.sessionCall]
  cases mechanism with
  | none => exact stands.refuses _ _
  | some mechType =>
      apply stands.within
      intro opened isSession
      rw [stands.object?]
      cases found : Token.object? keys key with
      | none => exact stands.refuses _ _
      | some object =>
          obtain ⟨index, kind⟩ := object
          have isKey := objectHandle_of_object? found
          cases kind with
          | publicKey | certificate => exact stands.refuses _ _
          | privateKey =>
              simp only [Option.map_some, ne_eq, not_true_eq_false, if_false]
              split_ifs with isEddsa
              · rw [isSession] at stands
                rw [← isKey, isEddsa]
                exact ⟨rfl, _, rfl, stands.setSign (some index)⟩
              · exact stands.refuses _ _

theorem Stands.sign (stands : Stands session module) (handle : Nat) (call : SignCall) :
    Agrees (Call.reply codecs (some module) (.sign handle call))
      (Token.sessionCall session (.sign handle call)) := by
  simp only [Call.reply, cSign, stands.withState, Token.sessionCall]
  cases call.data with
  | none => exact stands.refuses _ _
  | some data =>
      cases call.signatureLen with
      | none => exact stands.refuses _ _
      | some signatureLen =>
          apply stands.within
          intro opened isSession
          rw [isSession] at stands
          have isOp := stands.signOp
          rw [Option.bind_some] at isOp
          cases signing : opened.signing with
          | none =>
              rw [signing] at isOp
              rw [isOp, isSession]
              exact stands.refuses _ _
          | some index =>
              rw [signing] at isOp
              have isObject : module.object? (HandleType.privateKey.handle index) =
                  some (index.val, .privateKey, keys[index]) := by
                rw [stands.object?, Token.object?, handleToIdentityIndex_handle]
                simp
              rw [isOp]
              simp only [Option.map_some, isObject]
              exact ⟨rfl, _, rfl, stands.setSign none⟩

/-! ### The inquiries -/

/-- An inquiry is answered alike and leaves the module as it is. -/
def Answers (module : ModuleState) (low : Reply × State) (high : Reply) : Prop :=
  low = (high, some module)

theorem answers_within (stands : Stands session module) {handle : Nat} {write : α → Written}
    {body : Outcome α} {run : Session keys → Reply × Option (Session keys)}
    (inner : ∀ opened, session = some opened → Answers module (body.reply write) (run opened).1) :
    Answers module ((module.withSession handle body).reply write)
      (Token.within session handle run).1 := by
  have isOpen := stands.isOpen
  have isHandle := stands.handle
  cases isSession : session with
  | none =>
      rw [isSession] at isOpen
      rw [ModuleState.withSession, isOpen, Token.within]
      rfl
  | some opened =>
      rw [isSession] at isOpen isHandle
      rw [ModuleState.withSession, isOpen, isHandle, Token.within]
      by_cases same : handle = 1
      · rw [same]
        exact inner opened isSession
      · simp only [Option.isSome_some, Bool.not_true, Bool.false_or, if_true, bne_iff_ne, ne_eq, same,
          not_false_eq_true, if_false]
        rfl

theorem Stands.getAttributeValue (stands : Stands session module) (handle object : Nat)
    (template : Option (List Attribute)) :
    Answers module (Inquiry.reply (some module) (.getAttributeValue handle object template))
      (Token.sessionInquiry session (.getAttributeValue handle object template)) := by
  simp only [Inquiry.reply, cGetAttributeValue, stands.withState, Token.sessionInquiry]
  cases template with
  | none => rfl
  | some attrs =>
      apply answers_within stands
      intro opened isSession
      rw [stands.object?]
      cases Token.object? keys object with
      | none => rfl
      | some found => rfl

theorem Stands.inquiry (stands : Stands session module) (inquiry : Inquiry) :
    Answers module (inquiry.reply (some module)) (Token.sessionInquiry session inquiry) := by
  cases inquiry with
  | getInfo | getSlotList | getSlotInfo | getTokenInfo | getMechanismList | getMechanismInfo =>
      simp only [Inquiry.reply, cGetInfo, cGetSlotList, cGetSlotInfo, cGetTokenInfo, cGetMechanismList,
        cGetMechanismInfo, stands.withState]
      rfl
  | getSessionInfo handle infoNull =>
      simp only [Inquiry.reply, cGetSessionInfo, stands.withState, Token.sessionInquiry]
      cases infoNull with
      | true => rfl
      | false => exact answers_within stands fun _ _ => rfl
  | login handle | logout handle =>
      simp only [Inquiry.reply, cLogin, cLogout, stands.withState, Token.sessionInquiry]
      exact answers_within stands fun _ _ => rfl
  | getAttributeValue handle object template => exact stands.getAttributeValue handle object template

/-! ### Sequences of calls -/

theorem Stands.call (stands : Stands session module) {call : Call} (stays : call ≠ .finalize) :
    Agrees (call.reply codecs (some module)) (Token.sessionCall session call) := by
  cases call with
  | initializeModule socketPath listing =>
      simp only [Call.reply, cInitialize, Option.filter_some, stands.initialized, if_true,
        Option.isSome_some]
      exact ⟨rfl, _, rfl, stands⟩
  | finalize => exact absurd rfl stays
  | openSession => exact stands.openSession _ _ _
  | closeSession => exact stands.closeSession _
  | closeAllSessions => exact stands.closeAllSessions _
  | findObjectsInit => exact stands.findObjectsInit _ _
  | findObjects => exact stands.findObjects _ _ _ _
  | findObjectsFinal => exact stands.findObjectsFinal _
  | signInit => exact stands.signInit _ _ _
  | sign => exact stands.sign _ _

theorem reply_call {call : Call} (stays : call ≠ .finalize) :
    Token.reply codecs (.present keys session) (.call call) =
      ((Token.sessionCall session call).1, .present keys (Token.sessionCall session call).2) := by
  cases call with
  | finalize => exact absurd rfl stays
  | _ => rfl

theorem reply_absent (request : Request) :
    (request.reply codecs none).1 = (Token.reply codecs .absent request).1 ∧
      Represents (Token.reply codecs .absent request).2 (request.reply codecs none).2 := by
  cases request with
  | inquiry inquiry => cases inquiry <;> exact ⟨rfl, trivial⟩
  | call call =>
      cases call with
      | initializeModule socketPath listing =>
          cases listing with
          | connectFailed | requestFailed => exact ⟨rfl, trivial⟩
          | identities raw => exact ⟨rfl, rfl, rfl, rfl, rfl, rfl, rfl⟩
      | _ => exact ⟨rfl, trivial⟩

theorem Stands.reply (stands : Stands session module) (request : Request) :
    (request.reply codecs (some module)).1 =
        (Token.reply codecs (.present keys session) request).1 ∧
      Represents (Token.reply codecs (.present keys session) request).2
        (request.reply codecs (some module)).2 := by
  cases request with
  | inquiry inquiry =>
      have answers := stands.inquiry inquiry
      rw [Answers] at answers
      rw [Request.reply, answers]
      exact ⟨rfl, stands⟩
  | call call =>
      by_cases stays : call = .finalize
      · rw [stays]
        simp only [Request.reply, Call.reply, cFinalize, stands.withState]
        exact ⟨rfl, trivial⟩
      · have agrees : Agrees (call.reply codecs (some module)) (Token.sessionCall session call) :=
          stands.call stays
        obtain ⟨same, after, isAfter, next⟩ := agrees
        rw [reply_call stays, Request.reply, isAfter]
        exact ⟨same, next⟩

theorem represented_reply (token : Token) (state : State) (represents : Represents token state)
    (request : Request) :
    (request.reply codecs state).1 = (token.reply codecs request).1 ∧
      Represents (token.reply codecs request).2 (request.reply codecs state).2 := by
  cases token with
  | absent =>
      cases state with
      | none => exact reply_absent request
      | some module => exact represents.elim
  | present keys session =>
      cases state with
      | none => exact represents.elim
      | some module => exact Stands.reply represents request

/-- To every sequence of calls the module replies what the token does. -/
theorem replies_eq_token (codecs : Codecs) (requests : List Request) :
    replies codecs none requests = outputs (Token.reply codecs) .absent requests := by
  have start : Represents .absent none := trivial
  exact outputs_eq Represents represented_reply start requests

end KeyMaster.Pkcs11

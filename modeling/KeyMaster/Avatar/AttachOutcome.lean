import KeyMaster.Avatar.Turns

namespace KeyMaster

open Data LoopState

/-! How an attach ends, and what its end says about the session table. -/

variable {C : Crates} {config : Config C}

def Action.isSuccess : Action C → Bool
  | .sendResponse sent => sent.response.result.isSome
  | _ => false

def Succeeds (actions : List (Action C)) : Prop := actions.any Action.isSuccess = true

instance (actions : List (Action C)) : Decidable (Succeeds actions) :=
  inferInstanceAs (Decidable (_ = true))

def Action.isCreate : Action C → Bool
  | .evictAndCreate .. => true
  | _ => false

/-- The handler answers with success or creates a session. -/
def TakesEffect (actions : List (Action C)) : Prop :=
  Succeeds actions ∨ actions.any Action.isCreate = true

structure Turn.Attaches (config : Config C) (turn : Turn C) (msg : JsonRpcMessage) : Prop where
  protocol : turn.event.kind = protocolKind
  attach : readEvent config turn.table turn.event = .attach msg

def Incoming.attachMessage : Incoming → JsonRpcMessage
  | .attach msg => msg
  | _ => { jsonrpc := "", method := none, params := .null, result := none, error := none, id := none }

def Incoming.isAttach : Incoming → Bool
  | .attach _ => true
  | _ => false

theorem attaches_of_isAttach {config : Config C} {turn : Turn C}
    (protocol : turn.event.kind = protocolKind)
    (attach : (readEvent config turn.table turn.event).isAttach = true) :
    turn.Attaches config (readEvent config turn.table turn.event).attachMessage := by
  refine ⟨protocol, ?_⟩
  cases incoming : readEvent config turn.table turn.event with
  | attach msg => rfl
  | response | detach | unknownMethod | ignored => simp [incoming, Incoming.isAttach] at attach

def Derivable (config : Config C) (event : Event C) (params : Value) : Prop :=
  ∀ service ∈ attachServices params,
    (deriveChannel C config.loginXpriv (attachRealmXpub C params) event.pubkey service).isSome

variable {before : LoopState C} {turn : Turn C} {msg : JsonRpcMessage}

/-- The three ways through `handle_attach`. -/
inductive AttachPath (config : Config C) (before : LoopState C) (turn : Turn C)
    (msg : JsonRpcMessage) : Prop
  | refused {failure : AttachFailure}
      (checks : attachChecks C config (attachParams msg.params) = .error failure)
      (keeps : ∀ action ∈ before.actions config turn, action.KeepsTable)
      (fails : ¬ Succeeds (before.actions config turn))
  | acked (accepted : attachChecks C config (attachParams msg.params) = .ok ())
      (same : turn.table.realmXpubMatches turn.event.pubkey
        (attachRealmXpub C (attachParams msg.params)) = some true)
      (actions : before.actions config turn =
        sendResponse turn.io turn.event
          (acceptedResponse msg (attachServices (attachParams msg.params))))
  | created (creates : turn.Creates config msg)

theorem succeeds_sendResponse (event : Event C) (io : HandlerIo) (response : JsonRpcResponse) :
    Succeeds (sendResponse io event response) ↔ io.sendOk = true ∧ response.result.isSome := by
  rw [sendResponse]
  split <;> rename_i sends <;> simp [Succeeds, Action.isSuccess, sends]

theorem Turn.Attaches.path (attaches : turn.Attaches config msg) (before : LoopState C) :
    AttachPath config before turn msg := by
  have actions := actions_of_kind config before attaches.protocol
  rw [attaches.attach] at actions
  dsimp only [handleAttach] at actions
  cases checks : attachChecks C config (attachParams msg.params) with
  | error failure =>
      rw [checks] at actions
      cases failure with
      | rejected message =>
          refine .refused checks ?_ ?_
          · rw [actions]
            exact keepsTable_sendResponse _ _ _
          · rw [actions, succeeds_sendResponse]
            simp [rejectedResponse, JsonRpcResponse.failure]
      | invalidKey =>
          refine .refused checks ?_ ?_ <;> rw [actions] <;> simp [Succeeds]
  | ok accepted =>
      rw [checks] at actions
      cases accepted
      dsimp only at actions
      split at actions
      · rename_i same
        exact .acked checks same actions
      · rename_i changed
        exact .created ⟨attaches.protocol, attaches.attach, checks, changed⟩

theorem not_creates_of_keepsTable {actions : List (Action C)}
    (keeps : ∀ action ∈ actions, action.KeepsTable) : ¬ actions.any Action.isCreate = true := by
  intro create
  obtain ⟨action, member, isCreate⟩ := List.any_eq_true.mp create
  have kept := keeps action member
  cases action with
  | evictAndCreate => exact kept
  | _ => cases isCreate

theorem not_takesEffect_of_refused {actions : List (Action C)}
    (keeps : ∀ action ∈ actions, action.KeepsTable) (fails : ¬ Succeeds actions) :
    ¬ TakesEffect actions := by
  rintro (success | create)
  · exact fails success
  · exact not_creates_of_keepsTable keeps create

theorem succeeds_of_creates (creates : turn.Creates config msg) :
    Succeeds (before.actions config turn) ↔
      Derivable config turn.event (attachParams msg.params) ∧ turn.io.sendOk = true := by
  have silent : ∀ action ∈ createUserSocket config turn.io (before.turn + 1) turn.event.id
      (attachIdentity (attachParams msg.params)), action.isSuccess = false := by
    intro action member
    obtain ⟨_, _, _, _, rfl | rfl | rfl | rfl | rfl⟩ := mem_createUserSocket member <;> rfl
  have channels : ∀ action ∈ (attachChannels config turn.event (attachParams msg.params)).1.map
      (Action.addServiceChannel turn.event.id), action.isSuccess = false := by
    intro action member
    obtain ⟨channel, _, rfl⟩ := List.mem_map.mp member
    rfl
  rw [actions_of_creates creates, establishSession_eq, Derivable, ← deriveChannels_complete,
    ← attachChannels]
  have response := succeeds_sendResponse turn.event turn.io
    (acceptedResponse msg (attachServices (attachParams msg.params)))
  unfold Succeeds at response ⊢
  rw [List.any_cons, List.any_append, List.any_eq_false.mpr fun action member => by
    simp [channels action member]]
  split
  · rename_i complete
    rw [List.any_append, List.any_eq_false.mpr fun action member => by
      simp [silent action member]]
    simp only [openAction, Action.isSuccess, Bool.false_or, response, complete, true_and]
    simp [acceptedResponse, JsonRpcResponse.success]
  · rename_i incomplete
    simp [openAction, Action.isSuccess, incomplete]

/-! ### All or nothing -/

/-- The turn left the session table as it was and signalled nobody. -/
structure Untouched (turn : Turn C) (before after : LoopState C) : Prop where
  table : after.mgr = turn.table
  signalled : after.signalled = before.signalled
  dropped : after.dropped = before.dropped

theorem Turn.Creates.changes (creates : turn.Creates config msg) (valid : turn.table.Valid) :
    (before.handle config turn).mgr ≠ turn.table := by
  intro same
  have held := (handle_of_creates before valid creates).held
  rw [same] at held
  exact creates.changed (valid.realmXpubMatches_eq_some_true.mpr
    ⟨_, _, held, buildingSession_pubkey, buildingSession_realmXpub⟩)

/-- An attach that does not succeed leaves the table alone exactly when it is
rejected by the checks, is acked by the fast path, or asks for services that
can all be derived. -/
theorem attach_all_or_nothing_iff (reachable : Reachable (Step config) new before)
    (order : before.mgr.SameContents turn.table) (attaches : turn.Attaches config msg)
    (sends : turn.io.sendOk = true) :
    (¬ Succeeds (before.actions config turn) →
        Untouched turn before (before.handle config turn)) ↔
      (attachChecks C config (attachParams msg.params) ≠ .ok () ∨
        turn.table.realmXpubMatches turn.event.pubkey
          (attachRealmXpub C (attachParams msg.params)) = some true ∨
        Derivable config turn.event (attachParams msg.params)) := by
  have valid := order.valid (Reachable.valid reachable)
  have untouched : (∀ action ∈ before.actions config turn, action.KeepsTable) →
      Untouched turn before (before.handle config turn) := by
    intro keeps
    obtain ⟨table, signalled, dropped⟩ := handle_keepsTable keeps
    exact ⟨table, signalled, dropped⟩
  cases attaches.path before with
  | refused checks keeps fails =>
      exact ⟨fun _ => .inl (by simp [checks]), fun _ _ => untouched keeps⟩
  | acked accepted same actions =>
      refine ⟨fun _ => .inr (.inl same), fun _ _ => untouched ?_⟩
      rw [actions]
      exact keepsTable_sendResponse _ _ _
  | created creates =>
      rw [succeeds_of_creates creates]
      constructor
      · intro property
        by_contra none
        simp only [not_or] at none
        have kept := property (fun success => none.2.2 success.1)
        exact creates.changes valid kept.table
      · rintro (refused | same | derivable) fails
        · exact absurd creates.accepted refused
        · exact absurd same creates.changed
        · exact absurd ⟨derivable, sends⟩ fails

/-! ### A failed re-attach

A KeyMaster is attached and attaches again with a realm xpub and two services,
the second of which has a hardened `seq`.
-/

namespace Transparent

def evictingTexts : List (String × Value) :=
  [("attach", request "attach" [("services", .array [.string "ssh"])]),
   ("attach again", request "attach"
     [("connector", .object [("realm_xpub", .string "7")]),
      ("services", .array [service "ssh" 0, service "gpg" (2 ^ 31)])])]

def attachedState : LoopState (crates evictingTexts) :=
  replayed (avatar evictingTexts) new [(event 10 2 "attach", io)]

def evictingTurn : Turn (crates evictingTexts) := attachedState.next (event 11 2 "attach again", io)

def evictingMessage : JsonRpcMessage :=
  (readEvent (avatar evictingTexts) evictingTurn.table evictingTurn.event).attachMessage

end Transparent

open Transparent in
theorem failed_attach_evicts :
    Reachable (Step (avatar evictingTexts)) new attachedState ∧
      attachedState.mgr.SameContents evictingTurn.table ∧
      evictingTurn.Attaches (avatar evictingTexts) evictingMessage ∧
      evictingTurn.io.sendOk = true ∧
      ¬ Succeeds (attachedState.actions (avatar evictingTexts) evictingTurn) ∧
      (attachedState.mgr.sessions.lookup 10).isSome = true ∧
      ((attachedState.handle (avatar evictingTexts) evictingTurn).mgr.sessions.lookup 10).isSome =
        false ∧
      ¬ Untouched evictingTurn attachedState
        (attachedState.handle (avatar evictingTexts) evictingTurn) := by
  have evicted : ((attachedState.handle (avatar evictingTexts) evictingTurn).mgr.sessions.lookup
      10).isSome = false := by decide
  have held : (attachedState.mgr.sessions.lookup 10).isSome = true := by decide
  refine ⟨replayed_reachable _, .refl _, attaches_of_isAttach rfl (by decide), rfl, by decide, held,
    evicted, ?_⟩
  intro untouched
  rw [untouched.table] at evicted
  exact absurd (held.symm.trans evicted) (by decide)

open Transparent in
/-- It is the hardened `seq` that keeps the failed attach from being all or nothing. -/
theorem failed_attach_not_derivable :
    ¬ (¬ Succeeds (attachedState.actions (avatar evictingTexts) evictingTurn) →
      Untouched evictingTurn attachedState
        (attachedState.handle (avatar evictingTexts) evictingTurn)) := by
  have attaches : evictingTurn.Attaches (avatar evictingTexts) evictingMessage :=
    attaches_of_isAttach rfl (by decide)
  have condition := attach_all_or_nothing_iff
    (show Reachable _ new attachedState from replayed_reachable _) (.refl _) attaches rfl
  rw [condition]
  rintro (refused | acked | derivable)
  · exact refused (by decide)
  · exact absurd acked (by decide)
  · have hardened := derivable ("gpg", 2 ^ 31) (by decide)
    exact absurd hardened (by decide)

end KeyMaster

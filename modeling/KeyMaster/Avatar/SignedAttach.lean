import KeyMaster.Avatar.AttachOutcome

namespace KeyMaster

open Data LoopState

/-! What a signed attach binds the session to. -/

variable {C : Crates} {config : Config C}

def connectorRealmXpub (C : Crates) (connector : Value) : Option C.Xpub :=
  (connectorStr connector "realm_xpub").bind C.xpubFromStr

/-- The action uses the given identity and realm xpub and no others: for the
session it creates, for the channels it adds, and for the API socket. -/
def Action.Uses (config : Config C) (kmPubkey : C.PublicKey) (identity : String)
    (realmXpub : Option C.Xpub) : Action C → Prop
  | .evictAndCreate _ _ _ stored realm _ => stored = identity ∧ realm = realmXpub
  | .addServiceChannel _ channel => ∃ seq,
      deriveServiceKeys C config.loginXpriv channel.serviceType seq =
        some channel.serviceAvatarKeys ∧
      kmChannelPubkey C realmXpub kmPubkey channel.serviceType seq = some channel.kmServicePubkey
  | .removeSocketFile path | .bindSocket path _ => ∃ map user, config.userMap = some map ∧
      map.lookup identity = some user ∧ path = socketPath user.uid
  | .spawnListener _ scope => scope = identity
  | _ => True

theorem uses_sendResponse (kmPubkey : C.PublicKey) (identity : String)
    (realmXpub : Option C.Xpub) (io : HandlerIo) (event : Event C) (response : JsonRpcResponse) :
    ∀ action ∈ sendResponse io event response, action.Uses config kmPubkey identity realmXpub := by
  intro action member
  unfold sendResponse at member
  split at member
  · rw [List.mem_singleton.mp member]
    trivial
  · cases member

theorem uses_establishSession (io : HandlerIo) (turn : Nat) (event : Event C)
    (msg : JsonRpcMessage) (params : Value) :
    ∀ action ∈ establishSession config io turn event msg params,
      action.Uses config event.pubkey (attachIdentity params) (attachRealmXpub C params) := by
  intro action member
  rcases mem_establishSession member with rfl | ⟨channel, derived, rfl⟩ | socket | response
  · exact ⟨rfl, rfl⟩
  · obtain ⟨service, _, found⟩ := mem_deriveChannels derived
    obtain ⟨sameType, _, keys, pubkey⟩ := deriveChannel_eq_some.mp found
    exact ⟨service.2.toNat, by rwa [sameType], by rwa [sameType]⟩
  · obtain ⟨map, user, isMap, found, rfl | rfl | rfl | rfl | rfl⟩ := mem_createUserSocket socket
    · exact ⟨map, user, isMap, found, rfl⟩
    · exact ⟨map, user, isMap, found, rfl⟩
    · rfl
    · trivial
    · trivial
  · exact uses_sendResponse _ _ _ _ _ _ action response

variable {before : LoopState C} {turn : Turn C} {msg : JsonRpcMessage}

/-- What an effective attach with a signed connector is bound to: the identity
`npub` that signed the connector, and the connector's realm xpub. -/
structure BoundTo (config : Config C) (before : LoopState C) (turn : Turn C)
    (connector : Value) (sigHex npub : String) : Prop where
  signed : SignedConnector C connector sigHex npub
  uses : ∀ action ∈ before.actions config turn,
    action.Uses config turn.event.pubkey npub (connectorRealmXpub C connector)
  allowed : config.allowlist ≠ [] → npub ∈ config.allowlist
  loginXpub : ∀ text, connectorStr connector "login_xpub" = some text →
    text = C.xpubToString config.loginXpub
  realmXpub : ∀ sessionId session,
    (before.handle config turn).mgr.sessions.lookup sessionId = some session →
    session.keymasterPubkey = turn.event.pubkey →
    session.realmXpub = connectorRealmXpub C connector
  identity : (before.actions config turn).any Action.isCreate = true → ∀ sessionId session,
    (before.handle config turn).mgr.sessions.lookup sessionId = some session →
    session.keymasterPubkey = turn.event.pubkey → session.identity = npub

/-- An attach with a connector and a signature string that is answered with
success or creates a session is bound to the identity that signed the connector. -/
theorem signed_attach_binds (reachable : Reachable (Step config) new before)
    (order : before.mgr.SameContents turn.table) (attaches : turn.Attaches config msg)
    {connector : Value} {sigHex : String}
    (present : (attachParams msg.params).get "connector" = some connector)
    (signature : connectorStr (attachParams msg.params) "connector_sig" = some sigHex)
    (effective : TakesEffect (before.actions config turn)) :
    ∃ npub, BoundTo config before turn connector sigHex npub := by
  have valid := order.valid (Reachable.valid reachable)
  have accepted : attachChecks C config (attachParams msg.params) = .ok () := by
    cases attaches.path before with
    | refused _ keeps fails => exact absurd effective (not_takesEffect_of_refused keeps fails)
    | acked accepted => exact accepted
    | created creates => exact creates.accepted
  obtain ⟨verified, allowed⟩ := attachChecks_ok accepted
  obtain ⟨⟨npub, signed⟩, loginXpub⟩ := verifyConnector_ok verified present signature
  -- The handler's own lookups of the identity and the realm xpub find the connector's.
  have isIdentity : attachIdentity (attachParams msg.params) = npub := by
    simp only [attachIdentity, present, Option.bind_some, signed.1, Option.some_or,
      Option.getD_some]
  have isRealm : attachRealmXpub C (attachParams msg.params) = connectorRealmXpub C connector := by
    simp only [attachRealmXpub, present, Option.bind_some, connectorRealmXpub]
  rw [isIdentity] at allowed
  refine ⟨npub, ?_⟩
  cases attaches.path before with
  | refused _ keeps fails => exact absurd effective (not_takesEffect_of_refused keeps fails)
  | acked _ same actions =>
      have keeps : ∀ action ∈ before.actions config turn, action.KeepsTable := by
        rw [actions]
        exact keepsTable_sendResponse _ _ _
      refine ⟨signed, ?_, allowed, loginXpub, ?_,
        fun creates => absurd creates (not_creates_of_keepsTable keeps)⟩
      · rw [actions]
        exact uses_sendResponse _ _ _ _ _ _
      · intro sessionId session found owner
        rw [(handle_keepsTable keeps).1] at found
        obtain ⟨other, stored, lookup, samePubkey, sameRealm⟩ :=
          valid.realmXpubMatches_eq_some_true.mp same
        have isStored := valid.unique found lookup (owner.trans samePubkey.symm)
        subst isStored
        rw [found] at lookup
        cases lookup
        rw [sameRealm, isRealm]
  | created creates =>
      have built : ∀ {sessionId session},
          (before.handle config turn).mgr.sessions.lookup sessionId = some session →
          session.keymasterPubkey = turn.event.pubkey →
          session = builtSession config before turn msg := fun found owner =>
        (handle_of_creates before valid creates).of_pubkey found
          (owner.trans buildingSession_pubkey.symm)
      refine ⟨signed, ?_, allowed, loginXpub, ?_, ?_⟩
      · rw [actions_of_creates creates, ← isIdentity, ← isRealm]
        exact uses_establishSession _ _ _ _ _
      · intro sessionId session found owner
        rw [built found owner, builtSession, buildingSession_realmXpub, isRealm]
      · intro _ sessionId session found owner
        rw [built found owner, builtSession, buildingSession_identity, isIdentity]

/-! ### A signed attach -/

namespace Transparent

def signerNpub : String := "0000000000000000000000000000000000000000000000000000000000000005"

def signedConnector : Value :=
  .object [("identity_npub", .string signerNpub), ("realm_xpub", .string "7")]

def connectorSig : String :=
  "007b226964656e746974795f6e707562223a2230303030303030303030303030" ++ signerNpub

def signedTexts : List (String × Value) :=
  [("signed attach", request "attach"
    [("connector", signedConnector), ("connector_sig", .string connectorSig),
     ("identity", .string "somebody else"), ("services", .array [.string "ssh"])])]

def signedTurn : Turn (crates signedTexts) := new.next (event 10 2 "signed attach", io)

end Transparent

open Transparent in
theorem signed_attach_binds_signer :
    ∃ npub, BoundTo (avatar signedTexts) new signedTurn signedConnector connectorSig npub := by
  have attaches : signedTurn.Attaches (avatar signedTexts) _ :=
    attaches_of_isAttach rfl (by decide)
  have present : (attachParams (readEvent (avatar signedTexts) signedTurn.table
      signedTurn.event).attachMessage.params).get "connector" = some signedConnector := by
    rfl
  have signature : connectorStr (attachParams (readEvent (avatar signedTexts) signedTurn.table
      signedTurn.event).attachMessage.params) "connector_sig" = some connectorSig := by
    decide
  have effective : Succeeds (LoopState.actions (avatar signedTexts) new signedTurn) := by
    decide +kernel
  exact signed_attach_binds (replayed_reachable []) (.refl _) attaches present signature
    (.inl effective)

end KeyMaster

import KeyMaster.Avatar.Handlers
import KeyMaster.Data.Runs

namespace KeyMaster

open Data

/-! What one turn of the event loop does, and what holds over whole runs. -/

variable {C : Crates} {config : Config C}

/-- The turn's event is an attach that passes the checks and is not answered
by the fast path, so that a session is created for it. -/
structure Turn.Creates (config : Config C) (turn : Turn C) (msg : JsonRpcMessage) : Prop where
  protocol : turn.event.kind = protocolKind
  attach : readEvent config turn.table turn.event = .attach msg
  accepted : attachChecks C config (attachParams msg.params) = .ok ()
  changed : turn.table.realmXpubMatches turn.event.pubkey
    (attachRealmXpub C (attachParams msg.params)) ≠ some true

def Turn.Detaches (config : Config C) (turn : Turn C) : Prop :=
  turn.event.kind = protocolKind ∧ readEvent config turn.table turn.event = .detach

namespace LoopState

variable {state before reached : LoopState C} {turn : Turn C}

/-- How far a turn has changed the session table. -/
inductive Stage (config : Config C) (before : LoopState C) (turn : Turn C)
    (reached : LoopState C) : Prop
  | unchanged (table : reached.mgr = turn.table) (signalled : reached.signalled = before.signalled)
  | detached {sessionId : C.EventId} {session : RootSession C} (detaches : turn.Detaches config)
      (found : turn.table.sessions.lookup sessionId = some session)
      (owner : session.keymasterPubkey = turn.event.pubkey)
      (table : reached.mgr = (turn.table.removeSession sessionId).1)
      (signalled : reached.signalled = before.signalled ++ session.senders)
  | attaching {msg : JsonRpcMessage} {added : List (ServiceChannel C)} {api : Option Sender}
      (creates : turn.Creates config msg)
      (derived : added <+: (attachChannels config turn.event (attachParams msg.params)).1)
      (isApi : api = none ∨ api = attachSender config turn.io (before.turn + 1) turn.event
        (attachParams msg.params))
      (signalled : reached.signalled = ((before.begin turn).evict turn.event.pubkey).signalled)
      (table : SessionManager.Replaced turn.table reached.mgr
        (buildingSession (before.turn + 1) turn.event (attachParams msg.params) added api))

theorem Stage.of_keepsTable
    (keeps : ∀ action ∈ before.actions config turn, action.KeepsTable)
    (member : reached ∈ before.during config turn) : Stage config before turn reached := by
  obtain ⟨table, signalled, _⟩ := passed_keepsTable keeps member
  exact .unchanged table signalled

theorem actions_of_kind (config : Config C) (before : LoopState C)
    (protocol : turn.event.kind = protocolKind) :
    before.actions config turn =
      match readEvent config turn.table turn.event with
      | .response plaintext => handleResponse turn.event plaintext
      | .attach msg => handleAttach config turn.table turn.io (before.turn + 1) turn.event msg
      | .detach => handleDetach turn.table turn.io turn.event
      | .unknownMethod msg => unknownMethod turn.io turn.event msg
      | .ignored => [] := by
  unfold actions handleEvent
  exact if_pos protocol

theorem actions_of_creates {msg : JsonRpcMessage} (creates : turn.Creates config msg) :
    before.actions config turn =
      establishSession config turn.io (before.turn + 1) turn.event msg (attachParams msg.params) := by
  simp only [actions_of_kind config before creates.protocol, creates.attach, handleAttach, creates.accepted,
    if_neg creates.changed]

theorem actions_of_detaches (detaches : turn.Detaches config) :
    before.actions config turn = handleDetach turn.table turn.io turn.event := by
  rw [actions_of_kind config before detaches.1, detaches.2]

/-- What the handler of a turn's event comes down to. -/
inductive Handles (config : Config C) (before : LoopState C) (turn : Turn C) : Prop
  | creates {msg : JsonRpcMessage} (creates : turn.Creates config msg)
  | detaches (detaches : turn.Detaches config)
  | responds {plaintext : String}
      (incoming : readEvent config turn.table turn.event = .response plaintext)
      (actions : before.actions config turn = handleResponse turn.event plaintext)
  | answers (actions : ∀ action ∈ before.actions config turn, ∃ sent, action = .sendResponse sent)

theorem handles (config : Config C) (before : LoopState C) (turn : Turn C) :
    Handles config before turn := by
  by_cases protocol : turn.event.kind = protocolKind
  · have whole := actions_of_kind config before protocol
    cases incoming : readEvent config turn.table turn.event with
    | response plaintext =>
        rw [incoming] at whole
        exact .responds incoming whole
    | detach => exact .detaches ⟨protocol, incoming⟩
    | unknownMethod msg =>
        rw [incoming] at whole
        exact .answers (whole ▸ fun _ => mem_sendResponse)
    | ignored =>
        rw [incoming] at whole
        exact .answers (whole ▸ fun _ member => nomatch member)
    | attach msg =>
        simp only [incoming, handleAttach] at whole
        cases checks : attachChecks C config (attachParams msg.params) with
        | error failure =>
            rw [checks] at whole
            cases failure with
            | rejected message => exact .answers (whole ▸ fun _ => mem_sendResponse)
            | invalidKey => exact .answers (whole ▸ fun _ member => nomatch member)
        | ok accepted =>
            simp only [checks] at whole
            split at whole
            · exact .answers (whole ▸ fun _ => mem_sendResponse)
            · rename_i changed
              exact .creates ⟨protocol, incoming, checks, changed⟩
  · refine .answers fun action member => ?_
    rw [actions, handleEvent, if_neg protocol] at member
    cases member

theorem passed_handleDetach (valid : turn.table.Valid) (detaches : turn.Detaches config)
    (member : reached ∈ (before.begin turn).passed (handleDetach turn.table turn.io turn.event)) :
    Stage config before turn reached := by
  unfold handleDetach at member
  cases search : turn.table.findSessionByKmPubkey turn.event.pubkey with
  | none =>
      rw [search] at member
      obtain ⟨table, signalled, _⟩ :=
        passed_keepsTable (keepsTable_sendResponse _ _ _) member
      exact .unchanged table signalled
  | some sessionId =>
      rw [search] at member
      obtain ⟨session, found, owner⟩ := valid.findSessionByKmPubkey_eq_some.mp search
      have signal : ((before.begin turn).perform (.removeSession sessionId)).signalled =
          before.signalled ++ session.senders := by
        change before.signalled ++ (turn.table.removeSession sessionId).2 = _
        rw [SessionManager.removeSession, found, Option.elim_some]
      rcases mem_passed_cons.mp member with rfl | removed
      · exact .unchanged rfl rfl
      · obtain ⟨table, signalled, _⟩ :=
          passed_keepsTable (keepsTable_sendResponse _ _ _) removed
        exact .detached detaches found owner table (signalled.trans signal)

theorem during_stage (valid : turn.table.Valid) (member : reached ∈ before.during config turn) :
    Stage config before turn reached := by
  cases handles config before turn with
  | creates creates =>
      rw [during, actions_of_creates creates] at member
      rcases passed_establishSession (show (before.begin turn).mgr.Valid from valid) member with
        rfl | ⟨added, api, derived, isApi, signalled, built⟩
      · exact .unchanged rfl rfl
      · exact .attaching creates derived isApi signalled built
  | detaches detaches =>
      rw [during, actions_of_detaches detaches] at member
      exact passed_handleDetach valid detaches member
  | responds _ actions =>
      exact .of_keepsTable (actions ▸ keepsTable_handleResponse _ _) member
  | answers actions =>
      refine .of_keepsTable (fun action inActions => ?_) member
      obtain ⟨sent, rfl⟩ := actions action inActions
      trivial

theorem handle_mem_during (config : Config C) (before : LoopState C) (turn : Turn C) :
    before.handle config turn ∈ before.during config turn :=
  run_mem_passed

theorem handle_keepsTable (keeps : ∀ action ∈ before.actions config turn, action.KeepsTable) :
    (before.handle config turn).mgr = turn.table ∧
      (before.handle config turn).signalled = before.signalled ∧
      (before.handle config turn).dropped = before.dropped :=
  run_keepsTable keeps (before.begin turn)

theorem Stage.valid (valid : turn.table.Valid) (stage : Stage config before turn reached) :
    reached.mgr.Valid := by
  cases stage with
  | unchanged table =>
      rw [table]
      exact valid
  | detached _ _ _ table =>
      rw [table]
      exact valid.removeSession _
  | attaching _ derived _ _ table =>
      refine table.valid valid ?_
      intro serviceType channel found
      obtain ⟨inAdded, sameType⟩ := mem_of_lookup_buildingSession found
      obtain ⟨service, _, fromService⟩ := mem_deriveChannels (derived.subset inAdded)
      rw [buildingSession_pubkey]
      exact ⟨sameType, (deriveChannel_eq_some.mp fromService).2.1⟩

/-- A session of the table during a turn is an old one or, if its KeyMaster is
the event's author, the one being built. -/
theorem Stage.origin (stage : Stage config before turn reached) {sessionId : C.EventId}
    {found : RootSession C} (lookup : reached.mgr.sessions.lookup sessionId = some found) :
    turn.table.sessions.lookup sessionId = some found ∨
      (sessionId = turn.event.id ∧ found.keymasterPubkey = turn.event.pubkey) := by
  cases stage with
  | unchanged table => exact .inl (table ▸ lookup)
  | detached _ _ _ table =>
      rw [table, SessionManager.lookup_removeSession] at lookup
      split at lookup
      · cases lookup
      · exact .inl lookup
  | attaching _ _ _ _ table =>
      rcases table.old lookup with ⟨isNew, rfl⟩ | ⟨_, old, _⟩
      · exact .inr ⟨isNew.trans buildingSession_id, buildingSession_pubkey⟩
      · exact .inl old

/-- A turn leaves the sessions of other KeyMasters alone, unless one of them
sits under the event's id. -/
theorem Stage.frame (stage : Stage config before turn reached) {sessionId : C.EventId}
    {session : RootSession C} (found : turn.table.sessions.lookup sessionId = some session)
    (other : session.keymasterPubkey ≠ turn.event.pubkey) (distinct : sessionId ≠ turn.event.id) :
    reached.mgr.sessions.lookup sessionId = some session := by
  cases stage with
  | unchanged table => rwa [table]
  | @detached removed gone _ foundGone owner table _ =>
      have different : sessionId ≠ removed := by
        rintro rfl
        rw [found] at foundGone
        cases foundGone
        exact other owner
      rw [table, SessionManager.lookup_removeSession, if_neg different]
      exact found
  | attaching _ _ _ _ table =>
      exact table.kept found (by rwa [buildingSession_id]) (by rwa [buildingSession_pubkey])

/-! ### Runs -/

theorem Step.valid {after : LoopState C} (step : Step config before turn after)
    (valid : before.mgr.Valid) : after.mgr.Valid := by
  obtain ⟨order, rfl⟩ := step
  have table := order.valid valid
  exact (during_stage table (handle_mem_during config before turn)).valid table

theorem Reachable.valid (reachable : Reachable (Step config) new state) : state.mgr.Valid :=
  Data.Reachable.invariant (fun state => state.mgr.Valid)
    (fun _ _ _ step => Step.valid step) SessionManager.valid_new reachable

structure LastCreation (config : Config C) (trace : List (Transition (LoopState C) (Turn C)))
    (kmPubkey : C.PublicKey) (creation : Transition (LoopState C) (Turn C))
    (msg : JsonRpcMessage) : Prop where
  creates : creation.label.Creates config msg
  author : creation.label.event.pubkey = kmPubkey
  last : ∃ earlier later, trace = earlier ++ creation :: later ∧
    ∀ transition ∈ later, ∀ msg, transition.label.Creates config msg →
      transition.label.event.pubkey ≠ kmPubkey

theorem LastCreation.mem {trace : List (Transition (LoopState C) (Turn C))} {kmPubkey : C.PublicKey}
    {creation : Transition (LoopState C) (Turn C)} {msg : JsonRpcMessage}
    (last : LastCreation config trace kmPubkey creation msg) : creation ∈ trace := by
  obtain ⟨earlier, later, whole, _⟩ := last.last
  rw [whole]
  exact List.mem_append_right _ List.mem_cons_self

theorem LastCreation.extend {trace : List (Transition (LoopState C) (Turn C))}
    {kmPubkey : C.PublicKey} {creation next : Transition (LoopState C) (Turn C)}
    {msg : JsonRpcMessage} (last : LastCreation config trace kmPubkey creation msg)
    (other : ∀ msg, next.label.Creates config msg → next.label.event.pubkey ≠ kmPubkey) :
    LastCreation config (trace ++ [next]) kmPubkey creation msg := by
  obtain ⟨earlier, later, whole, latest⟩ := last.last
  refine ⟨last.creates, last.author, earlier, later ++ [next], ?_, ?_⟩
  · rw [whole, List.append_assoc, List.cons_append]
  · intro transition member
    rcases List.mem_append.mp member with inLater | isNext
    · exact latest transition inLater
    · rw [List.mem_singleton.mp isNext]
      exact other

def builtSession (config : Config C) (before : LoopState C) (turn : Turn C)
    (msg : JsonRpcMessage) : RootSession C :=
  buildingSession (before.turn + 1) turn.event (attachParams msg.params)
    (attachChannels config turn.event (attachParams msg.params)).1
    (attachSender config turn.io (before.turn + 1) turn.event (attachParams msg.params))

theorem handle_of_creates (before : LoopState C) {msg : JsonRpcMessage} (valid : turn.table.Valid)
    (creates : turn.Creates config msg) :
    SessionManager.Replaced turn.table (before.handle config turn).mgr
      (builtSession config before turn msg) := by
  rw [handle, actions_of_creates creates]
  exact (run_establishSession config turn.io (before.turn + 1) turn.event msg
    (attachParams msg.params) (show (before.begin turn).mgr.Valid from valid)).2

/-- The session is what the turn built: all channels up to the first service
that could not be derived. -/
def BuiltBy (config : Config C) (creation : Transition (LoopState C) (Turn C))
    (msg : JsonRpcMessage) (session : RootSession C) : Prop :=
  session.SameContents (builtSession config creation.before creation.label msg)

/-- Every session of a run's last table is the one that the last creation for
its KeyMaster built. -/
theorem session_created {trace : List (Transition (LoopState C) (Turn C))}
    (run : Run (Step config) new trace state) :
    ∀ sessionId session, state.mgr.sessions.lookup sessionId = some session →
      ∃ creation msg, LastCreation config trace session.keymasterPubkey creation msg ∧
        creation.label.event.id = sessionId ∧ BuiltBy config creation msg session := by
  refine run.snoc_induction (motive := fun trace state => ∀ sessionId session,
    state.mgr.sessions.lookup sessionId = some session →
      ∃ creation msg, LastCreation config trace session.keymasterPubkey creation msg ∧
        creation.label.event.id = sessionId ∧ BuiltBy config creation msg session) ?_ ?_
  · intro sessionId session found
    cases found
  · intro trace before turn after ran ih step sessionId session found
    have validBefore : before.mgr.Valid := Reachable.valid ⟨trace, ran⟩
    obtain ⟨order, rfl⟩ := step
    have table := order.valid validBefore
    -- A session of the turn's table is in the table before, so it has its creation.
    have older : turn.table.sessions.lookup sessionId = some session →
        (∀ msg, turn.Creates config msg → turn.event.pubkey ≠ session.keymasterPubkey) →
        ∃ creation msg,
          LastCreation config (trace ++ [⟨before, turn, before.handle config turn⟩])
            session.keymasterPubkey creation msg ∧
          creation.label.event.id = sessionId ∧ BuiltBy config creation msg session := by
      intro inTable other
      obtain ⟨same, inBefore, contents⟩ := order.symm.lookup inTable
      obtain ⟨creation, msg, last, id, built⟩ := ih sessionId same inBefore
      rw [← contents.pubkey] at last
      exact ⟨creation, msg, last.extend other, id, contents.trans built⟩
    by_cases creating : ∃ msg, turn.Creates config msg
    · obtain ⟨msg, creates⟩ := creating
      have built := handle_of_creates before table creates
      rcases built.old found with ⟨sameId, rfl⟩ | ⟨_, inTable, other⟩
      · rw [builtSession, buildingSession_pubkey]
        refine ⟨⟨before, turn, _⟩, msg, ⟨creates, rfl, trace, [], rfl, by simp⟩, ?_, .refl _⟩
        rw [sameId, builtSession, buildingSession_id]
      · rw [builtSession, buildingSession_pubkey] at other
        exact older inTable fun _ _ => Ne.symm other
    · refine older ?_ fun msg creates => absurd ⟨msg, creates⟩ creating
      cases during_stage table (handle_mem_during config before turn) with
      | unchanged sameTable =>
          rw [sameTable] at found
          exact found
      | detached _ _ _ removed =>
          rw [removed, SessionManager.lookup_removeSession] at found
          split at found
          · cases found
          · exact found
      | attaching creates => exact absurd ⟨_, creates⟩ creating

/-- The turn that handles the event, the table iterated in the order in which
it is held. -/
def next (state : LoopState C) (input : Event C × HandlerIo) : Turn C :=
  { event := input.1, io := input.2, table := state.mgr }

def replayed (config : Config C) (state : LoopState C) : List (Event C × HandlerIo) → LoopState C
  | [] => state
  | input :: rest => replayed config (state.handle config (state.next input)) rest

def replay (config : Config C) (state : LoopState C) :
    List (Event C × HandlerIo) → List (Transition (LoopState C) (Turn C))
  | [] => []
  | input :: rest =>
      ⟨state, state.next input, state.handle config (state.next input)⟩ ::
        replay config (state.handle config (state.next input)) rest

theorem replay_run (state : LoopState C) (inputs : List (Event C × HandlerIo)) :
    Run (Step config) state (replay config state inputs) (replayed config state inputs) := by
  induction inputs generalizing state with
  | nil => exact .nil state
  | cons input rest ih => exact .cons ⟨.refl _, rfl⟩ (ih _)

theorem replayed_reachable (inputs : List (Event C × HandlerIo)) :
    Reachable (Step config) new (replayed config new inputs) :=
  ⟨_, replay_run new inputs⟩

end LoopState

/-! ### The avatar over the transparent crates -/

namespace Transparent

variable {texts : List (String × Value)}

def avatar (texts : List (String × Value)) : Config (crates texts) where
  avatarKeys := ⟨1⟩
  loginXpriv := 5
  loginXpub := 5
  allowlist := []
  userMap := none

/-- The avatar of a host whose user `1000` is mapped to the identity `default`. -/
def mappedAvatar (texts : List (String × Value)) : Config (crates texts) :=
  { avatar texts with userMap := some ((∅ : UserMap).insert "default" ⟨1000, 1000⟩) }

def io : HandlerIo := ⟨true, .started⟩

def number (value : Nat) : Value := .number (.posInt (UInt64.ofNat value))

def request (method : String) (params : List (String × Value)) : Value :=
  .object [("jsonrpc", .string "2.0"), ("method", .string method), ("params", .object params)]

def service (serviceType : String) (seq : Nat) : Value :=
  .object [("type", .string serviceType), ("seq", number seq)]

def event (id author : Nat) (text : String) : Event (crates texts) where
  id := id
  pubkey := author
  kind := protocolKind
  tags := []
  content := encrypt 1 author text

theorem decryptEvent_event (mgr : SessionManager (crates texts)) (id author : Nat) (text : String) :
    decryptEvent (avatar texts) mgr (event id author text) = some text := by
  let sent : Event (crates texts) := event id author text
  have own : (crates texts).nip44Decrypt (avatar texts).avatarKeys.secretKey sent.pubkey
      sent.content = some text := decrypt_encrypt 1 author text
  rw [decryptEvent, own, Option.some_or]

end Transparent

end KeyMaster

import KeyMaster.Avatar.SessionTable
import KeyMaster.Data.Simulation

namespace KeyMaster

open Data LoopState

/-! The session table as what each KeyMaster is attached with. -/

/-- What a KeyMaster is attached with, apart from the senders. -/
structure Attachment (C : Crates) where
  eventId : C.EventId
  services : List String
  identity : String
  realmXpub : Option C.Xpub
  channels : String → Option (ServiceChannel C)
  /-- The user's API socket was started for it. -/
  apiSocket : Bool

/-- An event as the avatar reads it. -/
structure Received (C : Crates) where
  event : Event C
  incoming : Incoming
  io : HandlerIo

variable {C : Crates} {config : Config C}

def RootSession.attachment (session : RootSession C) : Attachment C where
  eventId := session.attachedSessionEventId
  services := session.services
  identity := session.identity
  realmXpub := session.realmXpub
  channels serviceType := session.channels.lookup serviceType
  apiSocket := session.apiSocketShutdown.isSome

def SessionManager.attachment? (mgr : SessionManager C) (kmPubkey : C.PublicKey) :
    Option (Attachment C) :=
  (mgr.sessions.values.find? fun session => session.keymasterPubkey = kmPubkey).map
    RootSession.attachment

def Turn.received (config : Config C) (turn : Turn C) : Received C where
  event := turn.event
  incoming :=
    if turn.event.kind = protocolKind then readEvent config turn.table turn.event else .ignored
  io := turn.io

namespace Attachment

/-- The attachment that an accepted attach makes: the services up to the first
one that cannot be derived, and a socket only if there is none such. -/
def make (config : Config C) (event : Event C) (io : HandlerIo) (params : Value) : Attachment C where
  eventId := event.id
  services := (attachServices params).map Prod.fst
  identity := attachIdentity params
  realmXpub := attachRealmXpub C params
  channels serviceType := (attachChannels config event params).1.reverse.find? fun channel =>
    channel.serviceType = serviceType
  apiSocket := (attachChannels config event params).2 &&
    ((config.userMap.bind fun map => map.lookup (attachIdentity params)).isSome &&
      decide (io.listener = .started))

/-- What an event makes of its author's attachment. -/
def next (config : Config C) (held : Option (Attachment C)) (received : Received C) :
    Option (Attachment C) :=
  match received.incoming with
  | .attach msg =>
      let params := attachParams msg.params
      match attachChecks C config params with
      | .error _ => held
      | .ok () =>
          if held.map Attachment.realmXpub = some (attachRealmXpub C params) then held
          else some (make config received.event received.io params)
  | .detach => none
  | _ => held

end Attachment

/-! ### Tables -/

namespace SessionManager

variable {mgr left right : SessionManager C} {kmPubkey : C.PublicKey} {attachment : Attachment C}

theorem Valid.attachment?_eq_some (valid : mgr.Valid) :
    mgr.attachment? kmPubkey = some attachment ↔
      ∃ sessionId session, mgr.sessions.lookup sessionId = some session ∧
        session.keymasterPubkey = kmPubkey ∧ session.attachment = attachment := by
  have scan := fun session => HashMap.find?_values_eq_some mgr.sessions session
    (fun session => decide (session.keymasterPubkey = kmPubkey))
    (fun first second left right foundLeft foundRight isLeft isRight =>
      valid.unique foundLeft foundRight
        ((of_decide_eq_true isLeft).trans (of_decide_eq_true isRight).symm))
  simp only [attachment?, Option.map_eq_some_iff, scan, decide_eq_true_eq]
  constructor
  · rintro ⟨session, ⟨sessionId, found, owner⟩, same⟩
    exact ⟨sessionId, session, found, owner, same⟩
  · rintro ⟨sessionId, session, found, owner, same⟩
    exact ⟨session, ⟨sessionId, found, owner⟩, same⟩

theorem attachment?_eq_none (absent : ∀ sessionId session, mgr.sessions.lookup sessionId = some session →
    session.keymasterPubkey ≠ kmPubkey) : mgr.attachment? kmPubkey = none := by
  simp only [attachment?, Option.map_eq_none_iff, HashMap.find?_values_eq_none, decide_eq_false_iff_not]
  exact absent

/-- Tables with the same sessions of a KeyMaster attach it with the same. -/
theorem attachment?_congr (validLeft : left.Valid) (validRight : right.Valid)
    (forth : ∀ sessionId session, left.sessions.lookup sessionId = some session →
      session.keymasterPubkey = kmPubkey → ∃ other same, right.sessions.lookup other = some same ∧
        same.keymasterPubkey = kmPubkey ∧ same.attachment = session.attachment)
    (back : ∀ sessionId session, right.sessions.lookup sessionId = some session →
      session.keymasterPubkey = kmPubkey → ∃ other same, left.sessions.lookup other = some same ∧
        same.keymasterPubkey = kmPubkey ∧ same.attachment = session.attachment) :
    left.attachment? kmPubkey = right.attachment? kmPubkey := by
  apply Option.ext
  intro attachment
  rw [validLeft.attachment?_eq_some, validRight.attachment?_eq_some]
  constructor
  · rintro ⟨sessionId, session, found, owner, rfl⟩
    exact forth sessionId session found owner
  · rintro ⟨sessionId, session, found, owner, rfl⟩
    exact back sessionId session found owner

end SessionManager

theorem RootSession.SameContents.attachment {left right : RootSession C} (same : left.SameContents right) :
    left.attachment = right.attachment := by
  have channels : left.channels.lookup = right.channels.lookup := funext same.lookup
  have rest := same.2
  simp only [RootSession.mk.injEq, true_and] at rest
  simp only [RootSession.attachment, Attachment.mk.injEq]
  exact ⟨rest.1, rest.2.2.1, rest.2.2.2.1, rest.2.2.2.2.2.1, channels, by rw [rest.2.2.2.2.2.2.2]⟩

theorem SessionManager.SameContents.attachment? {left right : SessionManager C}
    (same : left.SameContents right) (valid : left.Valid) (kmPubkey : C.PublicKey) :
    left.attachment? kmPubkey = right.attachment? kmPubkey := by
  refine SessionManager.attachment?_congr valid (same.valid valid) ?_ ?_
  · intro sessionId session found owner
    obtain ⟨other, foundRight, contents⟩ := same.lookup found
    exact ⟨sessionId, other, foundRight, contents.pubkey.symm.trans owner, contents.attachment.symm⟩
  · intro sessionId session found owner
    obtain ⟨other, foundLeft, contents⟩ := same.symm.lookup found
    exact ⟨sessionId, other, foundLeft, contents.pubkey.symm.trans owner, contents.attachment.symm⟩

/-! ### Turns -/

variable {before : LoopState C} {turn : Turn C} {kmPubkey : C.PublicKey}

theorem realmXpubMatches_iff (mgr : SessionManager C) (realmXpub : Option C.Xpub) :
    mgr.realmXpubMatches kmPubkey realmXpub = some true ↔
      (mgr.attachment? kmPubkey).map Attachment.realmXpub = some realmXpub := by
  rw [SessionManager.realmXpubMatches, SessionManager.attachment?]
  cases mgr.sessions.values.find? fun session => session.keymasterPubkey = kmPubkey with
  | none => simp
  | some session => simp [RootSession.attachment]

theorem builtSession_attachment (before : LoopState C) (turn : Turn C) (msg : JsonRpcMessage) :
    (builtSession config before turn msg).attachment =
      .make config turn.event turn.io (attachParams msg.params) := by
  simp only [RootSession.attachment, Attachment.make, builtSession, buildingSession_id,
    buildingSession_services, buildingSession_identity, buildingSession_realmXpub, lookup_buildingSession,
    Attachment.mk.injEq, true_and]
  rw [buildingSession_eq, attachSender, socketSender]
  cases (attachChannels config turn.event (attachParams msg.params)).2 with
  | false => rfl
  | true =>
      cases config.userMap.bind fun map => map.lookup (attachIdentity (attachParams msg.params)) with
      | none => rfl
      | some user => by_cases started : turn.io.listener = .started <;> simp [started]

/-- A turn changes the attachment of its event's author only. -/
theorem handle_attachment?_of_ne (before : LoopState C) (valid : turn.table.Valid)
    (owned : ∀ session, turn.table.sessions.lookup turn.event.id = some session →
      session.keymasterPubkey = turn.event.pubkey)
    (other : turn.event.pubkey ≠ kmPubkey) :
    (before.handle config turn).mgr.attachment? kmPubkey = turn.table.attachment? kmPubkey := by
  have stage := during_stage valid (handle_mem_during config before turn)
  refine SessionManager.attachment?_congr (stage.valid valid) valid ?_ ?_
  · intro sessionId session found owner
    rcases stage.origin found with old | ⟨_, author⟩
    · exact ⟨sessionId, session, old, owner, rfl⟩
    · exact absurd (author.symm.trans owner) other
  · intro sessionId session found owner
    refine ⟨sessionId, session, stage.frame found ?_ ?_, owner, rfl⟩
    · rw [owner]
      exact Ne.symm other
    · rintro rfl
      exact other ((owned session found).symm.trans owner)

theorem handle_attachment?_of_creates (before : LoopState C) (valid : turn.table.Valid)
    {msg : JsonRpcMessage} (creates : turn.Creates config msg) :
    (before.handle config turn).mgr.attachment? turn.event.pubkey =
      some (.make config turn.event turn.io (attachParams msg.params)) := by
  have stage := during_stage valid (handle_mem_during config before turn)
  have built := handle_of_creates before valid creates
  rw [(stage.valid valid).attachment?_eq_some]
  refine ⟨_, _, built.held, ?_, builtSession_attachment before turn msg⟩
  rw [builtSession, buildingSession_pubkey]

theorem handle_attachment?_of_detaches (before : LoopState C) (valid : turn.table.Valid)
    (detaches : turn.Detaches config) :
    (before.handle config turn).mgr.attachment? turn.event.pubkey = none :=
  SessionManager.attachment?_eq_none fun _ _ => (handle_of_detaches before valid detaches).1

theorem handle_mgr_of_neither (before : LoopState C) (valid : turn.table.Valid)
    (noCreate : ∀ msg, ¬ turn.Creates config msg) (noDetach : ¬ turn.Detaches config) :
    (before.handle config turn).mgr = turn.table := by
  cases during_stage valid (handle_mem_during config before turn) with
  | unchanged table => exact table
  | detached detaches => exact absurd detaches noDetach
  | attaching creates => exact absurd creates (noCreate _)

theorem next_of_attach {msg : JsonRpcMessage} {received : Received C}
    (incoming : received.incoming = .attach msg) (held : Option (Attachment C)) :
    Attachment.next config held received =
      if attachChecks C config (attachParams msg.params) = .ok () ∧
          held.map Attachment.realmXpub ≠ some (attachRealmXpub C (attachParams msg.params)) then
        some (.make config received.event received.io (attachParams msg.params))
      else held := by
  simp only [Attachment.next, incoming]
  cases checks : attachChecks C config (attachParams msg.params) with
  | error failure => simp
  | ok accepted =>
      simp only [ne_eq, true_and, ite_not]

/-- A turn makes of its author's attachment what the author's event makes of it. -/
theorem handle_attachment?_author (before : LoopState C) (valid : turn.table.Valid) :
    (before.handle config turn).mgr.attachment? turn.event.pubkey =
      Attachment.next config (turn.table.attachment? turn.event.pubkey) (turn.received config) := by
  by_cases protocol : turn.event.kind = protocolKind
  · have incoming : (turn.received config).incoming = readEvent config turn.table turn.event :=
      if_pos protocol
    cases isRead : readEvent config turn.table turn.event with
    | detach =>
        rw [isRead] at incoming
        rw [handle_attachment?_of_detaches before valid ⟨protocol, isRead⟩, Attachment.next, incoming]
    | attach msg =>
        rw [isRead] at incoming
        rw [next_of_attach incoming]
        split
        · rename_i changes
          refine handle_attachment?_of_creates before valid ⟨protocol, isRead, changes.1, ?_⟩
          rw [ne_eq, realmXpubMatches_iff]
          exact changes.2
        · rename_i stays
          rw [@handle_mgr_of_neither C config turn before valid ?_ ?_]
          · intro other creates
            have same := creates.attach
            rw [isRead] at same
            cases same
            refine stays ⟨creates.accepted, ?_⟩
            rw [ne_eq, ← realmXpubMatches_iff]
            exact creates.changed
          · intro detaches
            have same := detaches.2
            rw [isRead] at same
            cases same
    | response _ | unknownMethod _ | ignored =>
        rw [isRead] at incoming
        rw [Attachment.next, incoming, handle_mgr_of_neither before valid ?_ ?_]
        · intro other creates
          have same := creates.attach
          rw [isRead] at same
          cases same
        · intro detaches
          have same := detaches.2
          rw [isRead] at same
          cases same
  · have incoming : (turn.received config).incoming = .ignored := if_neg protocol
    rw [Attachment.next, incoming, handle_mgr_of_neither before valid ?_ ?_]
    · exact fun _ creates => protocol creates.protocol
    · exact fun detaches => protocol detaches.1

/-! ### Runs -/

variable {trace other : List (Transition (LoopState C) (Turn C))} {final last : LoopState C}

/-- Events of one id have one author. -/
def IdsNameAuthors (trace : List (Transition (LoopState C) (Turn C))) : Prop :=
  ∀ first ∈ trace, ∀ second ∈ trace, first.label.event.id = second.label.event.id →
    first.label.event.pubkey = second.label.event.pubkey

/-- What a KeyMaster's own events are read as, in order. -/
def receivedFrom (config : Config C) (kmPubkey : C.PublicKey)
    (trace : List (Transition (LoopState C) (Turn C))) : List (Received C) :=
  (trace.filter fun transition => transition.label.event.pubkey = kmPubkey).map fun transition =>
    transition.label.received config

theorem owned_of_run (run : Run (Step config) new trace final) (named : IdsNameAuthors trace)
    {transition : Transition (LoopState C) (Turn C)} (member : transition ∈ trace) :
    ∀ session, transition.label.table.sessions.lookup transition.label.event.id = some session →
      session.keymasterPubkey = transition.label.event.pubkey := by
  intro session found
  obtain ⟨earlier, later, whole, toBefore, taken, _⟩ := run.split member
  obtain ⟨same, inBefore, contents⟩ := taken.1.symm.lookup found
  obtain ⟨creation, msg, created, sameId, _⟩ := session_created toBefore _ _ inBefore
  have inTrace : creation ∈ trace := by
    rw [whole]
    exact List.mem_append_left _ created.mem
  rw [contents.pubkey, ← created.author]
  exact named creation inTrace _ member sameId

/-- A KeyMaster is attached with what its own events, one after another, make of
no attachment. -/
theorem attachment?_eq_foldl (run : Run (Step config) new trace final) (named : IdsNameAuthors trace)
    (kmPubkey : C.PublicKey) :
    final.mgr.attachment? kmPubkey =
      (receivedFrom config kmPubkey trace).foldl (Attachment.next config) none := by
  refine run.view_eq_foldl (fun state => state.mgr.attachment? kmPubkey) ?_
  intro transition member
  obtain ⟨order, ends⟩ := run.step_of_mem member
  have validBefore : transition.before.mgr.Valid := Reachable.valid (run.reachable_before member)
  have valid := order.valid validBefore
  rw [ends, order.attachment? validBefore]
  by_cases author : transition.label.event.pubkey = kmPubkey
  · rw [if_pos (decide_eq_true author), ← author]
    exact handle_attachment?_author _ valid
  · rw [if_neg (by simp [author])]
    exact handle_attachment?_of_ne _ valid (owned_of_run run named member) author

/-! ### Isolation -/

/-- A KeyMaster's own events, with the answers to their I/O. -/
def inputsFrom (kmPubkey : C.PublicKey) (trace : List (Transition (LoopState C) (Turn C))) :
    List (Event C × HandlerIo) :=
  (trace.filter fun transition => transition.label.event.pubkey = kmPubkey).map fun transition =>
    (transition.label.event, transition.label.io)

/-- The event is encrypted to the avatar itself, not to one of its service keys. -/
def Opens (config : Config C) (event : Event C) : Prop :=
  (C.nip44Decrypt config.avatarKeys.secretKey event.pubkey event.content).isSome

theorem readEvent_of_opens {event : Event C} (opens : Opens config event) (mgr : SessionManager C) :
    readEvent config mgr event = readEvent config .new event := by
  obtain ⟨plaintext, opened⟩ := Option.isSome_iff_exists.mp opens
  rw [readEvent, readEvent, decryptEvent, decryptEvent, opened, Option.some_or, Option.some_or]

theorem receivedFrom_of_opens
    (opens : ∀ transition ∈ trace, transition.label.event.pubkey = kmPubkey →
      Opens config transition.label.event) :
    receivedFrom config kmPubkey trace =
      (inputsFrom kmPubkey trace).map fun input => Turn.received config ⟨input.1, input.2, .new⟩ := by
  rw [receivedFrom, inputsFrom, List.map_map]
  apply List.map_congr_left
  intro transition member
  obtain ⟨inTrace, author⟩ := List.mem_filter.mp member
  rw [Turn.received, readEvent_of_opens (opens transition inTrace (of_decide_eq_true author))]
  rfl

theorem opens_of_inputsFrom (same : inputsFrom kmPubkey trace = inputsFrom kmPubkey other)
    (opens : ∀ transition ∈ trace, transition.label.event.pubkey = kmPubkey →
      Opens config transition.label.event) :
    ∀ transition ∈ other, transition.label.event.pubkey = kmPubkey →
      Opens config transition.label.event := by
  intro transition member author
  have inputs : (transition.label.event, transition.label.io) ∈ inputsFrom kmPubkey other :=
    List.mem_map_of_mem (List.mem_filter.mpr ⟨member, decide_eq_true author⟩)
  rw [← same] at inputs
  obtain ⟨found, isFound, isInput⟩ := List.mem_map.mp inputs
  obtain ⟨inTrace, isAuthor⟩ := List.mem_filter.mp isFound
  rw [← (Prod.mk.inj isInput).1]
  exact opens found inTrace (of_decide_eq_true isAuthor)

/-- After any run a KeyMaster is attached with what its own events make of no
attachment.  If it encrypts them to the avatar, then whatever others send, and
in whichever order, it ends up attached with the same. -/
theorem run_attachments (run : Run (Step config) new trace final) (named : IdsNameAuthors trace)
    (kmPubkey : C.PublicKey) :
    final.mgr.attachment? kmPubkey =
        (receivedFrom config kmPubkey trace).foldl (Attachment.next config) none ∧
      ∀ other last, Run (Step config) new other last → IdsNameAuthors other →
        (∀ transition ∈ trace, transition.label.event.pubkey = kmPubkey →
          Opens config transition.label.event) →
        inputsFrom kmPubkey trace = inputsFrom kmPubkey other →
        final.mgr.attachment? kmPubkey = last.mgr.attachment? kmPubkey := by
  refine ⟨attachment?_eq_foldl run named kmPubkey, ?_⟩
  intro other last also alsoNamed opens same
  rw [attachment?_eq_foldl run named, attachment?_eq_foldl also alsoNamed, receivedFrom_of_opens opens,
    receivedFrom_of_opens (opens_of_inputsFrom same opens), same]

namespace Transparent

/-- The attach of one KeyMaster alone. -/
def aloneInputs : List (Event (crates detachTexts) × HandlerIo) := [(event 11 3 "attach", io)]

theorem opens_event (id author : Nat) (text : String) :
    Opens (avatar detachTexts) (event id author text) := by
  have opened : (crates detachTexts).nip44Decrypt (avatar detachTexts).avatarKeys.secretKey author
      (encrypt 1 author text) = some text := decrypt_encrypt 1 author text
  rw [Opens, event, opened]
  rfl

theorem opens_detachInputs : ∀ transition ∈ replay (avatar detachTexts) new detachInputs,
    Opens (avatar detachTexts) transition.label.event := by
  simp only [replay, detachInputs, List.forall_mem_cons, List.not_mem_nil, false_implies, implies_true,
    and_true]
  exact ⟨opens_event 10 2 "attach", opens_event 11 3 "attach", opens_event 12 2 "detach"⟩

end Transparent

open Transparent in
/-- The attach of another KeyMaster, and its detach, make no difference. -/
theorem detached_attachments :
    ((replayed (avatar detachTexts) new detachInputs).mgr.attachment? (3 : Nat)).map
        Attachment.eventId = some (11 : Nat) ∧
      (replayed (avatar detachTexts) new detachInputs).mgr.attachment? (3 : Nat) =
        (receivedFrom (avatar detachTexts) (3 : Nat) (replay (avatar detachTexts) new detachInputs)).foldl
          (Attachment.next (avatar detachTexts)) none ∧
      (replayed (avatar detachTexts) new detachInputs).mgr.attachment? (3 : Nat) =
        (replayed (avatar detachTexts) new aloneInputs).mgr.attachment? (3 : Nat) := by
  have named : IdsNameAuthors (replay (avatar detachTexts) new detachInputs) := by
    unfold IdsNameAuthors
    decide
  have alone : IdsNameAuthors (replay (avatar detachTexts) new aloneInputs) := by
    unfold IdsNameAuthors
    decide
  obtain ⟨folded, isolated⟩ := run_attachments (replay_run new detachInputs) named (3 : Nat)
  exact ⟨by decide, folded, isolated _ _ (replay_run new aloneInputs) alone
    (fun transition member _ => opens_detachInputs transition member) (by decide)⟩

end KeyMaster

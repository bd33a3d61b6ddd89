import KeyMaster.Avatar.EventLoop
import Mathlib.Data.List.Induction

namespace KeyMaster

open Data

/-! What the handlers do to the session table. -/

variable {C : Crates}

/-! ### Replacing a KeyMaster's session -/

namespace SessionManager

variable {before mgr : SessionManager C} {session : RootSession C}

/-- The table is the old one with `session` in place of what its KeyMaster and
its id held. -/
def Replaced (before after : SessionManager C) (session : RootSession C) : Prop :=
  ∀ sessionId found, after.sessions.lookup sessionId = some found ↔
    if sessionId = session.attachedSessionEventId then found = session
    else before.sessions.lookup sessionId = some found ∧
      found.keymasterPubkey ≠ session.keymasterPubkey

theorem Replaced.held (replaced : Replaced before mgr session) :
    mgr.sessions.lookup session.attachedSessionEventId = some session :=
  (replaced _ _).mpr (by simp)

theorem Replaced.old (replaced : Replaced before mgr session) {sessionId : C.EventId}
    {found : RootSession C} (lookup : mgr.sessions.lookup sessionId = some found) :
    (sessionId = session.attachedSessionEventId ∧ found = session) ∨
      (sessionId ≠ session.attachedSessionEventId ∧
        before.sessions.lookup sessionId = some found ∧
        found.keymasterPubkey ≠ session.keymasterPubkey) := by
  have origin := (replaced _ _).mp lookup
  split at origin
  · exact .inl ⟨‹_›, origin⟩
  · exact .inr ⟨‹_›, origin⟩

theorem Replaced.of_pubkey (replaced : Replaced before mgr session) {sessionId : C.EventId}
    {found : RootSession C} (lookup : mgr.sessions.lookup sessionId = some found)
    (owner : found.keymasterPubkey = session.keymasterPubkey) : found = session := by
  rcases replaced.old lookup with ⟨_, same⟩ | ⟨_, _, other⟩
  · exact same
  · exact absurd owner other

theorem Replaced.kept (replaced : Replaced before mgr session) {sessionId : C.EventId}
    {found : RootSession C} (lookup : before.sessions.lookup sessionId = some found)
    (different : sessionId ≠ session.attachedSessionEventId)
    (other : found.keymasterPubkey ≠ session.keymasterPubkey) :
    mgr.sessions.lookup sessionId = some found :=
  (replaced _ _).mpr (by rw [if_neg different]; exact ⟨lookup, other⟩)

theorem Replaced.valid (replaced : Replaced before mgr session) (valid : before.Valid)
    (channels : ∀ serviceType channel, session.channels.lookup serviceType = some channel →
      channel.serviceType = serviceType ∧ channel.kmRealmPubkey = session.keymasterPubkey) :
    mgr.Valid := by
  constructor
  · intro sessionId found lookup
    rcases replaced.old lookup with ⟨same, rfl⟩ | ⟨_, old, _⟩
    · exact same.symm
    · exact valid.keyed old
  · intro first second left right foundLeft foundRight same
    rcases replaced.old foundLeft with ⟨isFirst, rfl⟩ | ⟨_, oldLeft, otherLeft⟩ <;>
      rcases replaced.old foundRight with ⟨isSecond, rfl⟩ | ⟨_, oldRight, otherRight⟩
    · exact isFirst.trans isSecond.symm
    · exact absurd same.symm otherRight
    · exact absurd same otherLeft
    · exact valid.unique oldLeft oldRight same
  · intro sessionId found serviceType channel lookup inChannels
    rcases replaced.old lookup with ⟨_, rfl⟩ | ⟨_, old, _⟩
    · exact channels serviceType channel inChannels
    · exact valid.channels old inChannels

theorem Replaced.modify (replaced : Replaced before mgr session) {sessionId : C.EventId}
    (change : RootSession C → RootSession C) (isId : session.attachedSessionEventId = sessionId)
    (sameId : (change session).attachedSessionEventId = session.attachedSessionEventId)
    (samePubkey : (change session).keymasterPubkey = session.keymasterPubkey) :
    Replaced before ⟨HashMap.modify mgr.sessions sessionId change⟩ (change session) := by
  subst isId
  intro sessionId found
  rw [sameId, samePubkey, HashMap.lookup_modify_eq, replaced.held]
  split
  · exact ⟨fun same => (Option.some.inj same).symm, fun same => by rw [same]; rfl⟩
  · rename_i different
    rw [replaced sessionId found, if_neg different]

end SessionManager

/-! ### Action lists -/

namespace LoopState

variable {state : LoopState C} {actions first second : List (Action C)}

@[simp] theorem run_nil : state.run [] = state := rfl

@[simp] theorem run_cons (action : Action C) :
    state.run (action :: actions) = (state.perform action).run actions := rfl

@[simp] theorem run_append : state.run (first ++ second) = (state.run first).run second :=
  List.foldl_append

theorem mem_passed_cons {action : Action C} {reached : LoopState C} :
    reached ∈ state.passed (action :: actions) ↔
      reached = state ∨ reached ∈ (state.perform action).passed actions :=
  List.mem_cons

theorem self_mem_passed : state ∈ state.passed actions := by
  cases actions <;> exact List.mem_cons_self

theorem run_mem_passed : state.run actions ∈ state.passed actions := by
  induction actions generalizing state with
  | nil => exact List.mem_cons_self
  | cons action rest ih => exact List.mem_cons_of_mem _ ih

theorem mem_passed_append {reached : LoopState C} :
    reached ∈ state.passed (first ++ second) ↔
      reached ∈ state.passed first ∨ reached ∈ (state.run first).passed second := by
  induction first generalizing state with
  | nil =>
      constructor
      · exact .inr
      · rintro (atStart | later)
        · rw [List.mem_singleton.mp atStart]
          exact self_mem_passed
        · exact later
  | cons action rest ih =>
      rw [List.cons_append, mem_passed_cons, mem_passed_cons, ih, or_assoc]
      rfl

/-- Every state of an action list keeps what each of its actions preserves. -/
theorem passed_invariant (Inv : LoopState C → Prop)
    (preserved : ∀ action ∈ actions, ∀ state, Inv state → Inv (state.perform action))
    (initial : Inv state) {reached : LoopState C} (member : reached ∈ state.passed actions) :
    Inv reached := by
  induction actions generalizing state with
  | nil =>
      rw [List.mem_singleton.mp member]
      exact initial
  | cons action rest ih =>
      rcases mem_passed_cons.mp member with rfl | later
      · exact initial
      · exact ih (fun action inRest => preserved action (List.mem_cons_of_mem _ inRest))
          (preserved action List.mem_cons_self state initial) later

def SameTable (left right : LoopState C) : Prop :=
  left.mgr = right.mgr ∧ left.signalled = right.signalled ∧ left.dropped = right.dropped

end LoopState

def Action.KeepsTable : Action C → Prop
  | .evictAndCreate .. | .addServiceChannel .. | .removeSession _ | .setApiSocketShutdown .. => False
  | _ => True

theorem Action.KeepsTable.perform {action : Action C} (keeps : action.KeepsTable)
    (state : LoopState C) : (state.perform action).SameTable state := by
  cases action with
  | evictAndCreate | addServiceChannel | removeSession | setApiSocketShutdown => cases keeps
  | sendResponse | removeSocketFile | bindSocket | spawnListener | closeListener | takePending
  | deliver => exact ⟨rfl, rfl, rfl⟩

theorem LoopState.passed_keepsTable {state reached : LoopState C} {actions : List (Action C)}
    (keeps : ∀ action ∈ actions, action.KeepsTable) (member : reached ∈ state.passed actions) :
    reached.SameTable state :=
  passed_invariant (fun reached => reached.SameTable state)
    (fun action inActions _ same =>
      let step := (keeps action inActions).perform _
      ⟨step.1.trans same.1, step.2.1.trans same.2.1, step.2.2.trans same.2.2⟩)
    ⟨rfl, rfl, rfl⟩ member

theorem LoopState.run_keepsTable {actions : List (Action C)}
    (keeps : ∀ action ∈ actions, action.KeepsTable) (state : LoopState C) :
    (state.run actions).SameTable state :=
  passed_keepsTable keeps run_mem_passed

theorem mem_sendResponse {io : HandlerIo} {event : Event C} {response : JsonRpcResponse}
    {action : Action C} (member : action ∈ sendResponse io event response) :
    ∃ sent, action = .sendResponse sent := by
  unfold sendResponse at member
  split at member
  · exact ⟨_, List.mem_singleton.mp member⟩
  · cases member

theorem keepsTable_sendResponse (io : HandlerIo) (event : Event C) (response : JsonRpcResponse) :
    ∀ action ∈ sendResponse io event response, action.KeepsTable := by
  intro action member
  obtain ⟨sent, rfl⟩ := mem_sendResponse member
  trivial

theorem keepsTable_handleResponse (event : Event C) (plaintext : String) :
    ∀ action ∈ handleResponse event plaintext, action.KeepsTable := by
  intro action member
  unfold handleResponse at member
  split at member
  · rcases List.mem_cons.mp member with rfl | member
    · trivial
    · rw [List.mem_singleton.mp member]
      trivial
  · cases member

theorem keepsTable_startUserListener (io : HandlerIo) (turn : Nat) (user : UserEntry)
    (identity : String) :
    ∀ action ∈ startUserListener (C := C) io turn user identity, action.KeepsTable := by
  intro action member
  unfold startUserListener at member
  rcases List.mem_cons.mp member with rfl | member
  · trivial
  · split at member
    · simp only [List.mem_cons, List.not_mem_nil, or_false] at member
      rcases member with rfl | rfl <;> trivial
    · simp only [List.mem_cons, List.not_mem_nil, or_false] at member
      rcases member with rfl | rfl <;> trivial
    · cases member

/-! ### Evicting and creating -/

namespace LoopState

variable {state : LoopState C}

theorem lookup_evict (valid : state.mgr.Valid) (kmPubkey : C.PublicKey) (sessionId : C.EventId)
    (found : RootSession C) :
    (state.evict kmPubkey).mgr.sessions.lookup sessionId = some found ↔
      state.mgr.sessions.lookup sessionId = some found ∧ found.keymasterPubkey ≠ kmPubkey := by
  unfold evict
  cases search : state.mgr.findSessionByKmPubkey kmPubkey with
  | none =>
      have absent := SessionManager.findSessionByKmPubkey_eq_none.mp search
      exact ⟨fun lookup => ⟨lookup, absent sessionId found lookup⟩, And.left⟩
  | some stale =>
      obtain ⟨session, lookupStale, owner⟩ := valid.findSessionByKmPubkey_eq_some.mp search
      simp only [SessionManager.lookup_removeSession]
      constructor
      · intro lookup
        split at lookup
        · cases lookup
        · rename_i different
          refine ⟨lookup, fun same => different ?_⟩
          exact valid.unique lookup lookupStale (same.trans owner.symm)
      · rintro ⟨lookup, other⟩
        have different : sessionId ≠ stale := by
          rintro rfl
          rw [lookupStale] at lookup
          exact other (Option.some.inj lookup ▸ owner)
        rw [if_neg different]
        exact lookup

end LoopState

def openedSession (turn : Nat) (event : Event C) (params : Value) : RootSession C where
  attachedSessionEventId := event.id
  keymasterPubkey := event.pubkey
  services := (attachServices params).map Prod.fst
  identity := attachIdentity params
  altIds := []
  realmXpub := attachRealmXpub C params
  channels := ∅
  shutdown := some (.session turn)
  apiSocketShutdown := none

def RootSession.withChannels (session : RootSession C) (channels : List (ServiceChannel C)) :
    RootSession C :=
  channels.foldl RootSession.insertChannel session

def openAction (turn : Nat) (event : Event C) (params : Value) : Action C :=
  .evictAndCreate event.id event.pubkey ((attachServices params).map Prod.fst)
    (attachIdentity params) (attachRealmXpub C params) (.session turn)

theorem replaced_open {state : LoopState C} (valid : state.mgr.Valid) (turn : Nat)
    (event : Event C) (params : Value) :
    SessionManager.Replaced state.mgr (state.perform (openAction turn event params)).mgr
      (openedSession turn event params) := by
  intro sessionId found
  simp only [openAction, LoopState.perform, SessionManager.lookup_createRootSession]
  by_cases same : sessionId = (openedSession turn event params).attachedSessionEventId
  · rw [if_pos same, if_pos (show sessionId = event.id from same)]
    exact ⟨fun created => (Option.some.inj created).symm, fun created => congrArg some created.symm⟩
  · rw [if_neg same, if_neg (show sessionId ≠ event.id from same)]
    exact LoopState.lookup_evict valid event.pubkey sessionId found

/-! ### Sessions under construction -/

namespace RootSession

variable {session : RootSession C} {channels : List (ServiceChannel C)}

theorem withChannels_eq (session : RootSession C) (channels : List (ServiceChannel C)) :
    session.withChannels channels =
      { session with channels := (session.withChannels channels).channels } := by
  induction channels generalizing session with
  | nil => rfl
  | cons channel rest ih => exact ih (session.insertChannel channel)

theorem withChannels_concat (channel : ServiceChannel C) :
    session.withChannels (channels ++ [channel]) =
      (session.withChannels channels).insertChannel channel := by
  simp only [withChannels, List.foldl_append, List.foldl_cons, List.foldl_nil]

theorem lookup_insertChannel (channel : ServiceChannel C) (serviceType : String) :
    (session.insertChannel channel).channels.lookup serviceType =
      if serviceType = channel.serviceType then some channel
      else session.channels.lookup serviceType :=
  HashMap.lookup_insert_eq _ _ _ _

theorem lookup_withChannels (session : RootSession C) (channels : List (ServiceChannel C))
    (serviceType : String) :
    (session.withChannels channels).channels.lookup serviceType =
      (channels.reverse.find? fun channel => channel.serviceType = serviceType).or
        (session.channels.lookup serviceType) := by
  induction channels using List.reverseRecOn with
  | nil => rfl
  | append_singleton earlier channel ih =>
      rw [withChannels_concat, lookup_insertChannel, ih, List.reverse_append]
      simp only [List.reverse_cons, List.reverse_nil, List.nil_append, List.singleton_append,
        List.find?_cons]
      by_cases same : serviceType = channel.serviceType
      · simp [same]
      · simp [same, Ne.symm same]

end RootSession

def buildingSession (turn : Nat) (event : Event C) (params : Value)
    (channels : List (ServiceChannel C)) (apiSocketShutdown : Option Sender) : RootSession C :=
  { (openedSession turn event params).withChannels channels with apiSocketShutdown }

section Building

variable {turn : Nat} {event : Event C} {params : Value} {added channels : List (ServiceChannel C)}
  {apiSocketShutdown : Option Sender}

theorem buildingSession_nil : buildingSession turn event params [] none = openedSession turn event params :=
  rfl

theorem buildingSession_eq :
    buildingSession turn event params added apiSocketShutdown =
      { openedSession turn event params with
        channels := ((openedSession turn event params).withChannels added).channels
        apiSocketShutdown } := by
  rw [buildingSession, RootSession.withChannels_eq]

@[simp] theorem buildingSession_id :
    (buildingSession turn event params added apiSocketShutdown).attachedSessionEventId = event.id := by
  rw [buildingSession_eq]
  rfl

@[simp] theorem buildingSession_pubkey :
    (buildingSession turn event params added apiSocketShutdown).keymasterPubkey = event.pubkey := by
  rw [buildingSession_eq]
  rfl

@[simp] theorem buildingSession_identity :
    (buildingSession turn event params added apiSocketShutdown).identity = attachIdentity params := by
  rw [buildingSession_eq]
  rfl

@[simp] theorem buildingSession_realmXpub :
    (buildingSession turn event params added apiSocketShutdown).realmXpub =
      attachRealmXpub C params := by
  rw [buildingSession_eq]
  rfl

@[simp] theorem buildingSession_services :
    (buildingSession turn event params added apiSocketShutdown).services =
      (attachServices params).map Prod.fst := by
  rw [buildingSession_eq]
  rfl

@[simp] theorem lookup_buildingSession (serviceType : String) :
    (buildingSession turn event params added apiSocketShutdown).channels.lookup serviceType =
      added.reverse.find? fun channel => channel.serviceType = serviceType := by
  have lookup := RootSession.lookup_withChannels (openedSession turn event params) added serviceType
  rw [show (openedSession turn event params).channels.lookup serviceType = none from rfl,
    Option.or_none] at lookup
  exact lookup

theorem mem_of_lookup_buildingSession {serviceType : String} {channel : ServiceChannel C}
    (found : (buildingSession turn event params added apiSocketShutdown).channels.lookup serviceType =
      some channel) : channel ∈ added ∧ channel.serviceType = serviceType := by
  rw [lookup_buildingSession] at found
  have matched := List.find?_some found
  exact ⟨List.mem_reverse.mp (List.mem_of_find?_eq_some found), of_decide_eq_true matched⟩

end Building

/-! ### The table while an attach is handled -/

section Establish

variable {before : SessionManager C} {state reached : LoopState C} {turn : Nat} {event : Event C}
  {params : Value} {added channels : List (ServiceChannel C)}

theorem replaced_addServiceChannel (channel : ServiceChannel C)
    (replaced : SessionManager.Replaced before state.mgr
      (buildingSession turn event params added none)) :
    SessionManager.Replaced before (state.perform (.addServiceChannel event.id channel)).mgr
      (buildingSession turn event params (added ++ [channel]) none) := by
  rw [buildingSession, RootSession.withChannels_concat]
  exact replaced.modify (fun session => session.insertChannel channel) buildingSession_id rfl rfl

theorem passed_addServiceChannels
    (replaced : SessionManager.Replaced before state.mgr
      (buildingSession turn event params added none))
    (member : reached ∈ state.passed (channels.map (.addServiceChannel event.id))) :
    ∃ more, more <+: channels ∧ reached.signalled = state.signalled ∧
      SessionManager.Replaced before reached.mgr
        (buildingSession turn event params (added ++ more) none) := by
  induction channels generalizing state added with
  | nil =>
      rw [List.mem_singleton.mp member]
      exact ⟨[], List.prefix_refl _, rfl, by rwa [List.append_nil]⟩
  | cons channel rest ih =>
      rcases LoopState.mem_passed_cons.mp member with rfl | later
      · exact ⟨[], List.nil_prefix, rfl, by rwa [List.append_nil]⟩
      · obtain ⟨more, isPrefix, signalled, built⟩ := ih (replaced_addServiceChannel channel replaced) later
        refine ⟨channel :: more, List.cons_prefix_cons.mpr ⟨rfl, isPrefix⟩, signalled, ?_⟩
        rwa [List.append_assoc] at built

theorem run_addServiceChannels (channels : List (ServiceChannel C))
    (replaced : SessionManager.Replaced before state.mgr
      (buildingSession turn event params added none)) :
    (state.run (channels.map (.addServiceChannel event.id))).signalled = state.signalled ∧
      SessionManager.Replaced before (state.run (channels.map (.addServiceChannel event.id))).mgr
        (buildingSession turn event params (added ++ channels) none) := by
  induction channels generalizing state added with
  | nil => exact ⟨rfl, by rwa [List.append_nil]⟩
  | cons channel rest ih =>
      obtain ⟨signalled, built⟩ := ih (replaced_addServiceChannel channel replaced)
      refine ⟨signalled, ?_⟩
      rwa [List.append_assoc] at built

variable {config : Config C} {io : HandlerIo} {msg : JsonRpcMessage}

theorem replaced_setApiSocketShutdown {apiSocketShutdown : Option Sender} (shutdown : Sender)
    (replaced : SessionManager.Replaced before state.mgr
      (buildingSession turn event params added apiSocketShutdown)) :
    SessionManager.Replaced before (state.perform (.setApiSocketShutdown event.id shutdown)).mgr
      (buildingSession turn event params added (some shutdown)) :=
  replaced.modify (fun session => { session with apiSocketShutdown := some shutdown })
    buildingSession_id rfl rfl

def socketSender (config : Config C) (io : HandlerIo) (turn : Nat) (identity : String) :
    Option Sender :=
  match config.userMap.bind fun map => map.lookup identity with
  | none => none
  | some _ => if io.listener = .started then some (.apiSocket turn) else none

theorem passed_createUserSocket (config : Config C) (io : HandlerIo)
    (replaced : SessionManager.Replaced before state.mgr
      (buildingSession turn event params added none))
    (member : reached ∈
      state.passed (createUserSocket config io turn event.id (attachIdentity params))) :
    ∃ api, (api = none ∨ api = socketSender config io turn (attachIdentity params)) ∧
      reached.signalled = state.signalled ∧
      SessionManager.Replaced before reached.mgr (buildingSession turn event params added api) := by
  unfold createUserSocket at member
  unfold socketSender
  cases mapped : config.userMap.bind fun map => map.lookup (attachIdentity params) with
  | none =>
      rw [mapped] at member
      rw [List.mem_singleton.mp member]
      exact ⟨none, .inl rfl, rfl, replaced⟩
  | some user =>
      rw [mapped] at member
      have listener := keepsTable_startUserListener (C := C) io turn user (attachIdentity params)
      rcases LoopState.mem_passed_append.mp member with starting | started
      · obtain ⟨table, signalled, _⟩ := LoopState.passed_keepsTable listener starting
        exact ⟨none, .inl rfl, signalled, by rwa [table]⟩
      · obtain ⟨table, signalled, _⟩ := LoopState.run_keepsTable listener state
        rw [← table] at replaced
        split at started
        · rename_i starts
          rcases LoopState.mem_passed_cons.mp started with rfl | stored
          · exact ⟨none, .inl rfl, signalled, replaced⟩
          · rw [List.mem_singleton.mp stored]
            exact ⟨_, .inr (if_pos starts).symm, signalled, replaced_setApiSocketShutdown _ replaced⟩
        · rw [List.mem_singleton.mp started]
          exact ⟨none, .inl rfl, signalled, replaced⟩

theorem run_createUserSocket (config : Config C) (io : HandlerIo)
    (replaced : SessionManager.Replaced before state.mgr
      (buildingSession turn event params added none)) :
    (state.run (createUserSocket config io turn event.id (attachIdentity params))).signalled =
        state.signalled ∧
      SessionManager.Replaced before
        (state.run (createUserSocket config io turn event.id (attachIdentity params))).mgr
        (buildingSession turn event params added
          (socketSender config io turn (attachIdentity params))) := by
  unfold createUserSocket socketSender
  cases mapped : config.userMap.bind fun map => map.lookup (attachIdentity params) with
  | none => exact ⟨rfl, replaced⟩
  | some user =>
      obtain ⟨table, signalled, _⟩ := LoopState.run_keepsTable
        (keepsTable_startUserListener io turn user (attachIdentity params)) state
      rw [← table] at replaced
      dsimp only
      rw [LoopState.run_append]
      split
      · exact ⟨signalled, replaced_setApiSocketShutdown _ replaced⟩
      · exact ⟨signalled, replaced⟩

/-- The channels that an attach derives, and whether it derives all of them. -/
def attachChannels (config : Config C) (event : Event C) (params : Value) :
    List (ServiceChannel C) × Bool :=
  deriveChannels C config.loginXpriv (attachRealmXpub C params) event.pubkey (attachServices params)

def attachSender (config : Config C) (io : HandlerIo) (turn : Nat) (event : Event C)
    (params : Value) : Option Sender :=
  if (attachChannels config event params).2 then
    socketSender config io turn (attachIdentity params)
  else none

theorem establishSession_eq :
    establishSession config io turn event msg params =
      openAction turn event params ::
        ((attachChannels config event params).1.map (.addServiceChannel event.id) ++
          if (attachChannels config event params).2 then
            createUserSocket config io turn event.id (attachIdentity params) ++
              sendResponse io event (acceptedResponse msg (attachServices params))
          else []) := rfl

theorem mem_createUserSocket {sessionId : C.EventId} {identity : String} {action : Action C}
    (member : action ∈ createUserSocket config io turn sessionId identity) :
    ∃ map user, config.userMap = some map ∧ map.lookup identity = some user ∧
      (action = .removeSocketFile (socketPath user.uid) ∨
        action = .bindSocket (socketPath user.uid) turn ∨ action = .spawnListener turn identity ∨
        action = .closeListener turn ∨
        action = .setApiSocketShutdown sessionId (.apiSocket turn)) := by
  unfold createUserSocket at member
  split at member
  · cases member
  · rename_i user mapped
    obtain ⟨map, isMap, found⟩ := Option.bind_eq_some_iff.mp mapped
    refine ⟨map, user, isMap, found, ?_⟩
    unfold startUserListener at member
    cases start : io.listener <;> rw [start] at member <;> simp at member <;>
      rcases member with rfl | rfl | rfl | rfl <;> simp

theorem mem_establishSession {action : Action C}
    (member : action ∈ establishSession config io turn event msg params) :
    action = openAction turn event params ∨
      (∃ channel ∈ (attachChannels config event params).1,
        action = .addServiceChannel event.id channel) ∨
      action ∈ createUserSocket config io turn event.id (attachIdentity params) ∨
      action ∈ sendResponse io event (acceptedResponse msg (attachServices params)) := by
  rw [establishSession_eq] at member
  rcases List.mem_cons.mp member with isOpen | member
  · exact .inl isOpen
  rcases List.mem_append.mp member with adding | rest
  · obtain ⟨channel, derived, rfl⟩ := List.mem_map.mp adding
    exact .inr (.inl ⟨channel, derived, rfl⟩)
  · split at rest
    · rcases List.mem_append.mp rest with socket | response
      · exact .inr (.inr (.inl socket))
      · exact .inr (.inr (.inr response))
    · cases rest

/-- While a session is being established, the table holds it with some of its
channels in place of the KeyMaster's old session, whose senders are signalled. -/
theorem passed_establishSession (valid : state.mgr.Valid)
    (member : reached ∈ state.passed (establishSession config io turn event msg params)) :
    reached = state ∨ ∃ added api, added <+: (attachChannels config event params).1 ∧
      (api = none ∨ api = attachSender config io turn event params) ∧
      reached.signalled = (state.evict event.pubkey).signalled ∧
      SessionManager.Replaced state.mgr reached.mgr
        (buildingSession turn event params added api) := by
  rw [establishSession_eq] at member
  rcases LoopState.mem_passed_cons.mp member with rfl | member
  · exact .inl rfl
  right
  have opened := replaced_open valid turn event params
  rw [← buildingSession_nil] at opened
  rcases LoopState.mem_passed_append.mp member with adding | afterChannels
  · obtain ⟨added, isPrefix, signalled, built⟩ := passed_addServiceChannels opened adding
    exact ⟨added, none, isPrefix, .inl rfl, signalled, built⟩
  · obtain ⟨signalled, built⟩ := run_addServiceChannels
      (attachChannels config event params).1 opened
    split at afterChannels
    · rename_i complete
      rw [attachSender, if_pos complete]
      rcases LoopState.mem_passed_append.mp afterChannels with socket | responding
      · obtain ⟨api, isApi, sameSignalled, withSocket⟩ := passed_createUserSocket config io built socket
        exact ⟨_, api, List.prefix_refl _, isApi, sameSignalled.trans signalled, withSocket⟩
      · obtain ⟨sameSignalled, withSocket⟩ := run_createUserSocket config io built
        obtain ⟨table, atResponse, _⟩ :=
          LoopState.passed_keepsTable (keepsTable_sendResponse io event _) responding
        rw [← table] at withSocket
        exact ⟨_, _, List.prefix_refl _, .inr rfl,
          atResponse.trans (sameSignalled.trans signalled), withSocket⟩
    · rw [List.mem_singleton.mp afterChannels]
      exact ⟨_, none, List.prefix_refl _, .inl rfl, signalled, built⟩

theorem run_establishSession (config : Config C) (io : HandlerIo) (turn : Nat) (event : Event C)
    (msg : JsonRpcMessage) (params : Value) (valid : state.mgr.Valid) :
    (state.run (establishSession config io turn event msg params)).signalled =
        (state.evict event.pubkey).signalled ∧
      SessionManager.Replaced state.mgr
        (state.run (establishSession config io turn event msg params)).mgr
        (buildingSession turn event params (attachChannels config event params).1
          (attachSender config io turn event params)) := by
  have opened := replaced_open valid turn event params
  rw [← buildingSession_nil] at opened
  obtain ⟨signalled, built⟩ := run_addServiceChannels
    (attachChannels config event params).1 opened
  rw [establishSession_eq, LoopState.run_cons, LoopState.run_append, attachSender]
  split
  · obtain ⟨sameSignalled, withSocket⟩ := run_createUserSocket config io built
    have responded := LoopState.run_keepsTable
      (keepsTable_sendResponse io event (acceptedResponse msg (attachServices params)))
    rw [LoopState.run_append, (responded _).1, (responded _).2.1]
    exact ⟨sameSignalled.trans signalled, withSocket⟩
  · exact ⟨signalled, built⟩

end Establish

end KeyMaster

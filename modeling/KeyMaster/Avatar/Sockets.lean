import KeyMaster.Avatar.System

namespace KeyMaster

open Data

/-! Whether the API socket of a live session stays where its listener bound it. -/

variable {C : Crates} {config : Config C}

/-! ### What the event loop has still to do -/

def Action.CreatesSession : Action C → Prop
  | .evictAndCreate .. => True
  | _ => False

def Action.NamedBy (turn : Nat) : Action C → Prop
  | .evictAndCreate _ _ _ _ _ shutdown => shutdown = .session turn
  | .bindSocket _ bound => bound = turn
  | _ => True

/-- A handler names what it makes by its turn and creates a session at its start only. -/
structure TurnWork (turn : Nat) (work : List (Action C)) : Prop where
  named : ∀ action ∈ work, action.NamedBy turn
  first : ∀ action ∈ work.tail, ¬ action.CreatesSession

theorem TurnWork.rest {turn : Nat} {action : Action C} {rest : List (Action C)}
    (work : TurnWork turn (action :: rest)) : TurnWork turn rest where
  named := fun next member => work.named next (List.mem_cons_of_mem _ member)
  first := fun next member => work.first next (List.mem_of_mem_tail member)

theorem turnWork_actions (config : Config C) (before : LoopState C) (turn : Turn C) :
    TurnWork (before.turn + 1) (before.actions config turn) := by
  have plain : ∀ {work : List (Action C)},
      (∀ action ∈ work, action.NamedBy (before.turn + 1) ∧ ¬ action.CreatesSession) →
      TurnWork (before.turn + 1) work := fun every =>
    ⟨fun action member => (every action member).1,
      fun action member => (every action (List.mem_of_mem_tail member)).2⟩
  cases LoopState.handles config before turn with
  | answers actions =>
      refine plain fun action member => ?_
      obtain ⟨sent, rfl⟩ := actions action member
      exact ⟨trivial, not_false⟩
  | @responds plaintext _ actions =>
      rw [actions, handleResponse]
      refine plain fun action member => ?_
      split at member
      · rcases List.mem_cons.mp member with rfl | member
        · exact ⟨trivial, not_false⟩
        · rw [List.mem_singleton.mp member]
          exact ⟨trivial, not_false⟩
      · cases member
  | detaches detaches =>
      rw [LoopState.actions_of_detaches detaches]
      refine plain fun action member => ?_
      rcases List.mem_append.mp member with removal | response
      · obtain ⟨sessionId, _, rfl⟩ := Option.map_eq_some_iff.mp (Option.mem_toList.mp removal)
        exact ⟨trivial, not_false⟩
      · obtain ⟨sent, rfl⟩ := mem_sendResponse response
        exact ⟨trivial, not_false⟩
  | creates creates =>
      have later : ∀ action ∈ (before.actions config turn).tail,
          action.NamedBy (before.turn + 1) ∧ ¬ action.CreatesSession := by
        rw [LoopState.actions_of_creates creates, establishSession_eq, List.tail_cons]
        intro action member
        rcases List.mem_append.mp member with adding | rest
        · obtain ⟨channel, _, rfl⟩ := List.mem_map.mp adding
          exact ⟨trivial, not_false⟩
        · split at rest
          · rcases List.mem_append.mp rest with socket | response
            · obtain ⟨_, _, _, _, rfl | rfl | rfl | rfl | rfl⟩ := mem_createUserSocket socket <;>
                exact ⟨by trivial, not_false⟩
            · obtain ⟨sent, rfl⟩ := mem_sendResponse response
              exact ⟨trivial, not_false⟩
          · cases rest
      refine ⟨fun action member => ?_, fun action member => (later action member).2⟩
      rw [LoopState.actions_of_creates creates, establishSession_eq] at member
      rcases List.mem_cons.mp member with rfl | inTail
      · rfl
      · refine (later action ?_).1
        rw [LoopState.actions_of_creates creates, establishSession_eq, List.tail_cons]
        exact inTail

/-! ### What an action does to sessions and senders -/

namespace LoopState

variable {state : LoopState C} {action : Action C} {sessionId : C.EventId}
  {session : RootSession C} {sender : Sender}

theorem Stopped.evict (stopped : state.Stopped sender) (kmPubkey : C.PublicKey) :
    (state.evict kmPubkey).Stopped sender := by
  unfold LoopState.evict
  split
  · exact stopped
  · exact stopped.imp (List.mem_append_left _) id

theorem Stopped.perform (stopped : state.Stopped sender) : (state.perform action).Stopped sender := by
  cases action with
  | evictAndCreate sessionId kmPubkey =>
      exact (stopped.evict kmPubkey).imp id (List.mem_append_left _)
  | removeSession => exact stopped.imp (List.mem_append_left _) id
  | setApiSocketShutdown => exact stopped.imp id (List.mem_append_left _)
  | _ => exact stopped

theorem lookup_of_evict {kmPubkey : C.PublicKey}
    (found : (state.evict kmPubkey).mgr.sessions.lookup sessionId = some session) :
    state.mgr.sessions.lookup sessionId = some session := by
  unfold evict at found
  split at found
  · exact found
  · rename_i evicted _
    change (state.mgr.removeSession evicted).1.sessions.lookup sessionId = some session at found
    rw [SessionManager.lookup_removeSession] at found
    split at found
    · cases found
    · exact found

theorem shutdown_origin
    (found : (state.perform action).mgr.sessions.lookup sessionId = some session)
    (holds : session.shutdown = some sender) :
    (∃ old, state.mgr.sessions.lookup sessionId = some old ∧ old.shutdown = some sender) ∨
      ∃ id kmPubkey services identity realmXpub,
        action = .evictAndCreate id kmPubkey services identity realmXpub sender := by
  cases action with
  | evictAndCreate id kmPubkey services identity realmXpub shutdown =>
      change ((state.evict kmPubkey).mgr.createRootSession id kmPubkey services identity []
        realmXpub (some shutdown)).sessions.lookup sessionId = some session at found
      rw [SessionManager.lookup_createRootSession] at found
      split at found
      · cases found
        cases holds
        exact .inr ⟨id, kmPubkey, services, identity, realmXpub, rfl⟩
      · exact .inl ⟨session, lookup_of_evict found, holds⟩
  | addServiceChannel id channel =>
      change (state.mgr.addServiceChannel id _ _ _ _).sessions.lookup sessionId = some session at found
      rw [SessionManager.lookup_addServiceChannel] at found
      split at found
      · rename_i same
        obtain ⟨old, was, rfl⟩ := Option.map_eq_some_iff.mp found
        exact .inl ⟨old, same ▸ was, holds⟩
      · exact .inl ⟨session, found, holds⟩
  | removeSession id =>
      change (state.mgr.removeSession id).1.sessions.lookup sessionId = some session at found
      rw [SessionManager.lookup_removeSession] at found
      split at found
      · cases found
      · exact .inl ⟨session, found, holds⟩
  | setApiSocketShutdown id shutdown =>
      change (state.mgr.setApiSocketShutdown id shutdown).sessions.lookup sessionId =
        some session at found
      rw [SessionManager.lookup_setApiSocketShutdown] at found
      split at found
      · rename_i same
        obtain ⟨old, was, rfl⟩ := Option.map_eq_some_iff.mp found
        exact .inl ⟨old, same ▸ was, holds⟩
      · exact .inl ⟨session, found, holds⟩
  | _ => exact .inl ⟨session, found, holds⟩

end LoopState

/-! ### What a step does to the socket directory -/

namespace SocketDir

variable {dir : SocketDir} {turn other : Nat} {listener : Listener} {path : String}

theorem lookup_close (dir : SocketDir) (turn other : Nat) :
    (dir.close turn).listeners.lookup other =
      if other = turn then
        (dir.listeners.lookup turn).map fun listener => { listener with running := false }
      else dir.listeners.lookup other :=
  HashMap.lookup_modify_eq _ _ _ _

theorem running_of_close (found : (dir.close turn).listeners.lookup other = some listener)
    (running : listener.running = true) :
    other ≠ turn ∧ dir.listeners.lookup other = some listener := by
  rw [lookup_close] at found
  split at found
  · obtain ⟨old, _, rfl⟩ := Option.map_eq_some_iff.mp found
    cases running
  · rename_i different
    exact ⟨different, found⟩

theorem listener_origin {action : Action C}
    (found : (dir.perform action).listeners.lookup turn = some listener) :
    (∃ old, dir.listeners.lookup turn = some old ∧ listener.path = old.path ∧
        (listener.running = true → old.running = true)) ∨
      action = .bindSocket listener.path turn := by
  cases action with
  | bindSocket path bound =>
      change (dir.listeners.insert bound _).lookup turn = some listener at found
      rw [HashMap.lookup_insert_eq] at found
      split at found
      · rename_i same
        cases found
        exact .inr (same ▸ rfl)
      · exact .inl ⟨listener, found, rfl, id⟩
  | spawnListener spawned identity =>
      have lookup := (HashMap.lookup_modify_eq _ _ _ _).symm.trans found
      split at lookup
      · rename_i same
        obtain ⟨old, was, rfl⟩ := Option.map_eq_some_iff.mp lookup
        exact .inl ⟨old, same ▸ was, rfl, id⟩
      · exact .inl ⟨listener, lookup, rfl, id⟩
  | closeListener closed =>
      change (dir.close closed).listeners.lookup turn = some listener at found
      rw [lookup_close] at found
      split at found
      · rename_i same
        obtain ⟨old, was, rfl⟩ := Option.map_eq_some_iff.mp found
        exact .inl ⟨old, same ▸ was, rfl, nofun⟩
      · exact .inl ⟨listener, found, rfl, id⟩
  | _ => exact .inl ⟨listener, found, rfl, id⟩

theorem stop_of_lookup (found : dir.listeners.lookup turn = some listener) :
    dir.stop turn = { dir.close turn with files := dir.files.erase listener.path } := by
  rw [stop, found]

end SocketDir

theorem LoopState.turn_evict (state : LoopState C) (kmPubkey : C.PublicKey) :
    (state.evict kmPubkey).turn = state.turn := by
  unfold evict
  split <;> rfl

theorem LoopState.turn_perform (state : LoopState C) (action : Action C) :
    (state.perform action).turn = state.turn := by
  cases action with
  | evictAndCreate => exact turn_evict _ _
  | _ => rfl

namespace AvatarState

variable {before state after final : AvatarState C} {label : Label C} {turn : Nat}
  {listener : Listener}

/-- The listener of a live session, running and not told to shut down. -/
structure LiveListener (state : AvatarState C) (turn : Nat) (listener : Listener) : Prop where
  found : state.sockets.listeners.lookup turn = some listener
  running : listener.running = true
  unsignalled : ¬ state.loop.Stopped (.apiSocket turn)
  session : ∃ sessionId session, state.loop.mgr.sessions.lookup sessionId = some session ∧
    session.shutdown = some (.session turn)

/-- Each live listener that was the last to bind its path still has it. -/
def SocketsLive (state : AvatarState C) : Prop :=
  ∀ turn listener, state.LiveListener turn listener →
    state.sockets.lastBound.lookup listener.path = some turn →
    state.sockets.files.lookup listener.path = some turn

/-- The step removes a socket file: as the cleanup of a listener's task, or to
make room for a new listener. -/
def Unlinks (transition : Transition (AvatarState C) (Label C)) (path : String) : Prop :=
  (∃ turn listener, transition.label = .stopListener turn ∧
      transition.before.sockets.listeners.lookup turn = some listener ∧ listener.path = path) ∨
    (transition.label = .perform ∧ ∃ rest, transition.before.work = .removeSocketFile path :: rest)

/-- The step removes a path that has been bound by a live listener since. -/
def UnlinksLive (transition : Transition (AvatarState C) (Label C)) : Prop :=
  ∃ path turn listener, Unlinks transition path ∧
    transition.before.LiveListener turn listener ∧ listener.path = path ∧
    transition.before.sockets.lastBound.lookup path = some turn

/-- Listeners are named by past turns, and the current turn names one only
after it has created its session. -/
structure TurnsApart (state : AvatarState C) : Prop where
  work : TurnWork state.loop.turn state.work
  bounded : ∀ {turn listener}, state.sockets.listeners.lookup turn = some listener →
    turn ≤ state.loop.turn
  created : ∀ {listener}, state.sockets.listeners.lookup state.loop.turn = some listener →
    ∀ action ∈ state.work, ¬ action.CreatesSession

theorem turnsApart_new : (new : AvatarState C).TurnsApart where
  work := ⟨fun _ member => (nomatch member), fun _ member => (nomatch member)⟩
  bounded found := nomatch found
  created found := nomatch found

theorem socketsLive_new : (new : AvatarState C).SocketsLive := by
  intro turn listener isLive
  cases isLive.found

theorem Step.turnsApart (step : Step config before label after) (apart : before.TurnsApart) :
    after.TurnsApart := by
  cases step.moves with
  | @receive event io table idle =>
      refine ⟨turnWork_actions config before.loop _, fun found => ?_, fun found => ?_⟩
      · exact Nat.le_succ_of_le (apart.bounded found)
      · exact absurd (apart.bounded found) (Nat.not_succ_le_self _)
  | @perform action rest next =>
      have work : TurnWork before.loop.turn (action :: rest) := next ▸ apart.work
      constructor
      · rw [LoopState.turn_perform]
        exact work.rest
      · intro turn listener found
        rw [LoopState.turn_perform]
        rcases SocketDir.listener_origin found with ⟨old, was, _⟩ | rfl
        · exact apart.bounded was
        · exact le_of_eq (work.named _ List.mem_cons_self)
      · exact fun _ => work.first
  | @stopListener stopped old found =>
      have listeners : ∀ {turn listener}, (before.sockets.stop stopped).listeners.lookup turn =
          some listener → ∃ old, before.sockets.listeners.lookup turn = some old := by
        intro turn listener inDir
        rw [SocketDir.stop_of_lookup found] at inDir
        have lookup := (SocketDir.lookup_close _ _ _).symm.trans inDir
        split at lookup
        · rename_i same
          obtain ⟨was, inListeners, _⟩ := Option.map_eq_some_iff.mp lookup
          exact ⟨was, same ▸ inListeners⟩
        · exact ⟨listener, lookup⟩
      refine ⟨apart.work, fun inDir => ?_, fun inDir => ?_⟩
      · obtain ⟨old, was⟩ := listeners inDir
        exact apart.bounded was
      · obtain ⟨old, was⟩ := listeners inDir
        exact apart.created was
  | forwarding => exact ⟨apart.work, apart.bounded, apart.created⟩
  | stuttering => exact apart

theorem LiveListener.origin {action : Action C} {rest : List (Action C)} (apart : before.TurnsApart)
    (next : before.work = action :: rest) {localApi : LocalApi C}
    (live : LiveListener ⟨before.loop.perform action, rest, localApi, before.sockets.perform action⟩
      turn listener) :
    (∃ old, before.LiveListener turn old ∧ listener.path = old.path) ∨
      action = .bindSocket listener.path turn := by
  have head : action ∈ before.work := next ▸ List.mem_cons_self
  rcases SocketDir.listener_origin live.found with ⟨old, was, path, running⟩ | binds
  · have unsignalled : ¬ before.loop.Stopped (.apiSocket turn) := fun stopped =>
      live.unsignalled stopped.perform
    refine .inl ⟨old, ⟨was, running live.running, unsignalled, ?_⟩, path⟩
    obtain ⟨sessionId, session, found, holds⟩ := live.session
    rcases LoopState.shutdown_origin found holds with ⟨session, was, holds⟩ | ⟨_, _, _, _, _, rfl⟩
    · exact ⟨sessionId, session, was, holds⟩
    · -- The session of this turn is created before its listener.
      have isTurn : Sender.session turn = .session before.loop.turn := apart.work.named _ head
      cases isTurn
      exact absurd trivial (apart.created was _ head)
  · exact .inr binds

theorem Step.socketsLive (step : Step config before label after) (apart : before.TurnsApart)
    (live : before.SocketsLive) (keeps : ¬ UnlinksLive ⟨before, label, after⟩) :
    after.SocketsLive := by
  cases step.moves with
  | @receive event io table _ order =>
      intro turn listener isLive last
      refine live turn listener ⟨isLive.found, isLive.running, isLive.unsignalled, ?_⟩ last
      obtain ⟨sessionId, session, found, holds⟩ := isLive.session
      obtain ⟨same, was, contents⟩ := order.symm.lookup found
      refine ⟨sessionId, same, was, ?_⟩
      rw [← contents.field RootSession.shutdown fun _ => rfl]
      exact holds
  | forwarding =>
      intro turn listener isLive last
      exact live turn listener ⟨isLive.found, isLive.running, isLive.unsignalled, isLive.session⟩ last
  | stuttering => exact live
  | @stopListener stopped old found =>
      intro turn listener isLive last
      have inDir := isLive.found
      rw [SocketDir.stop_of_lookup found] at inDir last ⊢
      obtain ⟨_, was⟩ := SocketDir.running_of_close inDir isLive.running
      have liveBefore : before.LiveListener turn listener :=
        ⟨was, isLive.running, isLive.unsignalled, isLive.session⟩
      refine (HashMap.lookup_erase_eq _ _ _).trans ?_
      rw [if_neg]
      · exact live turn listener liveBefore last
      · intro same
        exact keeps ⟨listener.path, turn, listener, .inl ⟨stopped, old, rfl, found, same.symm⟩,
          liveBefore, rfl, last⟩
  | @perform action rest next =>
      intro turn listener isLive last
      rcases isLive.origin apart next with ⟨old, liveBefore, path⟩ | rfl
      · rw [path] at last ⊢
        cases action with
        | bindSocket bound owner =>
            have lastBound := (HashMap.lookup_insert_eq _ _ _ _).symm.trans last
            refine (HashMap.lookup_insert_eq _ _ _ _).trans ?_
            split at lastBound
            · rename_i same
              rw [if_pos same]
              exact lastBound
            · rename_i different
              rw [if_neg different]
              exact live turn old liveBefore lastBound
        | removeSocketFile removed =>
            refine (HashMap.lookup_erase_eq _ _ _).trans ?_
            rw [if_neg]
            · exact live turn old liveBefore last
            · intro same
              exact keeps ⟨old.path, turn, old, .inr ⟨rfl, rest, same ▸ next⟩, liveBefore, rfl, last⟩
        | _ => exact live turn old liveBefore last
      · exact AList.lookup_insert _

theorem Step.not_socketsLive (step : Step config before label after)
    (unlinks : UnlinksLive ⟨before, label, after⟩) : ¬ after.SocketsLive := by
  intro live
  obtain ⟨path, turn, listener, unlinks, isLive, rfl, last⟩ := unlinks
  dsimp only at isLive last
  rcases unlinks with ⟨stopped, old, isStop, found, samePath⟩ | ⟨isPerform, rest, next⟩
  · dsimp only at isStop found
    subst isStop
    obtain ⟨⟨_, isStopped⟩, table, _, rfl⟩ := step
    have different : turn ≠ stopped := by
      rintro rfl
      exact isLive.unsignalled isStopped
    have sockets := SocketDir.stop_of_lookup found
    have kept : (before.sockets.stop stopped).listeners.lookup turn = some listener := by
      rw [sockets]
      exact (SocketDir.lookup_close _ _ _).trans ((if_neg different).trans isLive.found)
    have still := live turn listener ⟨kept, isLive.running, isLive.unsignalled, isLive.session⟩
      (by rw [effect, sockets]; exact last)
    rw [effect, sockets] at still
    have gone := (HashMap.lookup_erase_eq _ _ _).symm.trans still
    rw [if_pos samePath.symm] at gone
    cases gone
  · dsimp only at isPerform next
    subst isPerform
    rw [step.of_perform next] at live
    have still := live turn listener
      ⟨isLive.found, isLive.running, isLive.unsignalled, isLive.session⟩ last
    have gone := (HashMap.lookup_erase_eq _ _ _).symm.trans still
    rw [if_pos rfl] at gone
    cases gone

/-- The listeners of a path do not overlap: while one of them is live, no other
one runs, and none is about to be started. -/
def ListenersApart (transition : Transition (AvatarState C) (Label C)) : Prop :=
  ∀ turn listener, transition.before.LiveListener turn listener →
    (∀ other old, transition.before.sockets.listeners.lookup other = some old →
        old.running = true → old.path = listener.path → other = turn) ∧
      ∀ rest, transition.before.work ≠ .removeSocketFile listener.path :: rest

theorem ListenersApart.not_unlinksLive (step : Step config before label after)
    (apart : ListenersApart ⟨before, label, after⟩) : ¬ UnlinksLive ⟨before, label, after⟩ := by
  rintro ⟨path, turn, listener, unlinks, isLive, rfl, _⟩
  obtain ⟨single, notStarting⟩ := apart turn listener isLive
  rcases unlinks with ⟨stopped, old, isStop, found, samePath⟩ | ⟨_, rest, next⟩
  · dsimp only at isStop found
    subst isStop
    obtain ⟨⟨running, isStopped⟩, _⟩ := step
    rw [found, Option.any_some] at running
    obtain rfl := single stopped old found running samePath
    exact isLive.unsignalled isStopped
  · exact notStarting rest next

/-- Where the listeners of each path do not overlap, every live listener keeps
its path. -/
theorem run_socketsLive_of_apart {trace : List (Transition (AvatarState C) (Label C))}
    (run : Run (Step config) new trace final)
    (apart : ∀ transition ∈ trace, ListenersApart transition) : final.SocketsLive :=
  (Data.Run.invariant_along (fun state => state.TurnsApart ∧ state.SocketsLive) ListenersApart
    (fun _ step alone ih =>
      ⟨step.turnsApart ih.1, step.socketsLive ih.1 ih.2 (alone.not_unlinksLive step)⟩)
    run ⟨turnsApart_new, socketsLive_new⟩ apart).1.2

/-- Throughout a run every live listener keeps the path that it was the last to
bind, exactly when no cleanup and no new listener removes such a path. -/
theorem run_socketsLive_iff {trace : List (Transition (AvatarState C) (Label C))}
    (run : Run (Step config) new trace final) :
    (∀ transition ∈ trace, transition.after.SocketsLive) ↔
      ∀ transition ∈ trace, ¬ UnlinksLive transition := by
  refine Run.holds_iff_meets TurnsApart SocketsLive (fun _ _ _ step => step.turnsApart) ?_ ?_ run
    turnsApart_new socketsLive_new
  · exact fun _ _ _ _ live => live
  · intro transition step apart live
    exact ⟨fun holds unlinks => step.not_socketsLive unlinks holds,
      fun keeps => step.socketsLive apart live keeps⟩

end AvatarState

/-! ### A late cleanup

A KeyMaster attaches again with another realm xpub; the task of its first
listener cleans up only after the second listener has bound the path.
-/

namespace Transparent

open AvatarState

def reattachTexts : List (String × Value) :=
  [("attach", request "attach" [("services", .array [.string "ssh"])]),
   ("again", request "attach" [("connector", .object [("realm_xpub", .string "7")]),
     ("services", .array [.string "ssh"])])]

def lateLabels : List (Label (crates reattachTexts)) :=
  .receive (event 10 2 "attach") io :: List.replicate 7 .perform ++
    .receive (event 11 2 "again") io :: List.replicate 7 .perform ++ [.stopListener 1]

def lateState : AvatarState (crates reattachTexts) :=
  replayed (mappedAvatar reattachTexts) new lateLabels

end Transparent

namespace AvatarState

open Transparent

theorem late_run : Run (Step (mappedAvatar reattachTexts)) new
    (replay (mappedAvatar reattachTexts) new lateLabels) lateState :=
  replay_run (by decide +kernel)

theorem late_cleanup_unlinks :
    Reachable (Step (mappedAvatar reattachTexts)) new lateState ∧ ¬ lateState.SocketsLive := by
  refine ⟨⟨_, late_run⟩, fun live => ?_⟩
  have found : lateState.sockets.listeners.lookup 2 =
      some ⟨"api-1000.sock", some "default", true⟩ := by decide +kernel
  have unsignalled : ¬ lateState.loop.Stopped (.apiSocket 2) := by decide +kernel
  have holds : (lateState.loop.mgr.sessions.lookup 11).bind RootSession.shutdown =
      some (.session 2) := by decide +kernel
  obtain ⟨session, inTable, shutdown⟩ := Option.bind_eq_some_iff.mp holds
  have last : lateState.sockets.lastBound.lookup "api-1000.sock" = some 2 := by decide +kernel
  have gone : lateState.sockets.files.lookup "api-1000.sock" = none := by decide +kernel
  cases gone.symm.trans
    (live 2 _ ⟨found, rfl, unsignalled, 11, session, inTable, shutdown⟩ last)

theorem late_run_socketsLive_iff :
    (∀ transition ∈ replay (mappedAvatar reattachTexts) new lateLabels,
        transition.after.SocketsLive) ↔
      ∀ transition ∈ replay (mappedAvatar reattachTexts) new lateLabels, ¬ UnlinksLive transition :=
  run_socketsLive_iff late_run

end AvatarState

end KeyMaster

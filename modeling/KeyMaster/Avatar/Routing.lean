import KeyMaster.Avatar.Turns

namespace KeyMaster

open Data LoopState

/-! Which channel a request from a per-user API socket is sent on. -/

variable {C : Crates} {config : Config C}

def RootSession.HasSocket (session : RootSession C) : Prop := session.apiSocketShutdown.isSome

namespace SessionManager

variable {mgr other : SessionManager C}

/-- In whatever order the table is iterated, the lookup made for a session's
API socket finds that session's own channel or none. -/
def RoutesToOwn (mgr : SessionManager C) : Prop :=
  ∀ order : SessionManager C, mgr.SameContents order →
    ∀ sessionId session, mgr.sessions.lookup sessionId = some session → session.HasSocket →
      ∀ serviceType info,
        order.findServiceChannelForIdentity serviceType session.identity = some info →
        ∃ channel, session.channels.lookup serviceType = some channel ∧ channel.info = info

/-- No session shares its identity with a session that has an API socket
unless it has no channels. -/
def IdentitiesApart (mgr : SessionManager C) : Prop :=
  ∀ first second left right, mgr.sessions.lookup first = some left →
    mgr.sessions.lookup second = some right → first ≠ second → left.identity = right.identity →
    left.HasSocket → ∀ serviceType, right.channels.lookup serviceType = none

theorem findServiceChannelForIdentity_eq_some {serviceType identity : String}
    {info : ChannelInfo C}
    (found : mgr.findServiceChannelForIdentity serviceType identity = some info) :
    ∃ sessionId session channel, mgr.sessions.lookup sessionId = some session ∧
      session.identity = identity ∧ session.channels.lookup serviceType = some channel ∧
      channel.info = info := by
  obtain ⟨session, member, result⟩ := List.exists_of_findSome?_eq_some found
  obtain ⟨sessionId, lookup⟩ := HashMap.mem_values.mp member
  split at result
  · rename_i same
    obtain ⟨channel, inChannels, isInfo⟩ := Option.map_eq_some_iff.mp result
    exact ⟨sessionId, session, channel, lookup, same, inChannels, isInfo⟩
  · cases result

/-- Any session can be the first one of an iteration. -/
theorem exists_order_first {sessionId : C.EventId} {session : RootSession C}
    (found : mgr.sessions.lookup sessionId = some session) :
    ∃ order : SessionManager C, mgr.SameContents order ∧
      order.sessions.values.head? = some session := by
  refine ⟨⟨mgr.sessions.insert sessionId session⟩, ?_, ?_⟩
  · intro current
    change Option.Rel _ _ ((mgr.sessions.insert sessionId session).lookup current)
    rw [HashMap.lookup_insert_eq]
    split
    · rename_i same
      rw [same, found]
      exact .some (.refl session)
    · exact SameContents.refl mgr current
  · simp [HashMap.values]

theorem Valid.routesToOwn_iff (valid : mgr.Valid) : mgr.RoutesToOwn ↔ mgr.IdentitiesApart := by
  constructor
  · intro routes first second left right foundLeft foundRight different sameIdentity socket serviceType
    by_contra stored
    obtain ⟨channel, inRight⟩ := Option.ne_none_iff_exists'.mp stored
    obtain ⟨order, contents, head⟩ := exists_order_first foundRight
    obtain ⟨rest, values⟩ := List.head?_eq_some_iff.mp head
    have found : order.findServiceChannelForIdentity serviceType left.identity = some channel.info := by
      rw [findServiceChannelForIdentity, values, List.findSome?_cons, if_pos sameIdentity.symm, inRight]
      rfl
    obtain ⟨own, inLeft, sameInfo⟩ := routes order contents first left foundLeft socket _ _ found
    -- The channels' realm pubkeys tell their sessions apart.
    have samePubkey : left.keymasterPubkey = right.keymasterPubkey := by
      rw [← (valid.channels foundLeft inLeft).2, ← (valid.channels foundRight inRight).2]
      exact congrArg ChannelInfo.kmRealmPubkey sameInfo
    exact different (valid.unique foundLeft foundRight samePubkey)
  · intro apart order contents sessionId session found socket serviceType info lookup
    obtain ⟨owner, holder, channel, inOrder, sameIdentity, inChannels, isInfo⟩ :=
      findServiceChannelForIdentity_eq_some lookup
    obtain ⟨stored, inTable, sameContents⟩ := contents.symm.lookup inOrder
    rw [sameContents.lookup] at inChannels
    rw [sameContents.identity] at sameIdentity
    by_cases same : sessionId = owner
    · subst same
      rw [found] at inTable
      cases inTable
      exact ⟨channel, inChannels, isInfo⟩
    · have none := apart sessionId owner session stored found inTable same sameIdentity.symm socket
        serviceType
      rw [none] at inChannels
      cases inChannels

theorem SameContents.identitiesApart (contents : mgr.SameContents other)
    (apart : mgr.IdentitiesApart) : other.IdentitiesApart := by
  intro first second left right foundLeft foundRight different sameIdentity socket serviceType
  obtain ⟨beforeLeft, inLeft, sameLeft⟩ := contents.symm.lookup foundLeft
  obtain ⟨beforeRight, inRight, sameRight⟩ := contents.symm.lookup foundRight
  have socketBefore : beforeLeft.HasSocket := by
    have senders := sameLeft.field RootSession.apiSocketShutdown fun _ => rfl
    rw [RootSession.HasSocket, ← senders]
    exact socket
  rw [sameRight.lookup]
  exact apart first second beforeLeft beforeRight inLeft inRight different
    (sameLeft.identity.symm.trans (sameIdentity.trans sameRight.identity)) socketBefore serviceType

end SessionManager

/-! ### Runs -/

/-- The turn creates a session for an identity that a session of another
KeyMaster holds, and one of the two has an API socket while the other has channels. -/
def Turn.Contested (config : Config C) (turn : Turn C) : Prop :=
  ∃ msg sessionId holder, turn.Creates config msg ∧
    turn.table.sessions.lookup sessionId = some holder ∧ sessionId ≠ turn.event.id ∧
    holder.keymasterPubkey ≠ turn.event.pubkey ∧
    holder.identity = attachIdentity (attachParams msg.params) ∧
    ((holder.HasSocket ∧
        (attachChannels config turn.event (attachParams msg.params)).1 ≠ []) ∨
      ((∃ serviceType, holder.channels.lookup serviceType ≠ none) ∧
        (attachChannels config turn.event (attachParams msg.params)).2 = true ∧
        ((config.userMap.bind fun map =>
          map.lookup (attachIdentity (attachParams msg.params))).isSome) ∧
        turn.io.listener = .started))

variable {before reached : LoopState C} {turn : Turn C}

theorem attachSender_isSome {io : HandlerIo} {number : Nat} {event : Event C} {params : Value} :
    (attachSender config io number event params).isSome ↔
      (attachChannels config event params).2 = true ∧
        (config.userMap.bind fun map => map.lookup (attachIdentity params)).isSome ∧
        io.listener = .started := by
  rw [attachSender, socketSender]
  cases config.userMap.bind fun map => map.lookup (attachIdentity params) with
  | none => simp
  | some user =>
      split
      · rename_i complete
        split <;> simp_all
      · rename_i incomplete
        simp [incomplete]

theorem during_identitiesApart (valid : turn.table.Valid) (apart : turn.table.IdentitiesApart)
    (uncontested : ¬ turn.Contested config) (member : reached ∈ before.during config turn) :
    reached.mgr.IdentitiesApart := by
  intro first second left right foundLeft foundRight different sameIdentity socket serviceType
  cases during_stage valid member with
  | unchanged table =>
      rw [table] at foundLeft foundRight
      exact apart first second left right foundLeft foundRight different sameIdentity socket _
  | detached _ _ _ table =>
      rw [table, SessionManager.lookup_removeSession] at foundLeft foundRight
      split at foundLeft
      · cases foundLeft
      split at foundRight
      · cases foundRight
      exact apart first second left right foundLeft foundRight different sameIdentity socket _
  | @attaching msg added api creates derived isApi _ table =>
      by_contra stored
      rcases table.old foundLeft with ⟨isFirst, rfl⟩ | ⟨notFirst, oldLeft, otherLeft⟩ <;>
        rcases table.old foundRight with ⟨isSecond, rfl⟩ | ⟨notSecond, oldRight, otherRight⟩
      · exact different (isFirst.trans isSecond.symm)
      · -- The new session has the socket.
        rw [buildingSession_id] at notSecond
        rw [buildingSession_pubkey] at otherRight
        rw [buildingSession_identity] at sameIdentity
        have started : api = attachSender config turn.io (before.turn + 1) turn.event
            (attachParams msg.params) := by
          rcases isApi with rfl | stored
          · cases socket
          · exact stored
        change api.isSome at socket
        rw [started] at socket
        exact uncontested ⟨msg, second, right, creates, oldRight, notSecond, otherRight,
          sameIdentity.symm, .inr ⟨⟨serviceType, stored⟩, attachSender_isSome.mp socket⟩⟩
      · -- The new session has the channel.
        rw [buildingSession_id] at notFirst
        rw [buildingSession_pubkey] at otherLeft
        rw [buildingSession_identity] at sameIdentity
        obtain ⟨channel, inChannels⟩ := Option.ne_none_iff_exists'.mp stored
        have inAdded := (mem_of_lookup_buildingSession inChannels).1
        exact uncontested ⟨msg, first, left, creates, oldLeft, notFirst, otherLeft, sameIdentity,
          .inl ⟨socket, List.ne_nil_of_mem (derived.subset inAdded)⟩⟩
      · exact stored (apart first second left right oldLeft oldRight different sameIdentity socket _)

theorem contested_clashes (before : LoopState C) (valid : turn.table.Valid)
    (contested : turn.Contested config) :
    ¬ (before.handle config turn).mgr.IdentitiesApart := by
  intro apart
  obtain ⟨msg, sessionId, holder, creates, found, notId, other, sameIdentity, clash⟩ := contested
  have built := handle_of_creates before valid creates
  have id : (builtSession config before turn msg).attachedSessionEventId = turn.event.id :=
    buildingSession_id
  have pubkey : (builtSession config before turn msg).keymasterPubkey = turn.event.pubkey :=
    buildingSession_pubkey
  have identity : (builtSession config before turn msg).identity =
      attachIdentity (attachParams msg.params) := buildingSession_identity
  have kept := built.kept found (by rwa [id]) (by rwa [pubkey])
  have held := built.held
  rw [id] at held
  rcases clash with ⟨socket, derives⟩ | ⟨⟨serviceType, stored⟩, starts⟩
  · obtain ⟨earlier, last, channels⟩ := List.eq_nil_or_concat _ |>.resolve_left derives
    have none := apart sessionId turn.event.id holder _ kept held notId
      (sameIdentity.trans identity.symm) socket last.serviceType
    have isLast : (builtSession config before turn msg).channels.lookup last.serviceType =
        some last := by
      rw [builtSession, lookup_buildingSession, channels]
      simp
    rw [isLast] at none
    cases none
  · have socket : (builtSession config before turn msg).HasSocket := attachSender_isSome.mpr starts
    exact stored (apart turn.event.id sessionId _ holder held kept (Ne.symm notId)
      (identity.trans sameIdentity.symm) socket serviceType)

/-- Throughout a run the requests of every API socket are routed to its own
session exactly when no turn creates a contested session. -/
theorem run_routesToOwn_iff {trace : List (Transition (LoopState C) (Turn C))} {final : LoopState C}
    (run : Run (Step config) new trace final) :
    (∀ transition ∈ trace, ∀ reached ∈ transition.before.during config transition.label,
        reached.mgr.RoutesToOwn) ↔
      ∀ transition ∈ trace, ¬ transition.label.Contested config := by
  have apartNew : (new : LoopState C).mgr.IdentitiesApart := fun _ _ _ _ found => nomatch found
  refine Run.holds_iff_meets (fun state => state.mgr.Valid) (fun state => state.mgr.IdentitiesApart)
    (fun _ _ _ step => Step.valid step) ?_ ?_ run SessionManager.valid_new apartNew
  · rintro ⟨before, turn, after⟩ ⟨order, ends⟩ valid _ holds
    dsimp only at order ends valid holds
    have table := order.valid valid
    have last := handle_mem_during config before turn
    rw [ends]
    exact ((during_stage table last).valid table).routesToOwn_iff.mp (holds _ last)
  · rintro ⟨before, turn, after⟩ ⟨order, ends⟩ valid good
    dsimp only at order ends valid good ⊢
    have table := order.valid valid
    constructor
    · intro holds contested
      have last := handle_mem_during config before turn
      exact contested_clashes before table contested
        (((during_stage table last).valid table).routesToOwn_iff.mp (holds _ last))
    · intro uncontested reached member
      exact ((during_stage table member).valid table).routesToOwn_iff.mpr
        (during_identitiesApart table (order.identitiesApart good) uncontested member)

/-! ### A shared identity

Two KeyMasters attach without a connector, both as `default`.
-/

namespace Transparent

def sharedTexts : List (String × Value) :=
  [("attach", request "attach" [("services", .array [.string "ssh"])])]

def sharedInputs : List (Event (crates sharedTexts) × HandlerIo) :=
  [(event 10 2 "attach", io), (event 11 3 "attach", io)]

def sharedState : LoopState (crates sharedTexts) :=
  replayed (mappedAvatar sharedTexts) new sharedInputs

def firstSession : RootSession (crates sharedTexts) :=
  (sharedState.mgr.sessions.lookup 10).get (by decide)

def secondSession : RootSession (crates sharedTexts) :=
  (sharedState.mgr.sessions.lookup 11).get (by decide)

end Transparent

open Transparent in
/-- Requests from the socket of one of them may be sent on the channel of the other. -/
theorem shared_identity_misroutes :
    Reachable (Step (mappedAvatar sharedTexts)) new sharedState ∧
      ¬ sharedState.mgr.RoutesToOwn := by
  have reachable : Reachable (Step (mappedAvatar sharedTexts)) new sharedState :=
    replayed_reachable _
  refine ⟨reachable, ?_⟩
  rw [(Reachable.valid reachable).routesToOwn_iff]
  intro apart
  have absent := apart 10 11 firstSession secondSession (Option.some_get _).symm
    (Option.some_get _).symm (by decide) (by decide) (by decide : _ = true) "ssh"
  have present : (secondSession.channels.lookup "ssh").isSome = true := by decide
  rw [absent] at present
  cases present

open Transparent in
theorem shared_run_routesToOwn_iff :
    (∀ transition ∈ replay (mappedAvatar sharedTexts) new sharedInputs,
        ∀ reached ∈ transition.before.during (mappedAvatar sharedTexts) transition.label,
          reached.mgr.RoutesToOwn) ↔
      ∀ transition ∈ replay (mappedAvatar sharedTexts) new sharedInputs,
        ¬ transition.label.Contested (mappedAvatar sharedTexts) :=
  run_routesToOwn_iff (replay_run new sharedInputs)

end KeyMaster

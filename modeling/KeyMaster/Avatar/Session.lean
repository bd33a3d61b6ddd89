import KeyMaster.Crates
import KeyMaster.Data.HashMap

namespace KeyMaster

open Data

/-! The session table: `session.rs`. -/

/-- A `watch::Sender<bool>`, named by the turn of the event loop that made it:
each attach makes at most one shutdown sender for its session and one for the
listener of its API socket. -/
inductive Sender where
  | session (turn : Nat)
  | apiSocket (turn : Nat)
deriving DecidableEq, Repr

structure ServiceChannel (C : Crates) where
  serviceType : String
  serviceAvatarKeys : Keys C
  kmServicePubkey : C.PublicKey
  /-- KM realm pubkey, used for the "realm" marker p tag on service requests. -/
  kmRealmPubkey : C.PublicKey

/-- A root session anchored by an attach event. -/
structure RootSession (C : Crates) where
  attachedSessionEventId : C.EventId
  keymasterPubkey : C.PublicKey
  services : List String
  identity : String
  altIds : List String
  realmXpub : Option C.Xpub
  channels : HashMap String (ServiceChannel C)
  shutdown : Option Sender
  apiSocketShutdown : Option Sender

/-- The keys that a channel lookup hands out: avatar keys, KM service pubkey
and KM realm pubkey. -/
structure ChannelInfo (C : Crates) where
  serviceKeys : Keys C
  kmServicePubkey : C.PublicKey
  kmRealmPubkey : C.PublicKey

structure SessionManager (C : Crates) where
  sessions : HashMap C.EventId (RootSession C)

variable {C : Crates}

def ServiceChannel.info (channel : ServiceChannel C) : ChannelInfo C where
  serviceKeys := channel.serviceAvatarKeys
  kmServicePubkey := channel.kmServicePubkey
  kmRealmPubkey := channel.kmRealmPubkey

def RootSession.insertChannel (session : RootSession C) (channel : ServiceChannel C) :
    RootSession C :=
  { session with channels := session.channels.insert channel.serviceType channel }

def RootSession.senders (session : RootSession C) : List Sender :=
  session.shutdown.toList ++ session.apiSocketShutdown.toList

namespace SessionManager

def new : SessionManager C := ⟨∅⟩

def createRootSession (mgr : SessionManager C) (attachedSessionEventId : C.EventId)
    (keymasterPubkey : C.PublicKey) (services : List String) (identity : String)
    (altIds : List String) (realmXpub : Option C.Xpub) (shutdown : Option Sender) :
    SessionManager C :=
  ⟨mgr.sessions.insert attachedSessionEventId
    { attachedSessionEventId, keymasterPubkey, services, identity, altIds, realmXpub,
      channels := ∅, shutdown, apiSocketShutdown := none }⟩

def setApiSocketShutdown (mgr : SessionManager C) (sessionId : C.EventId) (shutdown : Sender) :
    SessionManager C :=
  ⟨HashMap.modify mgr.sessions sessionId fun session =>
    { session with apiSocketShutdown := some shutdown }⟩

def addServiceChannel (mgr : SessionManager C) (sessionId : C.EventId) (serviceType : String)
    (serviceAvatarKeys : Keys C) (kmServicePubkey kmRealmPubkey : C.PublicKey) :
    SessionManager C :=
  ⟨HashMap.modify mgr.sessions sessionId fun session =>
    session.insertChannel { serviceType, serviceAvatarKeys, kmServicePubkey, kmRealmPubkey }⟩

def findSessionByKmPubkey (mgr : SessionManager C) (kmPubkey : C.PublicKey) : Option C.EventId :=
  (mgr.sessions.values.find? fun session => session.keymasterPubkey = kmPubkey).map
    RootSession.attachedSessionEventId

/-- `none` if no session exists for this pubkey, else whether its realm xpub
is the given one. -/
def realmXpubMatches (mgr : SessionManager C) (kmPubkey : C.PublicKey)
    (realmXpub : Option C.Xpub) : Option Bool :=
  (mgr.sessions.values.find? fun session => session.keymasterPubkey = kmPubkey).map
    fun session => session.realmXpub = realmXpub

/-- Signal shutdown for a session and remove it.  The second component lists
the senders that `send(true)` is called on. -/
def removeSession (mgr : SessionManager C) (sessionId : C.EventId) :
    SessionManager C × List Sender :=
  (⟨mgr.sessions.erase sessionId⟩, (mgr.sessions.lookup sessionId).elim [] RootSession.senders)

def findServiceChannel (mgr : SessionManager C) (serviceType : String) : Option (ChannelInfo C) :=
  mgr.sessions.values.findSome? fun session =>
    (session.channels.lookup serviceType).map ServiceChannel.info

def findServiceChannelForIdentity (mgr : SessionManager C) (serviceType identity : String) :
    Option (ChannelInfo C) :=
  mgr.sessions.values.findSome? fun session =>
    if session.identity = identity then
      (session.channels.lookup serviceType).map ServiceChannel.info
    else none

/-- Try to decrypt an event with any service channel keys. -/
def tryDecryptWithServiceKeys (mgr : SessionManager C) (senderPubkey : C.PublicKey)
    (content : String) : Option String :=
  mgr.sessions.values.findSome? fun session =>
    session.channels.values.findSome? fun channel =>
      C.nip44Decrypt channel.serviceAvatarKeys.secretKey senderPubkey content

end SessionManager

/-! ### What the operations do to a lookup -/

namespace SessionManager

variable (mgr : SessionManager C) (sessionId other : C.EventId)

@[simp] theorem lookup_createRootSession (keymasterPubkey : C.PublicKey) (services : List String)
    (identity : String) (altIds : List String) (realmXpub : Option C.Xpub)
    (shutdown : Option Sender) :
    (mgr.createRootSession sessionId keymasterPubkey services identity altIds realmXpub
        shutdown).sessions.lookup other =
      if other = sessionId then
        some { attachedSessionEventId := sessionId, keymasterPubkey, services, identity, altIds,
               realmXpub, channels := ∅, shutdown, apiSocketShutdown := none }
      else mgr.sessions.lookup other :=
  HashMap.lookup_insert_eq _ _ _ _

@[simp] theorem lookup_setApiSocketShutdown (shutdown : Sender) :
    (mgr.setApiSocketShutdown sessionId shutdown).sessions.lookup other =
      if other = sessionId then
        (mgr.sessions.lookup sessionId).map fun session =>
          { session with apiSocketShutdown := some shutdown }
      else mgr.sessions.lookup other :=
  HashMap.lookup_modify_eq _ _ _ _

@[simp] theorem lookup_addServiceChannel (serviceType : String) (serviceAvatarKeys : Keys C)
    (kmServicePubkey kmRealmPubkey : C.PublicKey) :
    (mgr.addServiceChannel sessionId serviceType serviceAvatarKeys kmServicePubkey
        kmRealmPubkey).sessions.lookup other =
      if other = sessionId then
        (mgr.sessions.lookup sessionId).map fun session =>
          session.insertChannel { serviceType, serviceAvatarKeys, kmServicePubkey, kmRealmPubkey }
      else mgr.sessions.lookup other :=
  HashMap.lookup_modify_eq _ _ _ _

@[simp] theorem lookup_removeSession :
    (mgr.removeSession sessionId).1.sessions.lookup other =
      if other = sessionId then none else mgr.sessions.lookup other :=
  HashMap.lookup_erase_eq _ _ _

/-! ### The table invariant -/

/-- Each key is its session's attach event, each KeyMaster has at most one
session, and each channel sits under its own type with its session's pubkey. -/
structure Valid (mgr : SessionManager C) : Prop where
  keyed : ∀ {sessionId session}, mgr.sessions.lookup sessionId = some session →
    session.attachedSessionEventId = sessionId
  unique : ∀ {first second left right}, mgr.sessions.lookup first = some left →
    mgr.sessions.lookup second = some right → left.keymasterPubkey = right.keymasterPubkey →
    first = second
  channels : ∀ {sessionId session serviceType channel},
    mgr.sessions.lookup sessionId = some session →
    session.channels.lookup serviceType = some channel →
    channel.serviceType = serviceType ∧ channel.kmRealmPubkey = session.keymasterPubkey

variable {mgr sessionId other} {kmPubkey : C.PublicKey}

@[simp] theorem lookup_new : (new : SessionManager C).sessions.lookup other = none := rfl

theorem valid_new : (new : SessionManager C).Valid :=
  ⟨fun found => by simp at found, fun found => by simp at found, fun found => by simp at found⟩

theorem Valid.findSessionByKmPubkey_eq_some (valid : mgr.Valid) :
    mgr.findSessionByKmPubkey kmPubkey = some sessionId ↔
      ∃ session, mgr.sessions.lookup sessionId = some session ∧
        session.keymasterPubkey = kmPubkey := by
  have scan := fun session => HashMap.find?_values_eq_some mgr.sessions session
    (fun session => decide (session.keymasterPubkey = kmPubkey))
    (fun first second left right foundLeft foundRight isLeft isRight =>
      valid.unique foundLeft foundRight
        ((of_decide_eq_true isLeft).trans (of_decide_eq_true isRight).symm))
  simp only [findSessionByKmPubkey, Option.map_eq_some_iff, scan, decide_eq_true_eq]
  constructor
  · rintro ⟨session, ⟨key, found, same⟩, rfl⟩
    rw [valid.keyed found]
    exact ⟨session, found, same⟩
  · rintro ⟨session, found, same⟩
    exact ⟨session, ⟨sessionId, found, same⟩, valid.keyed found⟩

theorem findSessionByKmPubkey_eq_none :
    mgr.findSessionByKmPubkey kmPubkey = none ↔
      ∀ sessionId session, mgr.sessions.lookup sessionId = some session →
        session.keymasterPubkey ≠ kmPubkey := by
  simp only [findSessionByKmPubkey, Option.map_eq_none_iff, HashMap.find?_values_eq_none,
    decide_eq_false_iff_not, ne_eq]

theorem Valid.realmXpubMatches_eq_some_true (valid : mgr.Valid) {realmXpub : Option C.Xpub} :
    mgr.realmXpubMatches kmPubkey realmXpub = some true ↔
      ∃ sessionId session, mgr.sessions.lookup sessionId = some session ∧
        session.keymasterPubkey = kmPubkey ∧ session.realmXpub = realmXpub := by
  have scan := fun session => HashMap.find?_values_eq_some mgr.sessions session
    (fun session => decide (session.keymasterPubkey = kmPubkey))
    (fun first second left right foundLeft foundRight isLeft isRight =>
      valid.unique foundLeft foundRight
        ((of_decide_eq_true isLeft).trans (of_decide_eq_true isRight).symm))
  simp only [realmXpubMatches, Option.map_eq_some_iff, scan, decide_eq_true_eq]
  constructor
  · rintro ⟨session, ⟨key, found, same⟩, matched⟩
    exact ⟨key, session, found, same, matched⟩
  · rintro ⟨key, session, found, same, matched⟩
    exact ⟨session, ⟨key, found, same⟩, matched⟩

theorem Valid.removeSession (valid : mgr.Valid) (sessionId : C.EventId) :
    (mgr.removeSession sessionId).1.Valid := by
  have kept : ∀ {other session},
      (mgr.removeSession sessionId).1.sessions.lookup other = some session →
      mgr.sessions.lookup other = some session := by
    intro other session found
    rw [lookup_removeSession] at found
    split at found
    · cases found
    · exact found
  exact ⟨fun found => valid.keyed (kept found),
    fun first second => valid.unique (kept first) (kept second),
    fun found => valid.channels (kept found)⟩

theorem Valid.createRootSession (valid : mgr.Valid)
    (fresh : ∀ other session, mgr.sessions.lookup other = some session →
      session.keymasterPubkey ≠ kmPubkey)
    (services : List String) (identity : String) (altIds : List String)
    (realmXpub : Option C.Xpub) (shutdown : Option Sender) :
    (mgr.createRootSession sessionId kmPubkey services identity altIds realmXpub shutdown).Valid := by
  constructor
  · intro other session found
    rw [lookup_createRootSession] at found
    split at found
    · rename_i same
      cases found
      exact same.symm
    · exact valid.keyed found
  · intro first second left right foundLeft foundRight same
    rw [lookup_createRootSession] at foundLeft foundRight
    split at foundLeft <;> split at foundRight
    · rename_i isFirst isSecond
      rw [isFirst, isSecond]
    · cases foundLeft
      exact absurd same.symm (fresh second right foundRight)
    · cases foundRight
      exact absurd same (fresh first left foundLeft)
    · exact valid.unique foundLeft foundRight same
  · intro other session serviceType channel found inChannels
    rw [lookup_createRootSession] at found
    split at found
    · cases found
      simp at inChannels
    · exact valid.channels found inChannels

theorem Valid.modify (valid : mgr.Valid) {change : RootSession C → RootSession C}
    (sameKey : ∀ session, (change session).attachedSessionEventId = session.attachedSessionEventId)
    (samePubkey : ∀ session, (change session).keymasterPubkey = session.keymasterPubkey)
    (ordered : ∀ session serviceType channel, mgr.sessions.lookup sessionId = some session →
      (change session).channels.lookup serviceType = some channel →
      channel.serviceType = serviceType ∧ channel.kmRealmPubkey = session.keymasterPubkey) :
    (⟨HashMap.modify mgr.sessions sessionId change⟩ : SessionManager C).Valid := by
  have origin : ∀ {other session},
      (HashMap.modify mgr.sessions sessionId change).lookup other = some session →
      ∃ before, mgr.sessions.lookup other = some before ∧
        session.attachedSessionEventId = before.attachedSessionEventId ∧
        session.keymasterPubkey = before.keymasterPubkey := by
    intro other session found
    rw [HashMap.lookup_modify_eq] at found
    split at found
    · rename_i same
      obtain ⟨before, lookup, rfl⟩ := Option.map_eq_some_iff.mp found
      rw [same]
      exact ⟨before, lookup, sameKey before, samePubkey before⟩
    · exact ⟨session, found, rfl, rfl⟩
  constructor
  · intro other session found
    obtain ⟨before, lookup, key, _⟩ := origin found
    rw [key]
    exact valid.keyed lookup
  · intro first second left right foundLeft foundRight same
    obtain ⟨beforeLeft, lookupLeft, _, leftPubkey⟩ := origin foundLeft
    obtain ⟨beforeRight, lookupRight, _, rightPubkey⟩ := origin foundRight
    exact valid.unique lookupLeft lookupRight (leftPubkey.symm.trans (same.trans rightPubkey))
  · intro other session serviceType channel found inChannels
    change (HashMap.modify mgr.sessions sessionId change).lookup other = some session at found
    rw [HashMap.lookup_modify_eq] at found
    split at found
    · obtain ⟨before, lookup, rfl⟩ := Option.map_eq_some_iff.mp found
      rw [samePubkey]
      exact ordered before serviceType channel lookup inChannels
    · exact valid.channels found inChannels

theorem Valid.setApiSocketShutdown (valid : mgr.Valid) (sessionId : C.EventId) (shutdown : Sender) :
    (mgr.setApiSocketShutdown sessionId shutdown).Valid :=
  valid.modify (fun _ => rfl) (fun _ => rfl)
    (fun _ _ _ lookup inChannels => valid.channels lookup inChannels)

theorem Valid.addServiceChannel (valid : mgr.Valid)
    (owner : ∀ session, mgr.sessions.lookup sessionId = some session →
      session.keymasterPubkey = kmPubkey)
    (serviceType : String) (serviceAvatarKeys : Keys C) (kmServicePubkey : C.PublicKey) :
    (mgr.addServiceChannel sessionId serviceType serviceAvatarKeys kmServicePubkey kmPubkey).Valid := by
  refine valid.modify (fun _ => rfl) (fun _ => rfl) ?_
  intro session current channel lookup inChannels
  change (session.channels.insert serviceType _).lookup current = some channel at inChannels
  rw [HashMap.lookup_insert_eq] at inChannels
  split at inChannels
  · rename_i same
    cases inChannels
    exact ⟨same.symm, (owner session lookup).symm⟩
  · exact valid.channels lookup inChannels

end SessionManager

/-! ### Iteration order -/

/-- The sessions agree up to the iteration order of their channel maps. -/
def RootSession.SameContents (left right : RootSession C) : Prop :=
  HashMap.SameEntries left.channels right.channels ∧
    { left with channels := ∅ } = { right with channels := ∅ }

/-- The tables agree up to the iteration orders of the session map and of the
channel map of each session. -/
def SessionManager.SameContents (left right : SessionManager C) : Prop :=
  ∀ sessionId, Option.Rel RootSession.SameContents
    (left.sessions.lookup sessionId) (right.sessions.lookup sessionId)

namespace RootSession.SameContents

variable {left right third : RootSession C}

theorem refl (session : RootSession C) : session.SameContents session :=
  ⟨.refl _, rfl⟩

theorem symm (same : left.SameContents right) : right.SameContents left :=
  ⟨same.1.symm, same.2.symm⟩

theorem trans (first : left.SameContents right) (second : right.SameContents third) :
    left.SameContents third :=
  ⟨first.1.trans second.1, first.2.trans second.2⟩

theorem lookup (same : left.SameContents right) (serviceType : String) :
    left.channels.lookup serviceType = right.channels.lookup serviceType :=
  same.1.lookup serviceType

theorem field (same : left.SameContents right) {α : Type} (read : RootSession C → α)
    (ignores : ∀ session, read session = read { session with channels := ∅ }) :
    read left = read right := by
  rw [ignores left, ignores right, same.2]

theorem id (same : left.SameContents right) :
    left.attachedSessionEventId = right.attachedSessionEventId :=
  same.field _ fun _ => rfl

theorem pubkey (same : left.SameContents right) : left.keymasterPubkey = right.keymasterPubkey :=
  same.field _ fun _ => rfl

theorem identity (same : left.SameContents right) : left.identity = right.identity :=
  same.field _ fun _ => rfl

theorem senders (same : left.SameContents right) : left.senders = right.senders :=
  same.field _ fun _ => rfl

end RootSession.SameContents

namespace SessionManager.SameContents

variable {left right : SessionManager C}

theorem refl (mgr : SessionManager C) : mgr.SameContents mgr := by
  intro sessionId
  cases mgr.sessions.lookup sessionId with
  | none => exact .none
  | some session => exact .some (.refl session)

theorem symm (same : left.SameContents right) : right.SameContents left := by
  intro sessionId
  have entry := same sessionId
  cases foundLeft : left.sessions.lookup sessionId <;>
    cases foundRight : right.sessions.lookup sessionId <;> rw [foundLeft, foundRight] at entry
  · exact .none
  · cases entry
  · cases entry
  · cases entry with
    | some sessions => exact .some sessions.symm

theorem lookup (same : left.SameContents right) {sessionId : C.EventId} {session : RootSession C}
    (found : left.sessions.lookup sessionId = some session) :
    ∃ other, right.sessions.lookup sessionId = some other ∧ session.SameContents other := by
  have entry := same sessionId
  rw [found] at entry
  cases other : right.sessions.lookup sessionId with
  | none =>
      rw [other] at entry
      cases entry
  | some session =>
      rw [other] at entry
      cases entry with
      | some sessions => exact ⟨session, rfl, sessions⟩

theorem valid (same : left.SameContents right) (valid : left.Valid) : right.Valid := by
  constructor
  · intro sessionId session found
    obtain ⟨other, foundLeft, sessions⟩ := same.symm.lookup found
    rw [sessions.id]
    exact valid.keyed foundLeft
  · intro first second one two foundFirst foundSecond samePubkey
    obtain ⟨otherFirst, leftFirst, sameFirst⟩ := same.symm.lookup foundFirst
    obtain ⟨otherSecond, leftSecond, sameSecond⟩ := same.symm.lookup foundSecond
    exact valid.unique leftFirst leftSecond
      (sameFirst.pubkey.symm.trans (samePubkey.trans sameSecond.pubkey))
  · intro sessionId session serviceType channel found inChannels
    obtain ⟨other, foundLeft, sessions⟩ := same.symm.lookup found
    rw [sessions.lookup] at inChannels
    rw [sessions.pubkey]
    exact valid.channels foundLeft inChannels

end SessionManager.SameContents

end KeyMaster

import KeyMaster.Avatar.Session
import Mathlib.Data.List.Induction

namespace KeyMaster

open Data

/-! The channel that an unscoped lookup finds when several sessions are live. -/

variable {C : Crates}

inductive SessionOp (C : Crates) where
  | createRootSession (attachedSessionEventId : C.EventId) (keymasterPubkey : C.PublicKey)
      (services : List String) (identity : String) (altIds : List String)
      (realmXpub : Option C.Xpub) (shutdown : Option Sender)
  | addServiceChannel (sessionId : C.EventId) (serviceType : String) (serviceAvatarKeys : Keys C)
      (kmServicePubkey kmRealmPubkey : C.PublicKey)
  | removeSession (sessionId : C.EventId)

namespace SessionOp

def apply (mgr : SessionManager C) : SessionOp C → SessionManager C
  | .createRootSession sessionId keymasterPubkey services identity altIds realmXpub shutdown =>
      mgr.createRootSession sessionId keymasterPubkey services identity altIds realmXpub shutdown
  | .addServiceChannel sessionId serviceType serviceAvatarKeys kmServicePubkey kmRealmPubkey =>
      mgr.addServiceChannel sessionId serviceType serviceAvatarKeys kmServicePubkey kmRealmPubkey
  | .removeSession sessionId => (mgr.removeSession sessionId).1

/-- Keep the ids of the live sessions, the latest created first. -/
def order (ids : List C.EventId) : SessionOp C → List C.EventId
  | .createRootSession sessionId .. => sessionId :: ids.filter (· ≠ sessionId)
  | .addServiceChannel .. => ids
  | .removeSession sessionId => ids.filter (· ≠ sessionId)

end SessionOp

def tableAfter (ops : List (SessionOp C)) : SessionManager C := ops.foldl SessionOp.apply .new

def liveOrder (ops : List (SessionOp C)) : List C.EventId := ops.foldl SessionOp.order []

/-- What the session hands out for the type. -/
def SessionManager.offer (mgr : SessionManager C) (serviceType : String) (sessionId : C.EventId) :
    Option (ChannelInfo C) :=
  (mgr.sessions.lookup sessionId).bind fun session =>
    (session.channels.lookup serviceType).map ServiceChannel.info

/-- The channel of the latest created live session that has one of the type. -/
def latestChannel (ops : List (SessionOp C)) (serviceType : String) : Option (ChannelInfo C) :=
  (liveOrder ops).findSome? ((tableAfter ops).offer serviceType)

/-- A lookup over the sessions that the operations have left, in whatever order
`mgr` iterates them. -/
structure ReturnsLatest (ops : List (SessionOp C)) (mgr : SessionManager C) (serviceType : String) :
    Prop where
  none_iff : mgr.findServiceChannel serviceType = none ↔
    ∀ sessionId, (tableAfter ops).offer serviceType sessionId = none
  latest : ∀ info, mgr.findServiceChannel serviceType = some info →
    latestChannel ops serviceType = some info

/-- All live sessions with a channel of the type hand out the same keys. -/
def OneAnswer (mgr : SessionManager C) (serviceType : String) : Prop :=
  ∀ first second left right, mgr.offer serviceType first = some left →
    mgr.offer serviceType second = some right → left = right

/-! ### Lookups in any iteration order -/

namespace SessionManager

variable {mgr other : SessionManager C} {serviceType : String} {sessionId : C.EventId}
  {info : ChannelInfo C}

theorem SameContents.offer_eq (same : mgr.SameContents other) (serviceType : String)
    (sessionId : C.EventId) : mgr.offer serviceType sessionId = other.offer serviceType sessionId := by
  have entry := same sessionId
  unfold offer
  generalize mgr.sessions.lookup sessionId = left at entry ⊢
  generalize other.sessions.lookup sessionId = right at entry ⊢
  cases entry with
  | none => rfl
  | some sessions => rw [Option.bind_some, Option.bind_some, sessions.lookup]

theorem offer_of_findServiceChannel (found : mgr.findServiceChannel serviceType = some info) :
    ∃ sessionId, mgr.offer serviceType sessionId = some info := by
  obtain ⟨session, member, offered⟩ := List.exists_of_findSome?_eq_some found
  obtain ⟨sessionId, lookup⟩ := HashMap.mem_values.mp member
  exact ⟨sessionId, by rw [offer, lookup, Option.bind_some, offered]⟩

theorem findServiceChannel_eq_none :
    mgr.findServiceChannel serviceType = none ↔
      ∀ sessionId, mgr.offer serviceType sessionId = none := by
  rw [findServiceChannel, List.findSome?_eq_none_iff]
  constructor
  · intro absent sessionId
    unfold offer
    cases lookup : mgr.sessions.lookup sessionId with
    | none => rfl
    | some session => exact absent session (HashMap.mem_values.mpr ⟨sessionId, lookup⟩)
  · intro absent session member
    obtain ⟨sessionId, lookup⟩ := HashMap.mem_values.mp member
    simpa [offer, lookup] using absent sessionId

/-- Whatever a session offers is found first in some iteration order. -/
theorem exists_findServiceChannel (offered : mgr.offer serviceType sessionId = some info) :
    ∃ other, mgr.SameContents other ∧ other.findServiceChannel serviceType = some info := by
  obtain ⟨session, lookup, channel⟩ := Option.bind_eq_some_iff.mp offered
  refine ⟨⟨mgr.sessions.insert sessionId session⟩, ?_, ?_⟩
  · intro other
    rw [HashMap.lookup_insert_eq]
    by_cases same : other = sessionId
    · rw [if_pos same, same, lookup]
      exact .some (.refl session)
    · rw [if_neg same]
      exact SameContents.refl mgr other
  · simp [findServiceChannel, HashMap.values, AList.entries_insert, channel]

end SessionManager

/-! ### Runs of operations -/

theorem tableAfter_append (ops : List (SessionOp C)) (op : SessionOp C) :
    tableAfter (ops ++ [op]) = op.apply (tableAfter ops) := by
  simp [tableAfter]

theorem liveOrder_append (ops : List (SessionOp C)) (op : SessionOp C) :
    liveOrder (ops ++ [op]) = op.order (liveOrder ops) := by
  simp [liveOrder]

theorem SessionOp.mem_order {mgr : SessionManager C} {ids : List C.EventId} {sessionId : C.EventId}
    (listed : ∀ other, other ∈ ids ↔ (mgr.sessions.lookup other).isSome) (op : SessionOp C) :
    sessionId ∈ op.order ids ↔ ((op.apply mgr).sessions.lookup sessionId).isSome := by
  cases op with
  | createRootSession created =>
      simp only [order, apply, List.mem_cons, List.mem_filter, listed, decide_eq_true_eq,
        SessionManager.lookup_createRootSession]
      by_cases same : sessionId = created <;> simp [same]
  | addServiceChannel changed =>
      simp only [order, apply, listed, SessionManager.lookup_addServiceChannel]
      by_cases same : sessionId = changed
      · rw [if_pos same, Option.isSome_map, same]
      · rw [if_neg same]
  | removeSession removed =>
      simp only [order, apply, List.mem_filter, listed, decide_eq_true_eq,
        SessionManager.lookup_removeSession]
      by_cases same : sessionId = removed <;> simp [same]

theorem mem_liveOrder (ops : List (SessionOp C)) (sessionId : C.EventId) :
    sessionId ∈ liveOrder ops ↔ ((tableAfter ops).sessions.lookup sessionId).isSome := by
  induction ops using List.reverseRecOn generalizing sessionId with
  | nil => simp [liveOrder, tableAfter]
  | append_singleton ops op ih =>
      rw [liveOrder_append, tableAfter_append]
      exact op.mem_order ih

variable {ops : List (SessionOp C)} {serviceType : String}

theorem offer_of_latestChannel {info : ChannelInfo C}
    (latest : latestChannel ops serviceType = some info) :
    ∃ sessionId, (tableAfter ops).offer serviceType sessionId = some info := by
  obtain ⟨sessionId, _, offered⟩ := List.exists_of_findSome?_eq_some latest
  exact ⟨sessionId, offered⟩

theorem latestChannel_isSome {sessionId : C.EventId} {info : ChannelInfo C}
    (offered : (tableAfter ops).offer serviceType sessionId = some info) :
    ∃ latest, latestChannel ops serviceType = some latest := by
  obtain ⟨session, lookup, _⟩ := Option.bind_eq_some_iff.mp offered
  have member := (mem_liveOrder ops sessionId).mpr (by simp [lookup])
  cases latest : latestChannel ops serviceType with
  | some info => exact ⟨info, rfl⟩
  | none =>
      have absent := List.findSome?_eq_none_iff.mp latest sessionId member
      rw [offered] at absent
      cases absent

theorem oneAnswer_of_latest
    (latest : ∀ mgr, (tableAfter ops).SameContents mgr → ReturnsLatest ops mgr serviceType) :
    OneAnswer (tableAfter ops) serviceType := by
  intro first second left right offeredLeft offeredRight
  obtain ⟨leftFirst, sameLeft, foundLeft⟩ := SessionManager.exists_findServiceChannel offeredLeft
  obtain ⟨rightFirst, sameRight, foundRight⟩ := SessionManager.exists_findServiceChannel offeredRight
  have isLeft := (latest leftFirst sameLeft).latest left foundLeft
  have isRight := (latest rightFirst sameRight).latest right foundRight
  exact Option.some.inj (isLeft.symm.trans isRight)

/-- Unscoped lookups return the latest channel in every iteration order exactly
if there is only one answer to return. -/
theorem returnsLatest_iff (ops : List (SessionOp C)) (serviceType : String) :
    (∀ mgr, (tableAfter ops).SameContents mgr → ReturnsLatest ops mgr serviceType) ↔
      OneAnswer (tableAfter ops) serviceType := by
  constructor
  · exact oneAnswer_of_latest
  · intro oneAnswer mgr same
    constructor
    · simp only [SessionManager.findServiceChannel_eq_none, same.offer_eq]
    · intro info found
      obtain ⟨sessionId, offered⟩ := SessionManager.offer_of_findServiceChannel found
      rw [← same.offer_eq] at offered
      obtain ⟨latest, isLatest⟩ := latestChannel_isSome offered
      obtain ⟨other, otherOffered⟩ := offer_of_latestChannel isLatest
      rw [isLatest, oneAnswer _ _ _ _ otherOffered offered]

/-! Two KeyMasters, each with an `ssh` channel. -/

namespace Transparent

def attached (sessionId : Nat) : List (SessionOp (Transparent.crates [])) :=
  [.createRootSession sessionId sessionId ["ssh"] "alice" [] none none,
    .addServiceChannel sessionId "ssh" ⟨sessionId⟩ sessionId sessionId]

def twoAttached : List (SessionOp (Transparent.crates [])) := attached 1 ++ attached 2

end Transparent

open Transparent in
/-- An iteration order that has the older session first hands out its channel. -/
theorem older_session_found :
    ¬ ∀ mgr, (tableAfter twoAttached).SameContents mgr → ReturnsLatest twoAttached mgr "ssh" := by
  intro latest
  have oneAnswer := oneAnswer_of_latest latest 1 2 ⟨⟨1⟩, 1, 1⟩ ⟨⟨2⟩, 2, 2⟩ rfl rfl
  cases oneAnswer

end KeyMaster

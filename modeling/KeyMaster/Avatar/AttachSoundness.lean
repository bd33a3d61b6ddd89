import KeyMaster.Avatar.AttachOutcome
import Mathlib.Data.List.Forall2
import Mathlib.Data.List.TakeWhile

namespace KeyMaster

open Data LoopState

/-! What the session table holds after an attach that was answered with success. -/

variable {C : Crates} {config : Config C}

/-- The session is the one that the request describes: each service as it was
sent has its channel, and there are no other channels. -/
structure AsRequested (config : Config C) (kmPubkey : C.PublicKey) (params : Value)
    (session : RootSession C) : Prop where
  identity : session.identity = attachIdentity params
  realmXpub : session.realmXpub = attachRealmXpub C params
  services : session.services = (sentServices params).map Prod.fst
  channels : ∀ service ∈ sentServices params, ∃ channel,
    session.channels.lookup service.1 = some channel ∧
      deriveServiceKeys C config.loginXpriv service.1 service.2.toNat =
        some channel.serviceAvatarKeys ∧
      kmChannelPubkey C (attachRealmXpub C params) kmPubkey service.1 service.2.toNat =
        some channel.kmServicePubkey
  only : ∀ serviceType channel, session.channels.lookup serviceType = some channel →
    ∃ service ∈ sentServices params, service.1 = serviceType

/-- The table holds exactly one session of the pubkey, the requested one. -/
def AttachSound (config : Config C) (kmPubkey : C.PublicKey) (params : Value)
    (mgr : SessionManager C) : Prop :=
  ∃ sessionId session, mgr.sessions.lookup sessionId = some session ∧
    session.keymasterPubkey = kmPubkey ∧
    (∀ other second, mgr.sessions.lookup other = some second →
      second.keymasterPubkey = kmPubkey → other = sessionId) ∧
    AsRequested config kmPubkey params session

/-- Derivation tells the sequence numbers of a service type apart. -/
def SeqInjective (config : Config C) : Prop :=
  ∀ serviceType first second keys,
    deriveServiceKeys C config.loginXpriv serviceType first = some keys →
    deriveServiceKeys C config.loginXpriv serviceType second = some keys → first = second

/-- The cast to 32 bits keeps every `seq` and no type has two of them. -/
structure FaithfulSeqs (params : Value) : Prop where
  fits : ∀ service ∈ sentServices params, service.2.toNat < 2 ^ 32
  unique : ∀ first ∈ sentServices params, ∀ second ∈ sentServices params,
    first.1 = second.1 → first.2 = second.2

def lastSeq (services : List (String × UInt32)) (serviceType : String) : Option UInt32 :=
  (services.reverse.find? fun service => service.1 = serviceType).map Prod.snd

def derivedServices (config : Config C) (event : Event C) (params : Value) :
    List (String × UInt32) :=
  (attachServices params).takeWhile fun service =>
    (deriveChannel C config.loginXpriv (attachRealmXpub C params) event.pubkey service).isSome

/-- The request asks for the identity and the services that the earlier one
was given. -/
structure Repeats (config : Config C) (event : Event C) (earlier params : Value) : Prop where
  identity : attachIdentity earlier = attachIdentity params
  types : (attachServices earlier).map Prod.fst = (attachServices params).map Prod.fst
  seqs : ∀ serviceType, lastSeq (derivedServices config event earlier) serviceType =
    lastSeq (attachServices params) serviceType

/-! ### Sequence numbers -/

section Services

variable {services : List (String × UInt32)} {serviceType : String} {seq : UInt32} {params : Value}

theorem mem_of_lastSeq (last : lastSeq services serviceType = some seq) :
    (serviceType, seq) ∈ services := by
  obtain ⟨service, found, rfl⟩ := Option.map_eq_some_iff.mp last
  have matched := List.find?_some found
  have same : service.1 = serviceType := of_decide_eq_true matched
  rw [← same]
  exact List.mem_reverse.mp (List.mem_of_find?_eq_some found)

theorem lastSeq_eq_none :
    lastSeq services serviceType = none ↔ serviceType ∉ services.map Prod.fst := by
  simp only [lastSeq, Option.map_eq_none_iff, List.find?_eq_none, List.mem_reverse,
    decide_eq_true_eq, List.mem_map, not_exists, not_and]

theorem lastSeq_of_mem (member : (serviceType, seq) ∈ services) :
    ∃ last, lastSeq services serviceType = some last := by
  rw [← Option.ne_none_iff_exists', ne_eq, lastSeq_eq_none, not_not]
  exact List.mem_map.mpr ⟨_, member, rfl⟩

theorem mem_attachServices :
    (serviceType, seq) ∈ attachServices params ↔
      ∃ sent, (serviceType, sent) ∈ sentServices params ∧ sent.toUInt32 = seq := by
  simp [attachServices]

theorem types_attachServices :
    (attachServices params).map Prod.fst = (sentServices params).map Prod.fst := by
  simp [attachServices]

theorem toUInt32_of_toNat {sent : UInt64} (same : sent.toNat = seq.toNat) : sent.toUInt32 = seq := by
  apply UInt32.toNat_inj.mp
  rw [UInt64.toNat_toUInt32, same]
  exact Nat.mod_eq_of_lt seq.toNat_lt

/-- The last entry of a sent service's type carries the service's own number. -/
theorem FaithfulSeqs.last_of_sent (faithful : FaithfulSeqs params) {service : String × UInt64}
    (sent : service ∈ sentServices params) :
    ∃ seq, lastSeq (attachServices params) service.1 = some seq ∧
      seq.toNat = service.2.toNat := by
  obtain ⟨seq, last⟩ := lastSeq_of_mem (mem_attachServices.mpr ⟨service.2, sent, rfl⟩)
  obtain ⟨other, otherSent, rfl⟩ := mem_attachServices.mp (mem_of_lastSeq last)
  have same : other = service.2 := faithful.unique _ otherSent _ sent rfl
  refine ⟨_, last, ?_⟩
  rw [same, UInt64.toNat_toUInt32]
  exact Nat.mod_eq_of_lt (faithful.fits _ sent)

end Services

/-! ### The channels that an attach leaves -/

theorem find?_rel {α β : Type} {related : α → β → Prop} {left : α → Bool} {right : β → Bool}
    (agree : ∀ first second, related first second → left first = right second)
    {xs : List α} {ys : List β} (lists : List.Forall₂ related xs ys) :
    Option.Rel related (xs.find? left) (ys.find? right) := by
  induction lists with
  | nil => exact .none
  | @cons first second _ _ head _ ih =>
      rw [List.find?_cons, List.find?_cons, agree first second head]
      cases right second with
      | true => exact .some head
      | false => exact ih

theorem deriveChannels_forall₂ (loginXpriv : C.Xpriv) (realmXpub : Option C.Xpub)
    (kmPubkey : C.PublicKey) (services : List (String × UInt32)) :
    List.Forall₂ (fun service channel =>
        deriveChannel C loginXpriv realmXpub kmPubkey service = some channel)
      (services.takeWhile fun service =>
        (deriveChannel C loginXpriv realmXpub kmPubkey service).isSome)
      (deriveChannels C loginXpriv realmXpub kmPubkey services).1 := by
  induction services with
  | nil => exact .nil
  | cons service rest ih =>
      cases derived : deriveChannel C loginXpriv realmXpub kmPubkey service with
      | none =>
          rw [deriveChannels_cons_none derived, List.takeWhile_cons, derived]
          exact .nil
      | some channel =>
          rw [deriveChannels_cons_some derived, List.takeWhile_cons, derived]
          exact .cons derived ih

theorem lookup_builtChannel (event : Event C) (params : Value) (turn : Nat) (api : Option Sender)
    (serviceType : String) (channel : ServiceChannel C) :
    (buildingSession turn event params (attachChannels config event params).1 api).channels.lookup
        serviceType = some channel ↔
      ∃ seq, lastSeq (derivedServices config event params) serviceType = some seq ∧
        deriveChannel C config.loginXpriv (attachRealmXpub C params) event.pubkey
          (serviceType, seq) = some channel := by
  have related : Option.Rel
      (fun service channel => deriveChannel C config.loginXpriv (attachRealmXpub C params)
        event.pubkey service = some channel)
      ((derivedServices config event params).reverse.find? fun service => service.1 = serviceType)
      ((attachChannels config event params).1.reverse.find? fun channel =>
        channel.serviceType = serviceType) :=
    find?_rel (fun _ _ derived => by rw [(deriveChannel_eq_some.mp derived).1])
      (List.rel_reverse (deriveChannels_forall₂ _ _ _ _))
  rw [lookup_buildingSession, lastSeq]
  cases isService : (derivedServices config event params).reverse.find? fun service =>
      service.1 = serviceType with
  | none =>
      rw [isService] at related
      cases found : (attachChannels config event params).1.reverse.find? fun channel =>
          channel.serviceType = serviceType with
      | none => simp
      | some channel =>
          rw [found] at related
          cases related
  | some service =>
      rw [isService] at related
      have same : service.1 = serviceType := of_decide_eq_true (List.find?_some isService :)
      cases found : (attachChannels config event params).1.reverse.find? fun channel =>
          channel.serviceType = serviceType with
      | none =>
          rw [found] at related
          cases related
      | some other =>
          rw [found] at related
          cases related with
          | some derived =>
              subst same
              simp only [Option.map_some, Option.some.injEq, exists_eq_left', derived]

/-! ### Sound sessions -/

section Requests

variable {event : Event C} {earlier params : Value} {turn : Nat} {api : Option Sender}
  {session : RootSession C} {kmPubkey : C.PublicKey}

section Built

variable (injective : SeqInjective config)
  (built : session.SameContents
    (buildingSession turn event earlier (attachChannels config event earlier).1 api))
  (sameRealm : attachRealmXpub C earlier = attachRealmXpub C params)

include built

theorem identity_built : session.identity = attachIdentity earlier :=
  built.identity.trans buildingSession_identity

theorem services_built : session.services = (attachServices earlier).map Prod.fst :=
  (built.field RootSession.services fun _ => rfl).trans buildingSession_services

include sameRealm

theorem lookup_built (serviceType : String) (channel : ServiceChannel C) :
    session.channels.lookup serviceType = some channel ↔
      ∃ seq, lastSeq (derivedServices config event earlier) serviceType = some seq ∧
        deriveChannel C config.loginXpriv (attachRealmXpub C params) event.pubkey
          (serviceType, seq) = some channel := by
  rw [built.lookup, lookup_builtChannel, sameRealm]

include injective

/-- The stored keys pin the sent number to the 32-bit one of the earlier request. -/
theorem AsRequested.pinned (requested : AsRequested config event.pubkey params session)
    {service : String × UInt64} (sent : service ∈ sentServices params) :
    ∃ seq, lastSeq (derivedServices config event earlier) service.1 = some seq ∧
      service.2.toNat = seq.toNat := by
  obtain ⟨channel, stored, keys, _⟩ := requested.channels service sent
  obtain ⟨seq, last, derived⟩ := (lookup_built built sameRealm _ _).mp stored
  have storedKeys := (deriveChannel_eq_some.mp derived).2.2.1
  exact ⟨seq, last, injective _ _ _ _ keys storedKeys⟩

theorem AsRequested.faithfulSeqs (requested : AsRequested config event.pubkey params session) :
    FaithfulSeqs params := by
  constructor
  · intro service sent
    obtain ⟨seq, _, same⟩ := requested.pinned injective built sameRealm sent
    rw [same]
    exact seq.toNat_lt
  · intro first firstSent second secondSent sameType
    obtain ⟨firstSeq, firstLast, firstSame⟩ :=
      requested.pinned injective built sameRealm firstSent
    obtain ⟨secondSeq, secondLast, secondSame⟩ :=
      requested.pinned injective built sameRealm secondSent
    rw [sameType, secondLast] at firstLast
    cases firstLast
    exact UInt64.toNat_inj.mp (firstSame.trans secondSame.symm)

theorem AsRequested.repeats (requested : AsRequested config event.pubkey params session) :
    Repeats config event earlier params := by
  have sameTypes : (attachServices earlier).map Prod.fst = (attachServices params).map Prod.fst := by
    rw [← services_built built, requested.services, types_attachServices]
  refine ⟨(identity_built built).symm.trans requested.identity, sameTypes, fun serviceType => ?_⟩
  cases asked : lastSeq (attachServices params) serviceType with
  | none =>
      rw [lastSeq_eq_none, ← sameTypes] at asked
      have isPrefix : derivedServices config event earlier <+: attachServices earlier :=
        List.takeWhile_prefix _
      exact lastSeq_eq_none.mpr fun derived => asked ((isPrefix.map Prod.fst).subset derived)
  | some seq =>
      obtain ⟨sent, isSent, rfl⟩ := mem_attachServices.mp (mem_of_lastSeq asked)
      obtain ⟨stored, last, same⟩ := requested.pinned injective built sameRealm isSent
      rw [last, toUInt32_of_toNat same]

omit injective

theorem Repeats.asRequested (repeated : Repeats config event earlier params)
    (faithful : FaithfulSeqs params) : AsRequested config event.pubkey params session where
  identity := (identity_built built).trans repeated.identity
  realmXpub := by
    rw [built.field RootSession.realmXpub fun _ => rfl, buildingSession_realmXpub, sameRealm]
  services := by
    rw [services_built built, repeated.types, types_attachServices]
  channels service sent := by
    obtain ⟨seq, last, sameSeq⟩ := faithful.last_of_sent sent
    have stored := (repeated.seqs service.1).trans last
    have derivable := List.mem_takeWhile_imp (mem_of_lastSeq stored)
    obtain ⟨channel, derived⟩ := Option.isSome_iff_exists.mp derivable
    rw [sameRealm] at derived
    obtain ⟨_, _, keys, pubkey⟩ := deriveChannel_eq_some.mp derived
    rw [sameSeq] at keys pubkey
    exact ⟨channel, (lookup_built built sameRealm _ _).mpr ⟨seq, stored, derived⟩, keys, pubkey⟩
  only serviceType channel stored := by
    obtain ⟨seq, last, _⟩ := (lookup_built built sameRealm _ _).mp stored
    rw [repeated.seqs] at last
    obtain ⟨sent, isSent, _⟩ := mem_attachServices.mp (mem_of_lastSeq last)
    exact ⟨_, isSent, rfl⟩

end Built

/-- A session built by an earlier attach of the same KeyMaster and realm is the
requested one exactly when the request repeats the earlier one faithfully. -/
theorem asRequested_iff (injective : SeqInjective config)
    (built : session.SameContents
      (buildingSession turn event earlier (attachChannels config event earlier).1 api))
    (sameRealm : attachRealmXpub C earlier = attachRealmXpub C params) :
    AsRequested config event.pubkey params session ↔
      FaithfulSeqs params ∧ Repeats config event earlier params := by
  constructor
  · intro requested
    exact ⟨requested.faithfulSeqs injective built sameRealm,
      requested.repeats injective built sameRealm⟩
  · intro ⟨faithful, repeated⟩
    exact repeated.asRequested built sameRealm faithful

theorem repeats_self (derivable : Derivable config event params) :
    Repeats config event params params := by
  have all : derivedServices config event params = attachServices params :=
    List.takeWhile_eq_self_iff.mpr derivable
  exact ⟨rfl, rfl, fun serviceType => by rw [all]⟩

theorem attachSound_iff {mgr : SessionManager C} (valid : mgr.Valid) {sessionId : C.EventId}
    (found : mgr.sessions.lookup sessionId = some session)
    (owner : session.keymasterPubkey = kmPubkey) :
    AttachSound config kmPubkey params mgr ↔ AsRequested config kmPubkey params session := by
  constructor
  · rintro ⟨other, second, lookup, _, alone, requested⟩
    have same := alone sessionId session found owner
    subst same
    rw [found] at lookup
    cases lookup
    exact requested
  · intro requested
    exact ⟨sessionId, session, found, owner, fun other second lookup samePubkey =>
      valid.unique lookup found (samePubkey.trans owner.symm), requested⟩

end Requests

/-! ### Runs -/

section Runs

variable {trace : List (Transition (LoopState C) (Turn C))} {before : LoopState C} {turn : Turn C}
  {msg : JsonRpcMessage}

theorem LoopState.LastCreation.unique {kmPubkey : C.PublicKey}
    {first second : Transition (LoopState C) (Turn C)} {firstMsg secondMsg : JsonRpcMessage}
    (isFirst : LastCreation config trace kmPubkey first firstMsg)
    (isSecond : LastCreation config trace kmPubkey second secondMsg) :
    first = second ∧ firstMsg = secondMsg := by
  have same : first = second := by
    obtain ⟨earlierFirst, laterFirst, wholeFirst, lastFirst⟩ := isFirst.last
    obtain ⟨earlierSecond, laterSecond, wholeSecond, lastSecond⟩ := isSecond.last
    have absurdFirst : second ∉ laterFirst := fun member =>
      lastFirst second member secondMsg isSecond.creates isSecond.author
    have absurdSecond : first ∉ laterSecond := fun member =>
      lastSecond first member firstMsg isFirst.creates isFirst.author
    rcases List.append_eq_append_iff.mp (wholeFirst.symm.trans wholeSecond) with
      ⟨between, _, tail⟩ | ⟨between, _, tail⟩
    · cases between with
      | nil => exact (List.cons.inj tail).1
      | cons head rest =>
          obtain ⟨_, rfl⟩ := List.cons.inj tail
          exact absurd (List.mem_append_right _ List.mem_cons_self) absurdFirst
    · cases between with
      | nil => exact (List.cons.inj tail).1.symm
      | cons head rest =>
          obtain ⟨_, rfl⟩ := List.cons.inj tail
          exact absurd (List.mem_append_right _ List.mem_cons_self) absurdSecond
  subst same
  have messages := isFirst.creates.attach.symm.trans isSecond.creates.attach
  exact ⟨rfl, Incoming.attach.inj messages⟩

/-- After a successful attach the table holds the requested session exactly
when the request's numbers survive the cast and do not contradict each other
and, on the fast path, it repeats the attach that built the author's session. -/
theorem attach_success_sound_iff (injective : SeqInjective config)
    (run : Run (Step config) new trace before) (order : before.mgr.SameContents turn.table)
    (attaches : turn.Attaches config msg) (success : Succeeds (before.actions config turn)) :
    AttachSound config turn.event.pubkey (attachParams msg.params)
        (before.handle config turn).mgr ↔
      FaithfulSeqs (attachParams msg.params) ∧
        (turn.table.realmXpubMatches turn.event.pubkey
            (attachRealmXpub C (attachParams msg.params)) = some true →
          ∃ creation earlier, LastCreation config trace turn.event.pubkey creation earlier ∧
            Repeats config creation.label.event (attachParams earlier.params)
              (attachParams msg.params)) := by
  have valid := order.valid (Reachable.valid ⟨trace, run⟩)
  cases attaches.path before with
  | refused _ _ fails => exact absurd success fails
  | acked _ same actions =>
      obtain ⟨sessionId, session, found, owner, sameRealm⟩ :=
        valid.realmXpubMatches_eq_some_true.mp same
      obtain ⟨stored, inBefore, contents⟩ := order.symm.lookup found
      obtain ⟨creation, earlier, last, _, built⟩ := session_created run _ _ inBefore
      have whole := contents.trans built
      rw [← contents.pubkey, owner] at last
      have unchanged : (before.handle config turn).mgr = turn.table := by
        refine (handle_keepsTable ?_).1
        rw [actions]
        exact keepsTable_sendResponse _ _ _
      have realm : attachRealmXpub C (attachParams earlier.params) =
          attachRealmXpub C (attachParams msg.params) := by
        rw [← sameRealm, whole.field RootSession.realmXpub fun _ => rfl, builtSession,
          buildingSession_realmXpub]
      rw [unchanged, attachSound_iff valid found owner, ← last.author,
        asRequested_iff injective whole realm]
      constructor
      · rintro ⟨faithful, repeated⟩
        exact ⟨faithful, fun _ => ⟨creation, earlier, last.author ▸ last, repeated⟩⟩
      · rintro ⟨faithful, repeated⟩
        obtain ⟨other, otherMsg, otherLast, repeated⟩ := repeated (last.author ▸ same)
        obtain ⟨rfl, rfl⟩ := last.unique (last.author ▸ otherLast)
        exact ⟨faithful, repeated⟩
  | created creates =>
      have derivable := ((succeeds_of_creates creates).mp success).1
      have table := handle_of_creates before valid creates
      have after := (during_stage valid (handle_mem_during config before turn)).valid valid
      rw [attachSound_iff after table.held buildingSession_pubkey, builtSession,
        asRequested_iff injective (.refl _) rfl]
      constructor
      · rintro ⟨faithful, _⟩
        exact ⟨faithful, fun same => absurd same creates.changed⟩
      · rintro ⟨faithful, _⟩
        exact ⟨faithful, repeats_self derivable⟩

end Runs

/-! ### Acknowledged, but not as requested

A KeyMaster that is attached for `ssh` attaches again, now for `ssh` and `gpg`.
-/

namespace Transparent

theorem derive_lt {index seq : Nat} (normalIndex : index < 2 ^ 31) (normalSeq : seq < 2 ^ 31) :
    (5 * 2 ^ 31 + index) * 2 ^ 31 + seq < 256 ^ 32 := by
  calc (5 * 2 ^ 31 + index) * 2 ^ 31 + seq < 256 ^ 9 := by omega
    _ ≤ 256 ^ 32 := Nat.pow_le_pow_right (by decide) (by decide)

theorem deriveServiceKeys_avatar (texts : List (String × Value)) (serviceType : String) {seq : Nat}
    (normal : seq < 2 ^ 31) :
    deriveServiceKeys (crates texts) (avatar texts).loginXpriv serviceType seq =
      some ⟨(5 * 2 ^ 31 + protocolIndex (crates texts) serviceType) * 2 ^ 31 + seq⟩ := by
  have normalIndex := protocolIndex_normal (crates texts) serviceType
  simp only [deriveServiceKeys, ChildNumber.fromNormalIdx, dif_pos normal, dif_pos normalIndex,
    avatar, derive, Option.bind_eq_bind, Option.bind_some, List.foldl_cons, List.foldl_nil,
    ofBytes_toBytes, Nat.mod_eq_of_lt (derive_lt normalIndex normal)]

theorem seqInjective (texts : List (String × Value)) : SeqInjective (avatar texts) := by
  intro serviceType first second keys firstKeys secondKeys
  have normalFirst := deriveServiceKeys_seq_lt _ firstKeys
  have normalSecond := deriveServiceKeys_seq_lt _ secondKeys
  rw [deriveServiceKeys_avatar texts serviceType normalFirst] at firstKeys
  rw [deriveServiceKeys_avatar texts serviceType normalSecond, ← firstKeys] at secondKeys
  exact (Nat.add_left_cancel (congrArg Keys.secretKey (Option.some.inj secondKeys))).symm

def growingTexts : List (String × Value) :=
  [("attach", request "attach" [("services", .array [.string "ssh"])]),
   ("attach more", request "attach" [("services", .array [.string "ssh", .string "gpg"])])]

def grownState : LoopState (crates growingTexts) :=
  replayed (avatar growingTexts) new [(event 10 2 "attach", io)]

def growingTurn : Turn (crates growingTexts) := grownState.next (event 11 2 "attach more", io)

def growingMessage : JsonRpcMessage :=
  (readEvent (avatar growingTexts) growingTurn.table growingTurn.event).attachMessage

end Transparent

open Transparent in
/-- The second attach is acked, but the table has no `gpg` channel for it. -/
theorem acked_attach_lacks_channel :
    SeqInjective (avatar growingTexts) ∧ Reachable (Step (avatar growingTexts)) new grownState ∧
      grownState.mgr.SameContents growingTurn.table ∧
      growingTurn.Attaches (avatar growingTexts) growingMessage ∧
      Succeeds (grownState.actions (avatar growingTexts) growingTurn) ∧
      ¬ AttachSound (avatar growingTexts) growingTurn.event.pubkey
        (attachParams growingMessage.params)
        (grownState.handle (avatar growingTexts) growingTurn).mgr := by
  refine ⟨seqInjective _, replayed_reachable _, .refl _, attaches_of_isAttach rfl (by decide),
    by decide, ?_⟩
  rintro ⟨sessionId, session, found, _, _, requested⟩
  have asked : ("gpg", 0) ∈ sentServices (attachParams growingMessage.params) := by decide
  obtain ⟨channel, stored, _⟩ := requested.channels _ asked
  have lacking : ∀ session ∈
      (grownState.handle (avatar growingTexts) growingTurn).mgr.sessions.values,
      (session.channels.lookup "gpg").isNone = true := by decide
  have absent := lacking session (HashMap.mem_values.mpr ⟨sessionId, found⟩)
  rw [stored] at absent
  cases absent

open Transparent in
theorem first_attach_sound :
    AttachSound (avatar growingTexts) 2 (attachParams (readEvent (avatar growingTexts)
      SessionManager.new (event 10 2 "attach")).attachMessage.params) grownState.mgr := by
  have attaches : (new.next (event 10 2 "attach", io)).Attaches (avatar growingTexts) _ :=
    attaches_of_isAttach rfl (by decide)
  have first := attach_success_sound_iff (seqInjective growingTexts) (.nil new) (.refl _) attaches
    (by decide)
  exact first.mpr ⟨⟨by decide, by decide⟩, fun acked => absurd acked (by decide)⟩

end KeyMaster

import KeyMaster.Avatar.ServiceKeys
import KeyMaster.Avatar.System

namespace KeyMaster

open Data Data.Bip32

/-! Whether a KeyMaster and the avatar understand each other over the channels
of a session. -/

/-- `nip44::encrypt(own secret key, other party, plaintext)` under a nonce, which
refuses empty and over-long texts.  A ciphertext is authenticated: whatever opens
it at all finds its plaintext. -/
structure Nip44 (C : Crates) where
  encrypt : C.SecretKey → C.PublicKey → Nat → String → Option String
  opens : ∀ own other nonce text content,
    encrypt own (C.publicKey other) nonce text = some content →
      C.nip44Decrypt other (C.publicKey own) content = some text
  authentic : ∀ own recipient nonce text content secret author opened,
    encrypt own recipient nonce text = some content →
      C.nip44Decrypt secret author content = some opened → opened = text

variable {C : Crates} {config : Config C}

/-! ### The events of a run -/

def Label.received? : Label C → Option (Event C)
  | .receive event _ => some event
  | _ => none

def receivedEvents (trace : List (Transition (AvatarState C) (Label C))) : List (Event C) :=
  trace.filterMap fun transition => transition.label.received?

namespace AvatarState

variable {trace : List (Transition (AvatarState C) (Label C))} {state : AvatarState C}

/-- The event loop has handled the events received, one turn each, but for what
it has still to do for the last one. -/
inductive Turning (config : Config C) (state : AvatarState C) (events : List (Event C)) : Prop
  | initial (loop : state.loop = .new) (idle : state.work = []) (noEvents : events = [])
  | turn {turns : List (Transition (LoopState C) (Turn C))} {start : LoopState C} {turn : Turn C}
      {performed : List (Action C)} (ran : Run (LoopState.Step config) .new turns start)
      (midst : Midst config state.loop state.work start turn performed)
      (handled : events = (turns.map fun transition => transition.label.event) ++ [turn.event])

theorem Turning.idle {events : List (Event C)} (turning : Turning config state events)
    (idle : state.work = []) :
    ∃ turns, Run (LoopState.Step config) .new turns state.loop ∧
      events = turns.map fun transition => transition.label.event := by
  cases turning with
  | initial loop _ noEvents =>
      rw [loop]
      exact ⟨[], .nil _, noEvents⟩
  | @turn turns start turn performed ran midst handled =>
      have whole := midst.actions
      rw [idle, List.append_nil] at whole
      have taken : LoopState.Step config start turn state.loop := by
        refine ⟨midst.order, ?_⟩
        rw [midst.state, ← whole]
        rfl
      refine ⟨_, ran.append (.single taken), ?_⟩
      rw [handled, List.map_append]
      rfl

theorem Turning.of_same {before : AvatarState C} {events : List (Event C)}
    (turning : Turning config before events) (loop : state.loop = before.loop)
    (work : state.work = before.work) : Turning config state events := by
  cases turning with
  | initial isNew idle noEvents => exact .initial (loop.trans isNew) (work.trans idle) noEvents
  | @turn turns start turn performed ran midst handled =>
      have unmoved : Midst config state.loop state.work start turn performed := by
        rw [loop, work]
        exact midst
      exact .turn ran unmoved handled

theorem Turning.perform {before : AvatarState C} {action : Action C} {rest : List (Action C)}
    {events : List (Event C)} (turning : Turning config before events)
    (next : before.work = action :: rest) (loop : state.loop = before.loop.perform action)
    (work : state.work = rest) : Turning config state events := by
  cases turning with
  | initial _ idle _ =>
      rw [idle] at next
      cases next
  | @turn turns start turn performed ran midst handled =>
      have further : Midst config state.loop state.work start turn (performed ++ [action]) := by
        refine ⟨midst.reachable, midst.order, ?_, ?_⟩
        · rw [midst.actions, next, work, List.append_assoc, List.singleton_append]
        · rw [LoopState.run_append, ← midst.state, loop]
          rfl
      exact .turn ran further handled

/-- Interleaved with all other tasks, the loop takes one turn for each event
received, in their order. -/
theorem Run.turning (run : Run (Step config) new trace state) :
    Turning config state (receivedEvents trace) := by
  refine run.snoc_induction (motive := fun trace state => Turning config state (receivedEvents trace))
    (.initial rfl rfl rfl) ?_
  intro trace before label after _ ih step
  have events : receivedEvents (trace ++ [⟨before, label, after⟩]) =
      receivedEvents trace ++ label.received?.toList := by
    rw [receivedEvents, receivedEvents, List.filterMap_append]
    cases label <;> rfl
  rw [events]
  by_cases receives : ∃ event io, label = .receive event io
  · obtain ⟨event, io, rfl⟩ := receives
    obtain ⟨idle, table, order, rfl⟩ := step
    obtain ⟨turns, ran, handled⟩ := ih.idle (List.isEmpty_iff.mp idle)
    have begun : Midst config (before.loop.begin ⟨event, io, table⟩)
        (before.loop.actions config ⟨event, io, table⟩) before.loop ⟨event, io, table⟩ [] :=
      ⟨⟨turns, ran⟩, order, rfl, rfl⟩
    exact .turn ran begun (congrArg (· ++ [event]) handled)
  · have silent : label.received? = none := by
      cases label with
      | receive event io => exact absurd ⟨event, io, rfl⟩ receives
      | _ => rfl
    rw [silent, Option.toList_none, List.append_nil]
    cases step.moves with
    | receive => exact absurd ⟨_, _, rfl⟩ receives
    | perform next => exact ih.perform next rfl rfl
    | stopListener | forwarding | stuttering => exact ih.of_same rfl rfl

/-! ### The attach of a session -/

end AvatarState

/-- The session was made by the turn's attach. -/
structure AttachedBy (config : Config C) (session : RootSession C) (turn : Turn C)
    (msg : JsonRpcMessage) : Prop where
  creates : turn.Creates config msg
  author : session.keymasterPubkey = turn.event.pubkey
  realmXpub : session.realmXpub = attachRealmXpub C (attachParams msg.params)
  channels : ∀ serviceType channel, session.channels.lookup serviceType = some channel →
    ∃ seq, (serviceType, seq) ∈ attachServices (attachParams msg.params) ∧
      deriveChannel C config.loginXpriv (attachRealmXpub C (attachParams msg.params))
        turn.event.pubkey (serviceType, seq) = some channel

theorem AttachedBy.of_same {session other : RootSession C} {turn : Turn C} {msg : JsonRpcMessage}
    (attached : AttachedBy config other turn msg) (same : session.SameContents other) :
    AttachedBy config session turn msg where
  creates := attached.creates
  author := same.pubkey.trans attached.author
  realmXpub := by
    have rest := same.2
    simp only [RootSession.mk.injEq] at rest
    exact rest.2.2.2.2.2.1.trans attached.realmXpub
  channels serviceType channel found := by
    rw [same.lookup] at found
    exact attached.channels serviceType channel found

theorem attachedBy_building {turn : Turn C} {msg : JsonRpcMessage} {number : Nat}
    {added : List (ServiceChannel C)} {api : Option Sender} (creates : turn.Creates config msg)
    (derived : added ⊆ (attachChannels config turn.event (attachParams msg.params)).1) :
    AttachedBy config (buildingSession number turn.event (attachParams msg.params) added api) turn
      msg where
  creates := creates
  author := buildingSession_pubkey
  realmXpub := buildingSession_realmXpub
  channels serviceType channel found := by
    obtain ⟨inAdded, sameType⟩ := mem_of_lookup_buildingSession found
    obtain ⟨service, requested, fromService⟩ := mem_deriveChannels (derived inAdded)
    have named : service.1 = serviceType := (deriveChannel_eq_some.mp fromService).1.symm.trans sameType
    subst named
    exact ⟨service.2, requested, fromService⟩

namespace AvatarState

/-- At any time in a run, every session was made by the attach under whose id
it stands, which has been received. -/
theorem session_attached (run : Run (Step config) new trace state) {sessionId : C.EventId}
    {session : RootSession C} (found : state.loop.mgr.sessions.lookup sessionId = some session) :
    ∃ turn msg, turn.event ∈ receivedEvents trace ∧ turn.event.id = sessionId ∧
      AttachedBy config session turn msg := by
  cases Run.turning run with
  | initial loop =>
      rw [loop] at found
      cases found
  | @turn turns start turn performed ran midst handled =>
      have table := midst.order.valid (LoopState.Reachable.valid midst.reachable)
      have older : turn.table.sessions.lookup sessionId = some session →
          ∃ turn msg, turn.event ∈ receivedEvents trace ∧ turn.event.id = sessionId ∧
            AttachedBy config session turn msg := by
        intro inTable
        obtain ⟨same, inStart, contents⟩ := midst.order.symm.lookup inTable
        obtain ⟨creation, msg, last, isId, built⟩ := LoopState.session_created ran _ _ inStart
        refine ⟨creation.label, msg, ?_, isId,
          (attachedBy_building last.creates (List.Subset.refl _)).of_same (contents.trans built)⟩
        rw [handled]
        exact List.mem_append_left _ (List.mem_map_of_mem last.mem)
      have member : state.loop ∈ start.during config turn := by
        rw [LoopState.during, midst.actions, midst.state, LoopState.mem_passed_append]
        exact .inl LoopState.run_mem_passed
      cases LoopState.during_stage table member with
      | unchanged same => exact older (same ▸ found)
      | detached _ _ _ removed =>
          rw [removed, SessionManager.lookup_removeSession] at found
          split at found
          · cases found
          · exact older found
      | @attaching msg added api creates derived _ _ replaced =>
          rcases replaced.old found with ⟨isNew, rfl⟩ | ⟨_, inTable, _⟩
          · refine ⟨turn, msg, ?_, (isNew.trans buildingSession_id).symm,
              attachedBy_building creates derived.subset⟩
            rw [handled]
            exact List.mem_append_right _ (List.mem_singleton_self _)
          · exact older inTable

end AvatarState

/-! ### The two ends of a channel -/

/-- What the two ends of a channel can tell each other, the KeyMaster with keys
of its own and the avatar with those of the channel. -/
structure Paired (config : Config C) (nip44 : Nip44 C) (mgr : SessionManager C)
    (serviceType : String) (seq : UInt32) (channel : ServiceChannel C) (kmKeys : Keys C) : Prop where
  /-- The KeyMaster gets the avatar's key from the login xpub. -/
  avatarKey : deriveServicePubkey C config.loginXpub serviceType seq.toNat =
    some channel.serviceAvatarKeys.publicKey
  kmKey : channel.kmServicePubkey = kmKeys.publicKey
  requests : ∀ id nonce text content,
    nip44.encrypt channel.serviceAvatarKeys.secretKey channel.kmServicePubkey nonce text = some content →
      C.nip44Decrypt kmKeys.secretKey (serviceRequest channel.info id content).pubkey content =
        some text
  /-- A response that the KeyMaster encrypts for the channel is delivered. -/
  responses : ∀ table io turn event nonce text msg eventId, mgr.SameContents table →
    event.kind = protocolKind → event.pubkey = kmKeys.publicKey →
    nip44.encrypt kmKeys.secretKey channel.serviceAvatarKeys.publicKey nonce text =
      some event.content →
    (C.parseJson text).bind JsonRpcMessage.deserialize = some msg → msg.isResponse = true →
    replyTo event = some eventId →
      handleEvent config table io turn event = [.takePending event eventId, .deliver event text]

section Decrypt

variable {nip44 : Nip44 C} {mgr : SessionManager C} {sessionId : C.EventId} {session : RootSession C}
  {serviceType text : String} {channel : ServiceChannel C} {kmKeys : Keys C} {nonce : Nat}

/-- Whichever key opens a ciphertext first, it is read as its plaintext once
there is a channel that it was made for. -/
theorem decryptEvent_encrypt (found : mgr.sessions.lookup sessionId = some session)
    (isChannel : session.channels.lookup serviceType = some channel) {event : Event C}
    (author : event.pubkey = kmKeys.publicKey)
    (content : nip44.encrypt kmKeys.secretKey channel.serviceAvatarKeys.publicKey nonce text =
      some event.content) :
    decryptEvent config mgr event = some text := by
  rw [decryptEvent]
  cases byRoot : C.nip44Decrypt config.avatarKeys.secretKey event.pubkey event.content with
  | some opened =>
      rw [Option.some_or, nip44.authentic _ _ _ _ _ _ _ _ content byRoot]
  | none =>
      rw [Option.none_or]
      have openedHere : C.nip44Decrypt channel.serviceAvatarKeys.secretKey event.pubkey event.content =
          some text := by
        rw [author]
        exact nip44.opens _ _ _ _ _ content
      cases byService : mgr.tryDecryptWithServiceKeys event.pubkey event.content with
      | some opened =>
          obtain ⟨other, _, inSession⟩ := List.exists_of_findSome?_eq_some byService
          obtain ⟨opener, _, isOpened⟩ := List.exists_of_findSome?_eq_some inSession
          rw [nip44.authentic _ _ _ _ _ _ _ _ content isOpened]
      | none =>
          have silent := List.findSome?_eq_none_iff.mp byService session
            (HashMap.mem_values.mpr ⟨_, found⟩)
          have unopened := List.findSome?_eq_none_iff.mp silent channel
            (HashMap.mem_values.mpr ⟨_, isChannel⟩)
          rw [openedHere] at unopened
          cases unopened

theorem handleEvent_encrypt (found : mgr.sessions.lookup sessionId = some session)
    (isChannel : session.channels.lookup serviceType = some channel) {event : Event C}
    (protocol : event.kind = protocolKind) (author : event.pubkey = kmKeys.publicKey)
    (content : nip44.encrypt kmKeys.secretKey channel.serviceAvatarKeys.publicKey nonce text =
      some event.content)
    {msg : JsonRpcMessage} (parsed : (C.parseJson text).bind JsonRpcMessage.deserialize = some msg)
    (isResponse : msg.isResponse = true) (io : HandlerIo) (turn : Nat) :
    handleEvent config mgr io turn event = handleResponse event text := by
  have incoming : readEvent config mgr event = .response text := by
    simp only [readEvent, decryptEvent_encrypt found isChannel author content, parsed, isResponse,
      if_true]
  rw [handleEvent, if_pos protocol, incoming]

end Decrypt

section Derivation

variable {Scalar Point Chain : Type} [Ring Scalar] [AddCommGroup Point] [Module Scalar Point]
  [DecidableEq Scalar] [DecidableEq Point]
  {derivation : Derivation Scalar Point Chain (Vector UInt8 33) ChildNumber}
  (keys : GroupKeys C derivation)

include keys

theorem GroupKeys.publicKey_deriveServiceKeys (xpriv : C.Xpriv) (protocol : String) (seq : Nat) :
    (deriveServiceKeys C xpriv protocol seq).map Keys.publicKey =
      deriveServicePubkey C (keys.fromPriv xpriv) protocol seq := by
  by_cases normal : seq < 2 ^ 31
  · rw [GroupKeys.deriveServiceKeys_eq normal, GroupKeys.deriveServicePubkey_eq normal,
      keys.service_path]
  · rw [GroupKeys.deriveServiceKeys_hardened normal, GroupKeys.deriveServicePubkey_hardened normal]
    rfl

variable {nip44 : Nip44 C} {mgr : SessionManager C} {sessionId : C.EventId} {session : RootSession C}
  {serviceType : String} {seq : UInt32} {channel : ServiceChannel C} {kmPubkey : C.PublicKey}

theorem exists_paired (login : config.loginXpub = keys.fromPriv config.loginXpriv)
    (found : mgr.sessions.lookup sessionId = some session)
    (isChannel : session.channels.lookup serviceType = some channel) {realmXpriv : C.Xpriv}
    (derived : deriveChannel C config.loginXpriv (some (keys.fromPriv realmXpriv)) kmPubkey
      (serviceType, seq) = some channel) :
    ∃ kmKeys, deriveServiceKeys C realmXpriv serviceType seq.toNat = some kmKeys ∧
      Paired config nip44 mgr serviceType seq channel kmKeys := by
  obtain ⟨_, _, avatarKeys, isPubkey⟩ := deriveChannel_eq_some.mp derived
  rw [kmChannelPubkey, ← keys.publicKey_deriveServiceKeys, Option.map_eq_some_iff] at isPubkey
  obtain ⟨kmKeys, isKeys, kmKey⟩ := isPubkey
  refine ⟨kmKeys, isKeys, ?_, kmKey.symm, ?_, ?_⟩
  · rw [login, ← keys.publicKey_deriveServiceKeys, avatarKeys, Option.map_some]
  · intro id nonce text content encrypted
    rw [← kmKey] at encrypted
    exact nip44.opens _ _ _ _ _ encrypted
  · intro table io turn event nonce text msg eventId order protocol author content parsed isResponse reply
    obtain ⟨same, inTable, contents⟩ := order.lookup found
    have inSame : same.channels.lookup serviceType = some channel := by
      rw [← contents.lookup]
      exact isChannel
    rw [handleEvent_encrypt inTable inSame protocol author content parsed isResponse, handleResponse,
      reply]

namespace AvatarState

/-- At any time in a run, the KeyMaster of a session, which holds the private
key of the realm xpub that it attached with, and the avatar have a common
understanding over every channel of the session: from its own attach and the
login xpub the KeyMaster derives both keys, reads the requests sent on the
channel and has its responses delivered. -/
theorem run_channels_paired (nip44 : Nip44 C)
    (login : config.loginXpub = keys.fromPriv config.loginXpriv)
    {trace : List (Transition (AvatarState C) (Label C))} {state : AvatarState C}
    (run : Run (Step config) new trace state)
    (found : state.loop.mgr.sessions.lookup sessionId = some session) :
    ∃ turn msg, turn.event ∈ receivedEvents trace ∧ turn.event.id = sessionId ∧
      AttachedBy config session turn msg ∧
      ∀ realmXpriv, attachRealmXpub C (attachParams msg.params) = some (keys.fromPriv realmXpriv) →
        ∀ serviceType channel, session.channels.lookup serviceType = some channel →
          ∃ seq, (serviceType, seq) ∈ attachServices (attachParams msg.params) ∧
            ∃ kmKeys, deriveServiceKeys C realmXpriv serviceType seq.toNat = some kmKeys ∧
              Paired config nip44 state.loop.mgr serviceType seq channel kmKeys := by
  obtain ⟨turn, msg, received, isId, attached⟩ := session_attached run found
  refine ⟨turn, msg, received, isId, attached, ?_⟩
  intro realmXpriv realm serviceType channel isChannel
  obtain ⟨seq, requested, derived⟩ := attached.channels serviceType channel isChannel
  rw [realm] at derived
  exact ⟨seq, requested, exists_paired keys login found isChannel derived⟩

end AvatarState

end Derivation

/-! ### A channel over the group of order 5 -/

namespace Transparent

theorem colon_not_mem (number : Nat) : ':' ∉ (toString number).toList := by
  rw [Nat.toString_eq_ofList_toDigits, String.toList_ofList]
  intro member
  have digit := Nat.isDigit_of_mem_toDigits (by decide) (by decide) member
  revert digit
  decide

theorem encrypt_toList (recipient sender : Nat) (text : String) :
    (encrypt recipient sender text).toList =
      (toString recipient).toList ++ ':' :: ((toString sender).toList ++ ':' :: text.toList) := by
  simp [encrypt]

theorem eq_of_append_colon {first second rest more : List Char} (notFirst : ':' ∉ first)
    (notSecond : ':' ∉ second) (same : first ++ ':' :: rest = second ++ ':' :: more) :
    rest = more := by
  induction first generalizing second with
  | nil =>
      cases second with
      | nil => exact (List.cons.inj same).2
      | cons char second =>
          obtain ⟨isColon, _⟩ := List.cons.inj same
          exact absurd (isColon ▸ List.mem_cons_self) notSecond
  | cons char first ih =>
      cases second with
      | nil =>
          obtain ⟨isColon, _⟩ := List.cons.inj same
          exact absurd (isColon ▸ List.mem_cons_self) notFirst
      | cons other second =>
          exact ih (fun member => notFirst (List.mem_cons_of_mem _ member))
            (fun member => notSecond (List.mem_cons_of_mem _ member)) (List.cons.inj same).2

theorem eq_of_decrypt {recipient sender opener author : Nat} {text opened : String}
    (opens : decrypt opener author (encrypt recipient sender text) = some opened) : opened = text := by
  unfold decrypt at opens
  dsimp only at opens
  split at opens
  · rename_i isPrefix
    obtain ⟨rest, whole⟩ := List.isPrefixOf_iff_prefix.mp isPrefix
    rw [← whole, List.drop_left] at opens
    simp only [encrypt_toList, String.toList_empty, List.append_assoc, List.cons_append,
      List.nil_append] at whole
    have inner := eq_of_append_colon (colon_not_mem opener) (colon_not_mem recipient) whole
    have same := eq_of_append_colon (colon_not_mem author) (colon_not_mem sender) inner
    rw [← Option.some.inj opens, same, String.ofList_toList]
  · cases opens

def realmXpriv : PrivateNode (ZMod 5) Nat := ⟨1, 7, by decide⟩

def pairTexts : List (String × Value) :=
  [("attach", request "attach" [("services", .array [service "ssh" 1]),
    ("connector", .object [("realm_xpub", .string "realm")])])]

abbrev pairCrates : Crates :=
  { groupCrates with
    nip44Decrypt := fun secret author content =>
      decrypt (coordinate (derivation.publicKey secret)) author content
    parseJson := fun text => pairTexts.lookup text
    xpubFromStr := fun text => if text = "realm" then some (derivation.neuter realmXpriv) else none }

def pairKeys : GroupKeys pairCrates derivation where
  privateNode := id
  publicNode := id
  secretScalar := id
  xOnly := coordinate
  fromPriv := derivation.neuter
  publicNode_fromPriv := groupKeys.publicNode_fromPriv
  derivePriv_eq := groupKeys.derivePriv_eq
  derivePub_eq := groupKeys.derivePub_eq
  secretBytes_eq node := by
    have small := ZMod.val_lt node.key
    have value : ofBytes (toBytes 32 node.key.val).toList = node.key.val := by
      rw [ofBytes_toBytes]
      exact Nat.mod_eq_of_lt (by omega)
    simp [value, small]
  publicKey_eq := groupKeys.publicKey_eq
  serialize_eq := groupKeys.serialize_eq
  fromSlice_eq := groupKeys.fromSlice_eq

def pairNip44 : Nip44 pairCrates where
  encrypt own recipient _ text :=
    if text = "" then none else some (encrypt recipient (coordinate (derivation.publicKey own)) text)
  opens own other _ text content encrypted := by
    cases (Option.ite_none_left_eq_some.mp encrypted).2
    dsimp only [pairCrates, groupCrates]
    exact decrypt_encrypt _ _ text
  authentic own recipient _ text content secret author opened encrypted opens := by
    cases (Option.ite_none_left_eq_some.mp encrypted).2
    dsimp only [pairCrates] at opens
    exact eq_of_decrypt opens

def pairAvatar : Config pairCrates where
  avatarKeys := ⟨1⟩
  loginXpriv := ⟨3, 11, by decide⟩
  loginXpub := derivation.neuter ⟨3, 11, by decide⟩
  allowlist := []
  userMap := none

def pairLabels : List (Label pairCrates) :=
  [.receive { id := 10, pubkey := 9, kind := protocolKind, tags := [], content := encrypt 2 9 "attach" }
    io, .perform, .perform]

def pairState : AvatarState pairCrates := AvatarState.replayed pairAvatar AvatarState.new pairLabels

def pairTrace : List (Transition (AvatarState pairCrates) (Label pairCrates)) :=
  AvatarState.replay pairAvatar AvatarState.new pairLabels

end Transparent

open Transparent AvatarState in
/-- The KeyMaster that attached with `realmXpriv` has keys for its `ssh` channel. -/
theorem ssh_channel_paired :
    ∃ session channel, pairState.loop.mgr.sessions.lookup (10 : Nat) = some session ∧
      session.channels.lookup "ssh" = some channel ∧
      ∃ turn msg, turn.event ∈ receivedEvents pairTrace ∧ turn.event.id = (10 : Nat) ∧
        AttachedBy pairAvatar session turn msg ∧
        ∃ seq kmKeys, deriveServiceKeys pairCrates realmXpriv "ssh" seq = some kmKeys ∧
          channel.kmServicePubkey = kmKeys.publicKey := by
  have run : Run (Step pairAvatar) new pairTrace pairState := replay_run (by decide +kernel)
  obtain ⟨session, found⟩ : ∃ session, pairState.loop.mgr.sessions.lookup (10 : Nat) = some session :=
    Option.isSome_iff_exists.mp (by decide +kernel)
  have channels : ((pairState.loop.mgr.sessions.lookup (10 : Nat)).bind fun session =>
      session.channels.lookup "ssh").isSome = true := by decide +kernel
  have realm : (pairState.loop.mgr.sessions.lookup (10 : Nat)).bind RootSession.realmXpub =
      some (derivation.neuter realmXpriv) := by decide +kernel
  rw [found, Option.bind_some] at channels realm
  obtain ⟨channel, isChannel⟩ := Option.isSome_iff_exists.mp channels
  obtain ⟨turn, msg, received, isId, attached, paired⟩ :=
    run_channels_paired pairKeys pairNip44 rfl run found
  obtain ⟨seq, _, kmKeys, derived, both⟩ :=
    paired realmXpriv (attached.realmXpub.symm.trans realm) "ssh" channel isChannel
  exact ⟨session, channel, found, isChannel, turn, msg, received, isId, attached, seq.toNat, kmKeys,
    derived, both.kmKey⟩

end KeyMaster

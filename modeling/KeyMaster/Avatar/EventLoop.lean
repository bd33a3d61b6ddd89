import KeyMaster.Avatar.Attach
import KeyMaster.JsonRpc

namespace KeyMaster

open Data

/-! The event loop of `main.rs`.

A handler is the list of the actions it takes, in order.  Each action is one
critical section on shared state: the session table, the pending map or the
socket directory.  The handlers are the only writers of the session table, so
what they read from it at the start of an event still stands at their end.
-/

inductive ListenerStart where
  | started
  /-- `chmod` or `chown` failed: the socket stays bound, the listener is closed. -/
  | setupFailed
  | bindFailed
deriving DecidableEq, Repr

/-- What the world answers to the I/O of one handler call. -/
structure HandlerIo where
  sendOk : Bool
  listener : ListenerStart
deriving DecidableEq, Repr

structure SentResponse (C : Crates) where
  recipient : C.PublicKey
  replyTo : C.EventId
  response : JsonRpcResponse

inductive Action (C : Crates) where
  /-- Evict the pubkey's stale session and create a new one, under one write lock. -/
  | evictAndCreate (sessionId : C.EventId) (kmPubkey : C.PublicKey) (services : List String)
      (identity : String) (realmXpub : Option C.Xpub) (shutdown : Sender)
  | addServiceChannel (sessionId : C.EventId) (channel : ServiceChannel C)
  | removeSession (sessionId : C.EventId)
  | setApiSocketShutdown (sessionId : C.EventId) (shutdown : Sender)
  | sendResponse (sent : SentResponse C)
  | removeSocketFile (path : String)
  | bindSocket (path : String) (turn : Nat)
  | spawnListener (turn : Nat) (identity : String)
  | closeListener (turn : Nat)
  /-- Take the sender that waits for the event out of the pending map. -/
  | takePending (event : Event C) (replyTo : C.EventId)
  | deliver (event : Event C) (plaintext : String)

variable {C : Crates}

/-! ### Handlers -/

/-- `send_response`, whose failure ends the handler. -/
def sendResponse (io : HandlerIo) (event : Event C) (response : JsonRpcResponse) :
    List (Action C) :=
  if io.sendOk then [.sendResponse { recipient := event.pubkey, replyTo := event.id, response }]
  else []

/-- The reply-to event id: the first `e` tag marked `reply` that names one. -/
def replyTo (event : Event C) : Option C.EventId :=
  event.tags.findSome? fun tag =>
    match tag with
    | name :: eventId :: _ :: marker :: _ =>
        if name = "e" ∧ marker = "reply" then C.eventIdFromHex eventId else none
    | _ => none

def handleResponse (event : Event C) (plaintext : String) : List (Action C) :=
  match replyTo event with
  | some replyToId => [.takePending event replyToId, .deliver event plaintext]
  | none => []

def socketPath (uid : UInt32) : String := "api-" ++ toString uid.toNat ++ ".sock"

def startUserListener (io : HandlerIo) (turn : Nat) (user : UserEntry) (identity : String) :
    List (Action C) :=
  .removeSocketFile (socketPath user.uid) ::
    match io.listener with
    | .started => [.bindSocket (socketPath user.uid) turn, .spawnListener turn identity]
    | .setupFailed => [.bindSocket (socketPath user.uid) turn, .closeListener turn]
    | .bindFailed => []

def createUserSocket (config : Config C) (io : HandlerIo) (turn : Nat) (sessionId : C.EventId)
    (identity : String) : List (Action C) :=
  match config.userMap.bind fun map => map.lookup identity with
  | none => []
  | some user =>
      startUserListener io turn user identity ++
        if io.listener = .started then [.setApiSocketShutdown sessionId (.apiSocket turn)] else []

/-- The steps after the checks and the fast path: the first service that
cannot be derived ends the handler. -/
def establishSession (config : Config C) (io : HandlerIo) (turn : Nat) (event : Event C)
    (msg : JsonRpcMessage) (params : Value) : List (Action C) :=
  let services := attachServices params
  let identity := attachIdentity params
  let realmXpub := attachRealmXpub C params
  let (channels, complete) := deriveChannels C config.loginXpriv realmXpub event.pubkey services
  .evictAndCreate event.id event.pubkey (services.map Prod.fst) identity realmXpub (.session turn) ::
    channels.map (.addServiceChannel event.id) ++
    if complete then
      createUserSocket config io turn event.id identity ++
        sendResponse io event (acceptedResponse msg services)
    else []

def handleAttach (config : Config C) (mgr : SessionManager C) (io : HandlerIo) (turn : Nat)
    (event : Event C) (msg : JsonRpcMessage) : List (Action C) :=
  let params := attachParams msg.params
  match attachChecks C config params with
  | .error (.rejected message) => sendResponse io event (rejectedResponse msg message)
  | .error .invalidKey => []
  | .ok () =>
      if mgr.realmXpubMatches event.pubkey (attachRealmXpub C params) = some true then
        -- Idempotent re-attach: ack without touching the table.
        sendResponse io event (acceptedResponse msg (attachServices params))
      else establishSession config io turn event msg params

def handleDetach (mgr : SessionManager C) (io : HandlerIo) (event : Event C) : List (Action C) :=
  ((mgr.findSessionByKmPubkey event.pubkey).map Action.removeSession).toList ++
    sendResponse io event (.success .null (jsonObject [("status", .string "ok")]))

def unknownMethod (io : HandlerIo) (event : Event C) (msg : JsonRpcMessage) : List (Action C) :=
  sendResponse io event (.failure (msg.id.getD .null) jsonrpcMethodNotFound "unknown method")

/-- Decrypt with the avatar's root keys or else with any service keys. -/
def decryptEvent (config : Config C) (mgr : SessionManager C) (event : Event C) : Option String :=
  (C.nip44Decrypt config.avatarKeys.secretKey event.pubkey event.content).or
    (mgr.tryDecryptWithServiceKeys event.pubkey event.content)

inductive Incoming where
  | response (plaintext : String)
  | attach (msg : JsonRpcMessage)
  | detach
  | unknownMethod (msg : JsonRpcMessage)
  /-- Not for us, not a message, or neither a response nor a request. -/
  | ignored

def readEvent (config : Config C) (mgr : SessionManager C) (event : Event C) : Incoming :=
  match decryptEvent config mgr event with
  | none => .ignored
  | some plaintext =>
      match (C.parseJson plaintext).bind JsonRpcMessage.deserialize with
      | none => .ignored
      | some msg =>
          if msg.isResponse then .response plaintext
          else
            match msg.method with
            | none => .ignored
            | some method =>
                if method = "attach" then .attach msg
                else if method = "detach" then .detach
                else .unknownMethod msg

def protocolKind : Nat := 27235

def handleEvent (config : Config C) (mgr : SessionManager C) (io : HandlerIo) (turn : Nat)
    (event : Event C) : List (Action C) :=
  if event.kind = protocolKind then
    match readEvent config mgr event with
    | .response plaintext => handleResponse event plaintext
    | .attach msg => handleAttach config mgr io turn event msg
    | .detach => handleDetach mgr io event
    | .unknownMethod msg => unknownMethod io event msg
    | .ignored => []
  else []

/-! ### The event loop's own state -/

/-- The session table and what the handlers leave behind.  `signalled` lists
the senders that `send(true)` was called on, `dropped` those that went out of
scope unsent. -/
structure LoopState (C : Crates) where
  mgr : SessionManager C
  signalled : List Sender
  dropped : List Sender
  sent : List (SentResponse C)
  turn : Nat

namespace LoopState

def new : LoopState C := ⟨.new, [], [], [], 0⟩

/-- A listener's `shutdown_rx.changed()` returns once its sender was used or dropped. -/
def Stopped (state : LoopState C) (sender : Sender) : Prop :=
  sender ∈ state.signalled ∨ sender ∈ state.dropped

instance (state : LoopState C) (sender : Sender) : Decidable (state.Stopped sender) :=
  inferInstanceAs (Decidable (_ ∨ _))

def evict (state : LoopState C) (kmPubkey : C.PublicKey) : LoopState C :=
  match state.mgr.findSessionByKmPubkey kmPubkey with
  | none => state
  | some sessionId =>
      let (mgr, signalled) := state.mgr.removeSession sessionId
      { state with mgr, signalled := state.signalled ++ signalled }

/-- The effect of an action on the session table; socket and pending actions
have none. -/
def perform (state : LoopState C) : Action C → LoopState C
  | .evictAndCreate sessionId kmPubkey services identity realmXpub shutdown =>
      let evicted := state.evict kmPubkey
      { evicted with
        mgr := evicted.mgr.createRootSession sessionId kmPubkey services identity [] realmXpub
          (some shutdown)
        -- A session under the same id is overwritten, which drops its senders.
        dropped := evicted.dropped ++
          (evicted.mgr.sessions.lookup sessionId).elim [] RootSession.senders }
  | .addServiceChannel sessionId channel =>
      { state with
        mgr := state.mgr.addServiceChannel sessionId channel.serviceType channel.serviceAvatarKeys
          channel.kmServicePubkey channel.kmRealmPubkey }
  | .removeSession sessionId =>
      let (mgr, signalled) := state.mgr.removeSession sessionId
      { state with mgr, signalled := state.signalled ++ signalled }
  | .setApiSocketShutdown sessionId shutdown =>
      { state with
        mgr := state.mgr.setApiSocketShutdown sessionId shutdown
        dropped := state.dropped ++
          (state.mgr.sessions.lookup sessionId).elim [shutdown] fun session =>
            session.apiSocketShutdown.toList }
  | .sendResponse sent => { state with sent := state.sent ++ [sent] }
  | _ => state

def passed (state : LoopState C) : List (Action C) → List (LoopState C)
  | [] => [state]
  | action :: rest => state :: (state.perform action).passed rest

def run (state : LoopState C) (actions : List (Action C)) : LoopState C :=
  actions.foldl perform state

end LoopState

/-- One event as the loop handles it: the answers to its I/O and the iteration
order of the table that its scans see. -/
structure Turn (C : Crates) where
  event : Event C
  io : HandlerIo
  table : SessionManager C

namespace LoopState

/-- Start a turn: the new turn number names the senders it makes. -/
def begin (state : LoopState C) (turn : Turn C) : LoopState C :=
  { state with mgr := turn.table, turn := state.turn + 1 }

def actions (config : Config C) (state : LoopState C) (turn : Turn C) : List (Action C) :=
  handleEvent config turn.table turn.io (state.turn + 1) turn.event

def handle (config : Config C) (state : LoopState C) (turn : Turn C) : LoopState C :=
  (state.begin turn).run (state.actions config turn)

/-- Handle the next event, iterating the table in any order. -/
def Step (config : Config C) (before : LoopState C) (turn : Turn C) (after : LoopState C) : Prop :=
  before.mgr.SameContents turn.table ∧ after = before.handle config turn

/-- The states in which another task may find the table during a turn. -/
def during (config : Config C) (state : LoopState C) (turn : Turn C) : List (LoopState C) :=
  (state.begin turn).passed (state.actions config turn)

end LoopState

end KeyMaster

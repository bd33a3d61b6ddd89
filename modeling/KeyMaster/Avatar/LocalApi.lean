import KeyMaster.Avatar.EventLoop

namespace KeyMaster

open Data

/-! The shared state of `local_api.rs`: the calls that forward a request to
Nostr with the pending map, and the per-user listeners with the socket
directory.  `perform` is the share that the event loop's actions have in each.
-/

variable {C : Crates}

/-! ### Forwarded requests -/

/-- How `forward_to_nostr` ends.  Its branch for a dropped response channel is
left out: it needs two requests under one event id. -/
inductive Outcome (C : Crates) where
  | noSession
  | sendFailed
  | timedOut
  | answered (event : Event C) (plaintext : String)
deriving DecidableEq

inductive Phase (C : Crates) where
  | sending
  /-- The relay may have the request event, the pending map not yet its sender. -/
  | published
  | waiting
  /-- The timer fired: the receiver is gone, the pending entry not yet removed. -/
  | expired
  | received (event : Event C) (plaintext : String)
  | returned (outcome : Outcome C)
deriving DecidableEq

structure Call (C : Crates) where
  request : JsonRpcRequest
  channel : Option (ChannelInfo C)
  sent : Option (Event C)
  phase : Phase C

def Call.eventId (call : Call C) : Option C.EventId := call.sent.map Event.id

def Outcome.response (outcome : Outcome C) (request : JsonRpcRequest) : JsonRpcResponse :=
  let id := request.id.getD .null
  match outcome with
  | .noSession => .failure id jsonrpcNoSession "no service channel available"
  | .sendFailed => .failure id jsonrpcSendFailed "failed to send request"
  | .timedOut => .failure id jsonrpcTimeout "timeout"
  | .answered _ plaintext =>
      match C.parseJson plaintext with
      | none =>
          .failure id jsonrpcInternalError ("invalid response: " ++ C.jsonErrorText plaintext)
      | some value =>
          match JsonRpcResponse.deserialize value with
          | some response => response
          -- Not a JSON-RPC response: wrap the raw value.
          | none => .success id value.normalize

/-- The event of `send_service_request`; `content` is the encrypted request. -/
def serviceRequest (channel : ChannelInfo C) (id : C.EventId) (content : String) : Event C where
  id := id
  pubkey := channel.serviceKeys.publicKey
  kind := protocolKind
  tags := [["p", C.publicKeyToHex channel.kmServicePubkey],
    ["p", C.publicKeyToHex channel.kmRealmPubkey, "", "realm"]]
  content := content

/-- The channel for a request: scoped to an identity when there is one. -/
def SessionManager.lookupChannel (mgr : SessionManager C) (serviceType : String) :
    Option String → Option (ChannelInfo C)
  | some identity => mgr.findServiceChannelForIdentity serviceType identity
  | none => mgr.findServiceChannel serviceType

/-- The calls made so far and the pending map, which leads from a request
event to the call that holds the receiver. -/
structure LocalApi (C : Crates) where
  calls : HashMap Nat (Call C)
  pending : HashMap C.EventId Nat
  /-- The call whose sender `handle_response` took out and is about to use. -/
  taken : Option Nat

namespace LocalApi

def new : LocalApi C := ⟨∅, ∅, none⟩

def phase (api : LocalApi C) (callId : Nat) : Option (Phase C) :=
  (api.calls.lookup callId).map Call.phase

def sentIds (api : LocalApi C) : List C.EventId := api.calls.values.filterMap Call.eventId

def update (api : LocalApi C) (callId : Nat) (change : Call C → Call C) : LocalApi C :=
  { api with calls := HashMap.modify api.calls callId change }

def setPhase (api : LocalApi C) (callId : Nat) (phase : Phase C) : LocalApi C :=
  api.update callId fun call => { call with phase }

/-- Look the channel up; without one the call returns at once. -/
def start (api : LocalApi C) (callId : Nat) (request : JsonRpcRequest)
    (channel : Option (ChannelInfo C)) : LocalApi C :=
  { api with
    calls := api.calls.insert callId
      { request, channel, sent := none,
        phase := if channel.isSome then .sending else .returned .noSession } }

/-- Hand the request event to the relay. -/
def publish (api : LocalApi C) (callId : Nat) (eventId : C.EventId) (content : String) :
    LocalApi C :=
  api.update callId fun call =>
    { call with
      sent := call.channel.map fun channel => serviceRequest channel eventId content
      phase := .published }

/-- Insert the sender into the pending map and start to wait. -/
def register (api : LocalApi C) (callId : Nat) : LocalApi C :=
  match (api.calls.lookup callId).bind Call.eventId with
  | none => api
  | some eventId =>
      { api.setPhase callId .waiting with pending := api.pending.insert eventId callId }

/-- After a timeout: remove the pending entry and return. -/
def forget (api : LocalApi C) (callId : Nat) : LocalApi C :=
  match (api.calls.lookup callId).bind Call.eventId with
  | none => api
  | some eventId =>
      { api.setPhase callId (.returned .timedOut) with pending := api.pending.erase eventId }

def finish (api : LocalApi C) (callId : Nat) : LocalApi C :=
  api.update callId fun call =>
    match call.phase with
    | .received event plaintext => { call with phase := .returned (.answered event plaintext) }
    | _ => call

/-- Send to the call's receiver, which is there only while the call waits. -/
def send (api : LocalApi C) (callId : Nat) (event : Event C) (plaintext : String) : LocalApi C :=
  api.update callId fun call =>
    if call.phase = .waiting then { call with phase := .received event plaintext } else call

def perform (api : LocalApi C) : Action C → LocalApi C
  | .takePending _ replyTo =>
      { api with pending := api.pending.erase replyTo, taken := api.pending.lookup replyTo }
  | .deliver event plaintext =>
      match api.taken with
      | none => api
      | some callId => { api.send callId event plaintext with taken := none }
  | _ => api

end LocalApi

/-! ### Per-user listeners -/

/-- A listener of `start_user_listener`.  `identity` is set when its task is
spawned and scopes every connection that it accepts. -/
structure Listener where
  path : String
  identity : Option String
  running : Bool
deriving DecidableEq, Repr

/-- The socket files, each with the turn of the listener that it leads to, and
the listeners by the turn that bound them. -/
structure SocketDir where
  files : HashMap String Nat
  listeners : HashMap Nat Listener
  /-- The turn that bound each path last. -/
  lastBound : HashMap String Nat

namespace SocketDir

def new : SocketDir := ⟨∅, ∅, ∅⟩

def close (dir : SocketDir) (turn : Nat) : SocketDir :=
  { dir with
    listeners := HashMap.modify dir.listeners turn fun listener =>
      { listener with running := false } }

/-- A listener's task ends: it removes its path and closes the listener. -/
def stop (dir : SocketDir) (turn : Nat) : SocketDir :=
  match dir.listeners.lookup turn with
  | none => dir
  | some listener => { dir.close turn with files := dir.files.erase listener.path }

def perform (dir : SocketDir) : Action C → SocketDir
  | .removeSocketFile path => { dir with files := dir.files.erase path }
  | .bindSocket path turn =>
      { files := dir.files.insert path turn
        listeners := dir.listeners.insert turn ⟨path, none, true⟩
        lastBound := dir.lastBound.insert path turn }
  | .spawnListener turn identity =>
      { dir with
        listeners := HashMap.modify dir.listeners turn fun listener =>
          { listener with identity := some identity } }
  | .closeListener turn => dir.close turn
  | _ => dir

/-- The identity that scopes a connection: a per-user listener's own, or none
for the default listener, which is started when there is no user map. -/
def scope (config : Config C) (dir : SocketDir) : Option Nat → Option (Option String)
  | some turn => ((dir.listeners.lookup turn).bind Listener.identity).map some
  | none => if config.userMap.isNone then some none else none

end SocketDir

end KeyMaster

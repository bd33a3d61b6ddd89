import KeyMaster.Data.HashMap
import KeyMaster.JsonRpc
import KeyMaster.NostrSa.Translation

namespace KeyMaster.NostrSa

open Data

/-! The bridge of `km-nostr-sa`: client handlers that share one queue, and a
loop that works it off over one avatar connection after another. -/

/-! ### Requests -/

/-- The reply channel of a request, named after the client that sent it and
the position of its message. -/
structure ReplyChannel where
  client : Nat
  message : Nat
deriving DecidableEq

structure ClientRequest where
  method : String
  params : Value
  clientId : Value
  reply : ReplyChannel

def methodOf (msg : Value) : Option String := (msg.get "method").bind Value.asStr

/-- The request that `handle_client` makes of a message with a method. -/
def requestOf (reply : ReplyChannel) (msg : Value) : Option ClientRequest :=
  (methodOf msg).map fun method =>
    { method
      params := (msg.get "params").getD (jsonObject [])
      clientId := (msg.get "id").getD .null
      reply }

def missingMethod (msg : Value) : Value :=
  jsonObject [("jsonrpc", .string "2.0"),
    ("error", jsonObject [("code", .number (.negInt (-32600))), ("message", .string "missing method")]),
    ("id", (msg.get "id").getD .null)]

def avatarRequest (codecs : Codecs) (request : ClientRequest) (id : UInt64) : JsonRpcRequest where
  jsonrpc := "2.0"
  method := "nostr." ++ request.method
  params := translateRequestParams codecs request.method request.params
  id := some (.number (.posInt id))

def connectRequest : JsonRpcRequest where
  jsonrpc := "2.0"
  method := "connect"
  params := jsonObject [("type", .string "nostr")]
  id := some (.number (.posInt 1))

def answeredReply (codecs : Codecs) (request : ClientRequest) (answer : JsonRpcResponse) :
    JsonRpcResponse where
  jsonrpc := "2.0"
  result := answer.result.map (translateResponseResult codecs request.method)
  error := answer.error
  id := request.clientId

def failedReply (request : ClientRequest) (message : String) : JsonRpcResponse :=
  .failure request.clientId jsonrpcInternalError ("avatar connection error: " ++ message)

/-! ### State -/

inductive Handler where
  | reading
  /-- The queue has no room yet. -/
  | sending (request : ClientRequest)
  | waiting (reply : ReplyChannel)
  | closed

/-- A client: the messages read from it, the frames written to it, and what its
handler does. -/
structure Client where
  messages : List Value
  frames : List Value
  handler : Handler

/-- A connection to the avatar: the request lines sent, the lines with which
the avatar answers them, and how many of these have been read. -/
structure AvatarStream where
  lines : List JsonRpcRequest
  answers : List String
  read : Nat

inductive Phase where
  | disconnected
  | connecting
  | idle
  | exchanging (request : ClientRequest) (id : UInt64)

inductive Ending where
  /-- An answer was read, at this position of this connection. -/
  | answered (connection position : Nat) (id : UInt64) (text : String) (answer : JsonRpcResponse)
  | failed (message : String)

structure Exchange where
  request : ClientRequest
  ending : Ending

structure Bridge where
  clients : List Client
  queue : List ClientRequest
  /-- What has been sent on the reply channels. -/
  replies : HashMap ReplyChannel JsonRpcResponse
  /-- `REQUEST_COUNTER`. -/
  nextId : UInt64
  phase : Phase
  /-- The connections lost, and the latest one. -/
  past : List AvatarStream
  stream : AvatarStream
  exchanges : List Exchange

variable (codecs : Codecs)

def Exchange.response (exchange : Exchange) : JsonRpcResponse :=
  match exchange.ending with
  | .answered _ _ _ _ answer => answeredReply codecs exchange.request answer
  | .failed message => failedReply exchange.request message

namespace Bridge

/-- No client and no connection yet; the id `1` is reserved for `connect`. -/
def start : Bridge := ⟨[], [], ∅, 2, .disconnected, [], ⟨[], [], 0⟩, []⟩

def setClient (bridge : Bridge) (number : Nat) (client : Client) : Bridge :=
  { bridge with clients := bridge.clients.set number client }

def settle (bridge : Bridge) (exchange : Exchange) (phase : Phase) : Bridge :=
  { bridge with
    replies := bridge.replies.insert exchange.request.reply (exchange.response codecs)
    exchanges := bridge.exchanges ++ [exchange]
    phase }

end Bridge

/-! ### Steps -/

def queueCapacity : Nat := 32

inductive Label where
  | accept
  | readMessage (client : Nat) (msg : Value)
  | refuse (client : Nat) (msg : Value) (written : Bool)
  | disconnect (client : Nat)
  | enqueue (client : Nat)
  | writeReply (client : Nat) (written : Bool)
  /-- A new connection, with the connect line sent or not. -/
  | openConnection (written : Bool)
  | connected (text : String) (answer : JsonRpcResponse)
  | connectFailed
  | takeRequest
  | takeAndFail (message : String)
  /-- The avatar answers the oldest unanswered line. -/
  | avatarAnswers (text : String)
  | readAnswer (text : String) (answer : JsonRpcResponse)
  /-- A read error, the end of the stream, or a line that is no response. -/
  | readFailed (message : String)

def readsAs (text : String) (answer : JsonRpcResponse) : Prop :=
  readLineMessage (fun json => (codecs.parseJson json).toOption) JsonRpcResponse.deserialize text =
    some answer

def Client.receive (client : Client) (msg : Value) (handler : Handler) : Client :=
  { client with messages := client.messages ++ [msg], handler }

/-- Write a frame; if that fails, the handler ends. -/
def Client.write (client : Client) (frame : Value) (written : Bool) : Client :=
  if written then { client with frames := client.frames ++ [frame], handler := .reading }
  else { client with handler := .closed }

def JsonRpcError.toValue (error : JsonRpcError) : Value :=
  jsonObject ([("code", .number (if error.code < 0 then .negInt (Int64.ofInt error.code)
      else .posInt (UInt64.ofInt error.code))), ("message", .string error.message)] ++
    (error.data.map fun data => ("data", data)).toList)

/-- `serde_json::to_value` of a response: absent members are left out. -/
def responseValue (response : JsonRpcResponse) : Value :=
  jsonObject ([("jsonrpc", .string response.jsonrpc), ("id", response.id)] ++
    (response.result.map fun result => ("result", result)).toList ++
    (response.error.map fun error => ("error", JsonRpcError.toValue error)).toList)

inductive Step : Bridge → Label → Bridge → Prop
  | accept (bridge : Bridge) :
      Step bridge .accept { bridge with clients := bridge.clients ++ [⟨[], [], .reading⟩] }
  | readMessage {bridge : Bridge} {number : Nat} {client : Client} {msg : Value}
      {request : ClientRequest} (found : bridge.clients[number]? = some client)
      (reading : client.handler = .reading)
      (isRequest : requestOf ⟨number, client.messages.length⟩ msg = some request) :
      Step bridge (.readMessage number msg)
        (bridge.setClient number (client.receive msg (.sending request)))
  | refuse {bridge : Bridge} {number : Nat} {client : Client} {msg : Value} {written : Bool}
      (found : bridge.clients[number]? = some client) (reading : client.handler = .reading)
      (noMethod : methodOf msg = none) :
      Step bridge (.refuse number msg written)
        (bridge.setClient number ((client.receive msg .reading).write (missingMethod msg) written))
  | disconnect {bridge : Bridge} {number : Nat} {client : Client}
      (found : bridge.clients[number]? = some client) (reading : client.handler = .reading) :
      Step bridge (.disconnect number) (bridge.setClient number { client with handler := .closed })
  | enqueue {bridge : Bridge} {number : Nat} {client : Client} {request : ClientRequest}
      (found : bridge.clients[number]? = some client) (sending : client.handler = .sending request)
      (room : bridge.queue.length < queueCapacity) :
      Step bridge (.enqueue number)
        { bridge.setClient number { client with handler := .waiting request.reply } with
          queue := bridge.queue ++ [request] }
  | writeReply {bridge : Bridge} {number : Nat} {client : Client} {reply : ReplyChannel}
      {response : JsonRpcResponse} {written : Bool} (found : bridge.clients[number]? = some client)
      (waiting : client.handler = .waiting reply)
      (sent : bridge.replies.lookup reply = some response) :
      Step bridge (.writeReply number written)
        (bridge.setClient number (client.write (responseValue response) written))
  | openConnection {bridge : Bridge} {written : Bool} (disconnected : bridge.phase = .disconnected) :
      Step bridge (.openConnection written)
        { bridge with
          past := bridge.past ++ [bridge.stream]
          stream := ⟨if written then [connectRequest] else [], [], 0⟩
          phase := if written then .connecting else .disconnected }
  | connected {bridge : Bridge} {text : String} {answer : JsonRpcResponse}
      (connecting : bridge.phase = .connecting)
      (arrived : bridge.stream.answers[bridge.stream.read]? = some text)
      (reads : readsAs codecs text answer) (accepted : answer.error = none) :
      Step bridge (.connected text answer)
        { bridge with
          stream := { bridge.stream with read := bridge.stream.read + 1 }
          phase := .idle }
  | connectFailed {bridge : Bridge} (connecting : bridge.phase = .connecting) :
      Step bridge .connectFailed { bridge with phase := .disconnected }
  | takeRequest {bridge : Bridge} {request : ClientRequest} {rest : List ClientRequest}
      (idle : bridge.phase = .idle) (next : bridge.queue = request :: rest) :
      Step bridge .takeRequest
        { bridge with
          queue := rest
          nextId := bridge.nextId + 1
          stream := { bridge.stream with
            lines := bridge.stream.lines ++ [avatarRequest codecs request bridge.nextId] }
          phase := .exchanging request bridge.nextId }
  | takeAndFail {bridge : Bridge} {request : ClientRequest} {rest : List ClientRequest}
      {message : String} (idle : bridge.phase = .idle) (next : bridge.queue = request :: rest) :
      Step bridge (.takeAndFail message)
        ({ bridge with queue := rest, nextId := bridge.nextId + 1 }.settle codecs
          ⟨request, .failed message⟩ .disconnected)
  | avatarAnswers {bridge : Bridge} {text : String}
      (unanswered : bridge.stream.answers.length < bridge.stream.lines.length) :
      Step bridge (.avatarAnswers text)
        { bridge with
          stream := { bridge.stream with answers := bridge.stream.answers ++ [text] } }
  | readAnswer {bridge : Bridge} {request : ClientRequest} {id : UInt64} {text : String}
      {answer : JsonRpcResponse} (exchanging : bridge.phase = .exchanging request id)
      (arrived : bridge.stream.answers[bridge.stream.read]? = some text)
      (reads : readsAs codecs text answer) :
      Step bridge (.readAnswer text answer)
        ({ bridge with
            stream := { bridge.stream with read := bridge.stream.read + 1 } }.settle codecs
          ⟨request, .answered bridge.past.length bridge.stream.read id text answer⟩ .idle)
  | readFailed {bridge : Bridge} {request : ClientRequest} {id : UInt64} {message : String}
      (exchanging : bridge.phase = .exchanging request id) :
      Step bridge (.readFailed message)
        (bridge.settle codecs ⟨request, .failed message⟩ .disconnected)

end KeyMaster.NostrSa

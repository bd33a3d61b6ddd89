import KeyMaster.Data.Calls
import KeyMaster.Data.Conversation
import KeyMaster.JsonRpcRelay
import KeyMaster.SshSa.Answers

namespace KeyMaster.SshSa

open Data

/-! The bridge of `km-ssh-sa`: a handler for each agent client, a queue that they
share, and a loop that works it off over one avatar connection after another. -/

variable (codecs : Codecs)

/-! ### Messages -/

/-- The line that the loop sends for a request. -/
def rpcRequest (request : AgentRequest) (id : UInt64) : JsonRpcRequest :=
  match request with
  | .requestIdentities =>
      ⟨"2.0", "ssh.request_identities", jsonObject [], some (.number (.posInt id))⟩
  | .signRequest keyBlob data flags =>
      { jsonrpc := "2.0"
        method := "ssh.sign_request"
        params := jsonObject [("key_blob", .string (codecs.base64Encode keyBlob)),
          ("data", .string (codecs.base64Encode data)),
          ("flags", .number (.posInt flags.toUInt64))]
        id := some (.number (.posInt id)) }

def connectRequest (npub : String) : JsonRpcRequest where
  jsonrpc := "2.0"
  method := "connect"
  params := jsonObject [("npub", .string npub), ("type", .string "ssh")]
  id := some (.number (.posInt 1))

/-- What the client of a request is answered; the response is missing if the
exchange with the avatar failed. -/
def answerOf (request : AgentRequest) (resp : Option JsonRpcResponse) : List UInt8 :=
  match request with
  | .requestIdentities => identitiesAnswer (some (identitiesReply codecs resp))
  | .signRequest _ _ _ => signAnswer (some (signReply codecs resp))

/-! ### State -/

/-- A request in the queue: the call that it belongs to, and the payload that it
was made of. -/
structure Queued where
  ticket : Calls.Ticket
  payload : List UInt8
  request : AgentRequest

inductive Handler where
  | reading
  /-- The queue has no room yet. -/
  | sending (payload : List UInt8) (request : AgentRequest)
  /-- The timer runs. -/
  | waiting
  | answering (answer : List UInt8)
  | closed

/-- An agent client: the payloads read from it, the answers written to it, and
what its handler does. -/
structure Client where
  payloads : List (List UInt8)
  answers : List (List UInt8)
  handler : Handler

inductive Phase where
  | disconnected
  | connecting
  | idle
  | exchanging (queued : Queued) (id : UInt64)

inductive Ending where
  /-- An answer was read, at this position of this avatar connection. -/
  | answered (connection position : Nat) (id : UInt64) (text : String) (resp : JsonRpcResponse)
  | failed (message : String)

def Ending.response : Ending → Option JsonRpcResponse
  | .answered _ _ _ _ resp => some resp
  | .failed _ => none

def Ending.position : Ending → Option (Nat × Nat)
  | .answered connection position _ _ _ => some (connection, position)
  | .failed _ => none

/-- The answer to a payload that an exchange leads to. -/
def respond (payload : List UInt8) (ending : Ending) : List UInt8 :=
  match handlePayload payload with
  | .ok (.forwards request) => answerOf codecs request ending.response
  | _ => [sshAgentFailure]

abbrev AvatarStream := Conversation JsonRpcRequest String

abbrev Served := Calls.Exchange (List UInt8) Ending

structure Bridge where
  clients : List Client
  queue : List Queued
  /-- `REQUEST_COUNTER`. -/
  nextId : UInt64
  phase : Phase
  /-- The connections lost, and the latest one. -/
  past : List AvatarStream
  stream : AvatarStream
  /-- The requests settled. Each has a reply sent on its channel. -/
  exchanges : List Served

namespace Bridge

/-- No client and no connection yet; the id `1` is reserved for `connect`. -/
def start : Bridge := ⟨[], [], 2, .disconnected, [], ⟨[], [], 0⟩, []⟩

def setClient (bridge : Bridge) (number : Nat) (client : Client) : Bridge :=
  { bridge with clients := bridge.clients.set number client }

def setHandler (bridge : Bridge) (number : Nat) (client : Client) (handler : Handler) : Bridge :=
  bridge.setClient number { client with handler }

def settle (bridge : Bridge) (queued : Queued) (ending : Ending) (phase : Phase) : Bridge :=
  { bridge with
    phase, exchanges := bridge.exchanges ++ [⟨queued.ticket, queued.payload, ending⟩] }

end Bridge

/-! ### Steps -/

def queueCapacity : Nat := 32

inductive Label where
  | accept
  | readPayload (client : Nat) (payload : List UInt8)
  /-- The client is gone, or the length of its message out of bounds. -/
  | disconnect (client : Nat)
  | enqueue (client : Nat)
  | receive (client : Nat)
  | timeout (client : Nat)
  | writeAnswer (client : Nat) (written : Bool)
  /-- A new connection, with the connect line sent or not. -/
  | openConnection (written : Bool)
  | connected (text : String)
  | connectFailed
  | takeRequest
  | takeAndFail (message : String)
  | avatarAnswers (request : JsonRpcRequest) (text : String)
  | readAnswer (text : String) (resp : JsonRpcResponse)
  /-- A read error, the end of the stream, or a line that is no response. -/
  | readFailed (message : String)

/-- What a handler does with a payload. -/
def handlerOf (payload : List UInt8) : Handling → Handler
  | .answers answer => .answering answer
  | .forwards request => .sending payload request

variable (npub : String)

inductive Step : Bridge → Label → Bridge → Prop
  | accept (bridge : Bridge) :
      Step bridge .accept { bridge with clients := bridge.clients ++ [⟨[], [], .reading⟩] }
  | readPayload {bridge : Bridge} {number : Nat} {client : Client} {payload : List UInt8}
      {handling : Handling} (found : bridge.clients[number]? = some client)
      (reading : client.handler = .reading) (nonempty : 1 ≤ payload.length)
      (small : payload.length ≤ maxPayload) (handles : handlePayload payload = .ok handling) :
      Step bridge (.readPayload number payload)
        (bridge.setClient number
          { client with
            payloads := client.payloads ++ [payload], handler := handlerOf payload handling })
  | disconnect {bridge : Bridge} {number : Nat} {client : Client}
      (found : bridge.clients[number]? = some client) (reading : client.handler = .reading) :
      Step bridge (.disconnect number) (bridge.setHandler number client .closed)
  | enqueue {bridge : Bridge} {number : Nat} {client : Client} {payload : List UInt8}
      {request : AgentRequest} (found : bridge.clients[number]? = some client)
      (sending : client.handler = .sending payload request)
      (room : bridge.queue.length < queueCapacity) :
      Step bridge (.enqueue number)
        { bridge.setHandler number client .waiting with
          queue := bridge.queue ++ [⟨⟨number, client.answers.length⟩, payload, request⟩] }
  | receive {bridge : Bridge} {number : Nat} {client : Client} {served : Served}
      (found : bridge.clients[number]? = some client) (waiting : client.handler = .waiting)
      (settled : served ∈ bridge.exchanges)
      (own : served.ticket = ⟨number, client.answers.length⟩) :
      Step bridge (.receive number)
        (bridge.setHandler number client (.answering (respond codecs served.call served.ending)))
  | timeout {bridge : Bridge} {number : Nat} {client : Client}
      (found : bridge.clients[number]? = some client) (waiting : client.handler = .waiting) :
      Step bridge (.timeout number) (bridge.setHandler number client (.answering [sshAgentFailure]))
  | writeAnswer {bridge : Bridge} {number : Nat} {client : Client} {answer : List UInt8}
      {written : Bool} (found : bridge.clients[number]? = some client)
      (answering : client.handler = .answering answer) :
      Step bridge (.writeAnswer number written)
        (bridge.setClient number
          (if written then { client with answers := client.answers ++ [answer], handler := .reading }
          else { client with handler := .closed }))
  | openConnection {bridge : Bridge} {written : Bool} (disconnected : bridge.phase = .disconnected) :
      Step bridge (.openConnection written)
        { bridge with
          past := bridge.past ++ [bridge.stream]
          stream := ⟨if written then [connectRequest npub] else [], [], 0⟩
          phase := if written then .connecting else .disconnected }
  | connected {bridge : Bridge} {text : String} {resp : JsonRpcResponse}
      (connecting : bridge.phase = .connecting) (arrived : bridge.stream.arrived? = some text)
      (reads : readResponseLine codecs text = some resp) (accepted : resp.error = none) :
      Step bridge (.connected text) { bridge with stream := bridge.stream.take, phase := .idle }
  | connectFailed {bridge : Bridge} (connecting : bridge.phase = .connecting) :
      Step bridge .connectFailed { bridge with phase := .disconnected }
  | takeRequest {bridge : Bridge} {queued : Queued} {rest : List Queued}
      (idle : bridge.phase = .idle) (next : bridge.queue = queued :: rest) :
      Step bridge .takeRequest
        { bridge with
          queue := rest
          nextId := bridge.nextId + 1
          stream := bridge.stream.send (rpcRequest codecs queued.request bridge.nextId)
          phase := .exchanging queued bridge.nextId }
  | takeAndFail {bridge : Bridge} {queued : Queued} {rest : List Queued} {message : String}
      (idle : bridge.phase = .idle) (next : bridge.queue = queued :: rest) :
      Step bridge (.takeAndFail message)
        ({ bridge with queue := rest, nextId := bridge.nextId + 1 }.settle queued (.failed message)
          .disconnected)
  | avatarAnswers {bridge : Bridge} {request : JsonRpcRequest} {text : String}
      (asked : bridge.stream.asked? = some request) :
      Step bridge (.avatarAnswers request text)
        { bridge with stream := bridge.stream.answer text }
  | readAnswer {bridge : Bridge} {queued : Queued} {id : UInt64} {text : String}
      {resp : JsonRpcResponse} (exchanging : bridge.phase = .exchanging queued id)
      (arrived : bridge.stream.arrived? = some text)
      (reads : readResponseLine codecs text = some resp) :
      Step bridge (.readAnswer text resp)
        ({ bridge with stream := bridge.stream.take }.settle queued
          (.answered bridge.past.length bridge.stream.read id text resp) .idle)
  | readFailed {bridge : Bridge} {queued : Queued} {id : UInt64} {message : String}
      (exchanging : bridge.phase = .exchanging queued id) :
      Step bridge (.readFailed message) (bridge.settle queued (.failed message) .disconnected)

end KeyMaster.SshSa

import KeyMaster.Data.Runs
import KeyMaster.NostrSa.Bridge

namespace KeyMaster.NostrSa

open Data

/-! Whose answer a client of the bridge gets. -/

variable (codecs : Codecs)

namespace Bridge

def message? (bridge : Bridge) (reply : ReplyChannel) : Option Value :=
  bridge.clients[reply.client]?.bind fun client => client.messages[reply.message]?

/-- The request made of the message that a reply channel belongs to. -/
def request? (bridge : Bridge) (reply : ReplyChannel) : Option ClientRequest :=
  (bridge.message? reply).bind (requestOf reply)

def streams (bridge : Bridge) : List AvatarStream := bridge.past ++ [bridge.stream]

end Bridge

def Exchange.position (exchange : Exchange) : Option (Nat × Nat) :=
  match exchange.ending with
  | .answered connection position _ _ _ => some (connection, position)
  | .failed _ => none

/-- The answer of an exchange is the avatar's answer to the request's own line. -/
def Exchange.Sound (streams : List AvatarStream) (exchange : Exchange) : Prop :=
  match exchange.ending with
  | .answered connection position id text answer =>
      ∃ stream, streams[connection]? = some stream ∧
        stream.lines[position]? = some (avatarRequest codecs exchange.request id) ∧
        stream.answers[position]? = some text ∧ readsAs codecs text answer
  | .failed _ => True

/-- The frame that answers a message: the reply of the exchange of the request
that was made of it. -/
def FrameAnswers (bridge : Bridge) (reply : ReplyChannel) (msg frame : Value) : Prop :=
  match requestOf reply msg with
  | none => frame = missingMethod msg
  | some request =>
      ∃ exchange ∈ bridge.exchanges, exchange.request = request ∧
        frame = responseValue (exchange.response codecs)

/-- Every client has its frames in the order of its messages, one each, with at
most the last one missing; a frame answers its own message; and an answer of
the avatar is used for one request only, the one whose line it answers. -/
structure BridgeCorrelates (bridge : Bridge) : Prop where
  frames : ∀ client ∈ bridge.clients, client.frames.length ≤ client.messages.length ∧
    client.messages.length ≤ client.frames.length + 1
  prompt : ∀ client ∈ bridge.clients, client.handler = .reading →
    client.frames.length = client.messages.length
  answers : ∀ (number index : Nat) (client : Client) (msg frame : Value),
    bridge.clients[number]? = some client → client.messages[index]? = some msg →
    client.frames[index]? = some frame → FrameAnswers codecs bridge ⟨number, index⟩ msg frame
  sound : ∀ exchange ∈ bridge.exchanges, exchange.Sound codecs bridge.streams
  once : (bridge.exchanges.filterMap Exchange.position).Nodup

/-! ### The invariant -/

def Client.Coherent (number : Nat) (client : Client) : Prop :=
  match client.handler with
  | .reading => client.frames.length = client.messages.length
  | .sending request => client.messages.length = client.frames.length + 1 ∧
      request.reply = ⟨number, client.frames.length⟩
  | .waiting reply => client.messages.length = client.frames.length + 1 ∧
      reply = ⟨number, client.frames.length⟩
  | .closed => client.frames.length ≤ client.messages.length ∧
      client.messages.length ≤ client.frames.length + 1

/-- All lines of the connection but the one that is being answered have been
answered and read. -/
def StreamPosition (bridge : Bridge) : Prop :=
  match bridge.phase with
  | .disconnected => True
  | .connecting => bridge.stream.read = 0 ∧ bridge.stream.lines.length = 1
  | .idle => bridge.stream.read = bridge.stream.lines.length
  | .exchanging request id =>
      bridge.stream.lines[bridge.stream.read]? = some (avatarRequest codecs request id) ∧
        bridge.stream.lines.length = bridge.stream.read + 1

def Handler.request? : Handler → Option ClientRequest
  | .sending request => some request
  | _ => none

def Phase.request? : Phase → Option ClientRequest
  | .exchanging request _ => some request
  | _ => none

inductive Circulates (bridge : Bridge) (request : ClientRequest) : Prop
  | sending {number : Nat} {client : Client} (found : bridge.clients[number]? = some client)
      (sends : client.handler.request? = some request)
  | queued (member : request ∈ bridge.queue)
  | exchanging (current : bridge.phase.request? = some request)
  | exchanged {exchange : Exchange} (member : exchange ∈ bridge.exchanges)
      (isRequest : exchange.request = request)

structure Coherent (bridge : Bridge) : Prop where
  clients : ∀ (number : Nat) (client : Client), bridge.clients[number]? = some client →
    client.Coherent number
  owned : ∀ request, Circulates bridge request → bridge.request? request.reply = some request
  replied : ∀ reply response, bridge.replies.lookup reply = some response →
    ∃ exchange ∈ bridge.exchanges, exchange.request.reply = reply ∧
      response = exchange.response codecs
  answers : ∀ (number index : Nat) (client : Client) (msg frame : Value),
    bridge.clients[number]? = some client → client.messages[index]? = some msg →
    client.frames[index]? = some frame → FrameAnswers codecs bridge ⟨number, index⟩ msg frame
  stream : StreamPosition codecs bridge
  sound : ∀ exchange ∈ bridge.exchanges, exchange.Sound codecs bridge.streams
  /-- Positions already used lie before the one to be read next. -/
  positions : ∀ exchange ∈ bridge.exchanges, ∀ connection position,
    exchange.position = some (connection, position) →
    connection < bridge.past.length ∨ connection = bridge.past.length ∧ position < bridge.stream.read
  once : (bridge.exchanges.filterMap Exchange.position).Nodup

variable {codecs} {before after bridge : Bridge} {number : Nat} {client : Client}

/-! ### Changing a client -/

theorem setClient_clients {replaced : Client} (found : bridge.clients[number]? = some replaced)
    (other : Nat) :
    (bridge.setClient number client).clients[other]? =
      if other = number then some client else bridge.clients[other]? := by
  have bound : number < bridge.clients.length := (List.getElem?_eq_some_iff.mp found).1
  rw [Bridge.setClient, List.getElem?_set]
  by_cases same : number = other
  · simp [same, same ▸ bound]
  · simp [same, Ne.symm same]

theorem message?_setClient {replaced : Client} (found : bridge.clients[number]? = some replaced)
    (grows : replaced.messages <+: client.messages) {reply : ReplyChannel} {msg : Value}
    (held : bridge.message? reply = some msg) :
    (bridge.setClient number client).message? reply = some msg := by
  rw [Bridge.message?, setClient_clients found]
  rw [Bridge.message?] at held
  split
  · rename_i same
    rw [same, found, Option.bind_some] at held
    obtain ⟨more, grown⟩ := grows
    have bound := (List.getElem?_eq_some_iff.mp held).1
    rw [Option.bind_some, ← grown, List.getElem?_append_left bound]
    exact held
  · exact held

theorem request?_setClient {replaced : Client} (found : bridge.clients[number]? = some replaced)
    (grows : replaced.messages <+: client.messages) {reply : ReplyChannel} {request : ClientRequest}
    (held : bridge.request? reply = some request) :
    (bridge.setClient number client).request? reply = some request := by
  obtain ⟨msg, isMessage, made⟩ := Option.bind_eq_some_iff.mp held
  rw [Bridge.request?, message?_setClient found grows isMessage, Option.bind_some, made]

/-- A client whose messages grow, whose frames answer its messages and whose
handler agrees with them keeps the bridge coherent. -/
theorem Coherent.setClient {replaced : Client} (coherent : Coherent codecs bridge)
    (found : bridge.clients[number]? = some replaced)
    (grows : replaced.messages <+: client.messages) (agrees : client.Coherent number)
    (owned : ∀ request, client.handler.request? = some request →
      (bridge.setClient number client).request? request.reply = some request)
    (answers : ∀ (index : Nat) (msg frame : Value), client.messages[index]? = some msg →
      client.frames[index]? = some frame → FrameAnswers codecs bridge ⟨number, index⟩ msg frame) :
    Coherent codecs (bridge.setClient number client) where
  clients other found' changed := by
    rw [setClient_clients found] at changed
    split at changed
    · rename_i same
      rw [← Option.some.inj changed, same]
      exact agrees
    · exact coherent.clients other found' changed
  owned request circulates := by
    cases circulates with
    | @sending other sender changed sends =>
        rw [setClient_clients found] at changed
        split at changed
        · cases changed
          exact owned request sends
        · exact request?_setClient found grows (coherent.owned request (.sending changed sends))
    | queued member => exact request?_setClient found grows (coherent.owned request (.queued member))
    | exchanging current =>
        exact request?_setClient found grows (coherent.owned request (.exchanging current))
    | exchanged member isRequest =>
        exact request?_setClient found grows (coherent.owned request (.exchanged member isRequest))
  replied := coherent.replied
  answers other index found' msg frame changed := by
    rw [setClient_clients found] at changed
    split at changed
    · rename_i same
      rw [← Option.some.inj changed, same]
      exact answers index msg frame
    · exact coherent.answers other index found' msg frame changed
  stream := coherent.stream
  sound := coherent.sound
  positions := coherent.positions
  once := coherent.once

/-! ### Changing the avatar's side -/

/-- Connections are kept, and only get more lines and answers. -/
def StreamsGrow (before after : List AvatarStream) : Prop :=
  ∀ (number : Nat) (stream : AvatarStream), before[number]? = some stream →
    ∃ grown, after[number]? = some grown ∧ stream.lines <+: grown.lines ∧
      stream.answers <+: grown.answers

theorem getElem?_of_prefix {α : Type} {short long : List α} {index : Nat} {item : α}
    (isPrefix : short <+: long) (found : short[index]? = some item) : long[index]? = some item := by
  obtain ⟨more, rfl⟩ := isPrefix
  rwa [List.getElem?_append_left (List.getElem?_eq_some_iff.mp found).1]

theorem Exchange.Sound.grow {streams grown : List AvatarStream} {exchange : Exchange}
    (sound : exchange.Sound codecs streams) (grow : StreamsGrow streams grown) :
    exchange.Sound codecs grown := by
  unfold Exchange.Sound at sound ⊢
  split
  · rename_i connection position id text answer ending
    rw [ending] at sound
    obtain ⟨stream, found, isLine, isAnswer, reads⟩ := sound
    obtain ⟨later, foundLater, lines, answers⟩ := grow connection stream found
    exact ⟨later, foundLater, getElem?_of_prefix lines isLine, getElem?_of_prefix answers isAnswer,
      reads⟩
  · trivial

theorem streamsGrow_stream {stream : AvatarStream} (lines : bridge.stream.lines <+: stream.lines)
    (answers : bridge.stream.answers <+: stream.answers) :
    StreamsGrow bridge.streams (bridge.past ++ [stream]) := by
  intro connection held found
  rw [Bridge.streams] at found
  by_cases inPast : connection < bridge.past.length
  · rw [List.getElem?_append_left inPast] at found ⊢
    exact ⟨held, found, List.prefix_rfl, List.prefix_rfl⟩
  · rw [List.getElem?_append_right (Nat.not_lt.mp inPast)] at found ⊢
    obtain ⟨bound, rfl⟩ := List.getElem?_eq_some_iff.mp found
    have first : connection - bridge.past.length = 0 := by simpa using bound
    simp only [first, List.getElem_cons_zero]
    exact ⟨stream, rfl, lines, answers⟩

theorem streamsGrow_open {stream : AvatarStream} :
    StreamsGrow bridge.streams (bridge.past ++ [bridge.stream] ++ [stream]) := by
  intro connection held found
  have bound := (List.getElem?_eq_some_iff.mp found).1
  refine ⟨held, ?_, List.prefix_rfl, List.prefix_rfl⟩
  exact (List.getElem?_append_left bound).trans found

/-- What the avatar's side of a step may change: the queue and the phase hold
no new request, connections grow, and positions that were read stay behind. -/
structure Advances (before after : Bridge) : Prop where
  clients : after.clients = before.clients
  circulates : ∀ request, request ∈ after.queue ∨ after.phase.request? = some request →
    Circulates before request
  streams : StreamsGrow before.streams after.streams
  positions : before.past.length < after.past.length ∨
    before.past.length = after.past.length ∧ before.stream.read ≤ after.stream.read

theorem circulates_of_queue (queue : ∀ request ∈ after.queue, request ∈ before.queue)
    (idle : after.phase.request? = none) (request : ClientRequest)
    (source : request ∈ after.queue ∨ after.phase.request? = some request) :
    Circulates before request := by
  rcases source with queued | current
  · exact .queued (queue request queued)
  · rw [idle] at current
    cases current

theorem request?_of_clients (same : after.clients = before.clients) (reply : ReplyChannel) :
    after.request? reply = before.request? reply := by
  rw [Bridge.request?, Bridge.message?, same]
  rfl

theorem Coherent.advance (coherent : Coherent codecs before) (advances : Advances before after)
    (replies : after.replies = before.replies) (exchanges : after.exchanges = before.exchanges)
    (stream : StreamPosition codecs after) : Coherent codecs after where
  clients := by
    rw [advances.clients]
    exact coherent.clients
  owned request circulates := by
    rw [request?_of_clients advances.clients]
    apply coherent.owned
    cases circulates with
    | sending found sends => exact .sending (advances.clients ▸ found) sends
    | queued member => exact advances.circulates request (.inl member)
    | exchanging current => exact advances.circulates request (.inr current)
    | exchanged member isRequest => exact .exchanged (exchanges ▸ member) isRequest
  replied := by
    rw [replies, exchanges]
    exact coherent.replied
  answers number index client msg frame found isMessage isFrame := by
    rw [advances.clients] at found
    have kept := coherent.answers number index client msg frame found isMessage isFrame
    unfold FrameAnswers at kept ⊢
    rwa [exchanges]
  stream := stream
  sound := by
    rw [exchanges]
    exact fun exchange member => (coherent.sound exchange member).grow advances.streams
  positions := by
    rw [exchanges]
    intro exchange member connection position isPosition
    have old := coherent.positions exchange member connection position isPosition
    have later := advances.positions
    omega
  once := by
    rw [exchanges]
    exact coherent.once

/-- An exchange ends: its reply is sent, and if it read an answer, that was the
next one on the connection. -/
theorem Coherent.settle (coherent : Coherent codecs before) {middle : Bridge} {exchange : Exchange}
    {phase : Phase} (advances : Advances before (middle.settle codecs exchange phase))
    (replies : middle.replies = before.replies) (exchanges : middle.exchanges = before.exchanges)
    (circulates : Circulates before exchange.request)
    (stream : StreamPosition codecs (middle.settle codecs exchange phase))
    (sound : exchange.Sound codecs middle.streams)
    (next : ∀ connection position, exchange.position = some (connection, position) →
      connection = before.past.length ∧ position = before.stream.read ∧
        middle.past.length = before.past.length ∧ middle.stream.read = before.stream.read + 1) :
    Coherent codecs (middle.settle codecs exchange phase) where
  clients := by
    rw [advances.clients]
    exact coherent.clients
  owned request circulating := by
    rw [request?_of_clients advances.clients]
    apply coherent.owned
    cases circulating with
    | sending found sends => exact .sending (advances.clients ▸ found) sends
    | queued member => exact advances.circulates request (.inl member)
    | exchanging current => exact advances.circulates request (.inr current)
    | exchanged member isRequest =>
        simp only [Bridge.settle, exchanges] at member
        rcases List.mem_append.mp member with old | new
        · exact .exchanged old isRequest
        · rw [List.mem_singleton] at new
          subst new isRequest
          exact circulates
  replied reply response sent := by
    simp only [Bridge.settle, exchanges, replies, HashMap.lookup_insert_eq] at sent ⊢
    split at sent
    · rename_i same
      exact ⟨exchange, by simp, same.symm, (Option.some.inj sent).symm⟩
    · obtain ⟨earlier, member, isReply, same⟩ := coherent.replied reply response sent
      exact ⟨earlier, List.mem_append_left _ member, isReply, same⟩
  answers number index client msg frame found isMessage isFrame := by
    rw [advances.clients] at found
    have kept := coherent.answers number index client msg frame found isMessage isFrame
    unfold FrameAnswers at kept ⊢
    split
    · rename_i noRequest
      rwa [noRequest] at kept
    · rename_i request isRequest
      rw [isRequest] at kept
      obtain ⟨earlier, member, same, written⟩ := kept
      refine ⟨earlier, ?_, same, written⟩
      simp only [Bridge.settle, exchanges]
      exact List.mem_append_left _ member
  stream := stream
  sound earlier member := by
    simp only [Bridge.settle, exchanges] at member
    rcases List.mem_append.mp member with old | new
    · exact (coherent.sound earlier old).grow advances.streams
    · rw [List.mem_singleton.mp new]
      exact sound
  positions earlier member connection position isPosition := by
    simp only [Bridge.settle, exchanges] at member
    have later := advances.positions
    simp only [Bridge.settle] at later ⊢
    rcases List.mem_append.mp member with old | new
    · have held := coherent.positions earlier old connection position isPosition
      omega
    · rw [List.mem_singleton.mp new] at isPosition
      have isNext := next connection position isPosition
      omega
  once := by
    simp only [Bridge.settle, exchanges, List.filterMap_append]
    rw [List.nodup_append]
    refine ⟨coherent.once, ?_, ?_⟩
    · cases isPosition : exchange.position <;> simp [isPosition]
    · intro used member other isOther same
      subst same
      obtain ⟨earlier, isEarlier, isUsed⟩ := List.mem_filterMap.mp member
      have isPosition : exchange.position = some used := by simpa using isOther
      have held := coherent.positions earlier isEarlier used.1 used.2 isUsed
      have isNext := next used.1 used.2 isPosition
      omega

/-! ### Client steps -/

section ClientSteps

variable (coherent : Coherent codecs bridge) (found : bridge.clients[number]? = some client)

include coherent found

theorem Coherent.framesAnswer {index : Nat} {msg frame : Value}
    (isMessage : client.messages[index]? = some msg) (isFrame : client.frames[index]? = some frame) :
    FrameAnswers codecs bridge ⟨number, index⟩ msg frame :=
  coherent.answers number index client msg frame found isMessage isFrame

theorem Coherent.readMessage {msg : Value} {request : ClientRequest}
    (reading : client.handler = .reading)
    (isRequest : requestOf ⟨number, client.messages.length⟩ msg = some request) :
    Coherent codecs (bridge.setClient number (client.receive msg (.sending request))) := by
  have agrees := coherent.clients number client found
  rw [Client.Coherent, reading] at agrees
  have named : request.reply = ⟨number, client.messages.length⟩ := by
    obtain ⟨method, _, made⟩ := Option.map_eq_some_iff.mp isRequest
    rw [← made]
  refine coherent.setClient found (List.prefix_append _ _) ?_ ?_ ?_
  · simp [Client.Coherent, Client.receive, agrees, named]
  · intro other sends
    cases sends
    rw [Bridge.request?, Bridge.message?, named, setClient_clients found]
    simp [Client.receive, isRequest]
  · intro index other frame isMessage isFrame
    have bound := (List.getElem?_eq_some_iff.mp isFrame).1
    rw [Client.receive, List.getElem?_append_left (agrees ▸ bound)] at isMessage
    exact coherent.framesAnswer found isMessage isFrame

/-- A frame is written that answers the first message without one. -/
theorem Coherent.writeFrame {next : Client} {msg frame : Value} (written : Bool)
    (grows : client.messages <+: next.messages) (sameFrames : next.frames = client.frames)
    (last : next.messages[client.frames.length]? = some msg)
    (length : next.messages.length = client.frames.length + 1)
    (short : client.frames.length ≤ client.messages.length)
    (answers : FrameAnswers codecs bridge ⟨number, client.frames.length⟩ msg frame) :
    Coherent codecs (bridge.setClient number (next.write frame written)) := by
  have old : ∀ (index : Nat) (other earlier : Value), next.messages[index]? = some other →
      client.frames[index]? = some earlier →
      FrameAnswers codecs bridge ⟨number, index⟩ other earlier := by
    intro index other earlier isMessage isFrame
    have bound := (List.getElem?_eq_some_iff.mp isFrame).1
    obtain ⟨more, grown⟩ := grows
    rw [← grown, List.getElem?_append_left (by omega)] at isMessage
    exact coherent.framesAnswer found isMessage isFrame
  cases written with
  | false =>
      refine coherent.setClient found (by simpa [Client.write] using grows) ?_ ?_ ?_
      · simp [Client.Coherent, Client.write, sameFrames, length]
      · simp [Client.write, Handler.request?]
      · simpa [Client.write, sameFrames] using old
  | true =>
      refine coherent.setClient found (by simpa [Client.write] using grows) ?_ ?_ ?_
      · simp [Client.Coherent, Client.write, sameFrames, length]
      · simp [Client.write, Handler.request?]
      · intro index other earlier isMessage isFrame
        simp only [Client.write, if_true, sameFrames] at isMessage isFrame
        by_cases bound : index < client.frames.length
        · rw [List.getElem?_append_left bound] at isFrame
          exact old index other earlier isMessage isFrame
        · have isLast : index = client.frames.length := by
            have inside := (List.getElem?_eq_some_iff.mp isFrame).1
            simp only [List.length_append, List.length_singleton] at inside
            omega
          subst isLast
          rw [last] at isMessage
          rw [List.getElem?_concat_length] at isFrame
          cases isMessage
          cases isFrame
          exact answers

theorem Coherent.refuse {msg : Value} {written : Bool} (reading : client.handler = .reading)
    (noMethod : methodOf msg = none) :
    Coherent codecs (bridge.setClient number
      ((client.receive msg .reading).write (missingMethod msg) written)) := by
  have agrees := coherent.clients number client found
  rw [Client.Coherent, reading] at agrees
  have last : (client.receive msg .reading).messages[client.frames.length]? = some msg := by
    simp [Client.receive, agrees]
  refine coherent.writeFrame found written (List.prefix_append _ _) rfl last ?_ agrees.le ?_
  · simp [Client.receive, agrees]
  · simp [FrameAnswers, requestOf, noMethod]

theorem Coherent.disconnect (reading : client.handler = .reading) :
    Coherent codecs (bridge.setClient number { client with handler := .closed }) := by
  have agrees := coherent.clients number client found
  rw [Client.Coherent, reading] at agrees
  refine coherent.setClient found List.prefix_rfl ?_ ?_ ?_
  · simp [Client.Coherent, agrees]
  · simp [Handler.request?]
  · exact fun _ _ _ => coherent.framesAnswer found

theorem Coherent.enqueue {request : ClientRequest} (sending : client.handler = .sending request) :
    Coherent codecs { bridge.setClient number { client with handler := .waiting request.reply } with
      queue := bridge.queue ++ [request] } := by
  have agrees := coherent.clients number client found
  rw [Client.Coherent, sending] at agrees
  have waits : Coherent codecs
      (bridge.setClient number { client with handler := .waiting request.reply }) := by
    refine coherent.setClient found List.prefix_rfl ?_ ?_ ?_
    · exact agrees
    · simp [Handler.request?]
    · exact fun _ _ _ => coherent.framesAnswer found
  refine { waits with owned := fun other circulates => ?_ }
  cases circulates with
  | sending changed sends => exact waits.owned other (.sending changed sends)
  | exchanging current => exact waits.owned other (.exchanging current)
  | exchanged member isRequest => exact waits.owned other (.exchanged member isRequest)
  | queued member =>
      rcases List.mem_append.mp member with old | new
      · exact waits.owned other (.queued old)
      · rw [List.mem_singleton.mp new]
        have kept := coherent.owned request (.sending found (by rw [sending]; rfl))
        have grows : client.messages <+:
            ({ client with handler := .waiting request.reply } : Client).messages := List.prefix_rfl
        exact request?_setClient found grows kept

theorem Coherent.writeReply {reply : ReplyChannel} {response : JsonRpcResponse} {written : Bool}
    (waiting : client.handler = .waiting reply)
    (sent : bridge.replies.lookup reply = some response) :
    Coherent codecs (bridge.setClient number (client.write (responseValue response) written)) := by
  have agrees := coherent.clients number client found
  rw [Client.Coherent, waiting] at agrees
  obtain ⟨length, rfl⟩ := agrees
  obtain ⟨exchange, member, isReply, rfl⟩ := coherent.replied _ _ sent
  have owned := coherent.owned exchange.request (.exchanged member rfl)
  rw [isReply, Bridge.request?, Bridge.message?, found, Option.bind_some] at owned
  obtain ⟨msg, isMessage, made⟩ := Option.bind_eq_some_iff.mp owned
  refine coherent.writeFrame found written List.prefix_rfl rfl isMessage length (by omega) ?_
  rw [FrameAnswers, made]
  exact ⟨exchange, member, rfl, rfl⟩

end ClientSteps

/-! ### Steps -/

theorem accept_clients {accepted : Client}
    (found : (bridge.clients ++ [client])[number]? = some accepted) :
    bridge.clients[number]? = some accepted ∨ accepted = client := by
  by_cases bound : number < bridge.clients.length
  · rw [List.getElem?_append_left bound] at found
    exact .inl found
  · rw [List.getElem?_append_right (Nat.not_lt.mp bound)] at found
    exact .inr (List.mem_singleton.mp (List.mem_of_getElem? found))

theorem Coherent.accept (coherent : Coherent codecs bridge) :
    Coherent codecs { bridge with clients := bridge.clients ++ [⟨[], [], .reading⟩] } := by
  refine { coherent with clients := ?_, owned := ?_, answers := ?_ }
  · intro number client found
    rcases accept_clients found with old | rfl
    · exact coherent.clients number client old
    · rfl
  · intro request circulates
    have kept : bridge.request? request.reply = some request := by
      cases circulates with
      | sending found sends =>
          rcases accept_clients found with old | rfl
          · exact coherent.owned request (.sending old sends)
          · cases sends
      | queued member => exact coherent.owned request (.queued member)
      | exchanging current => exact coherent.owned request (.exchanging current)
      | exchanged member isRequest => exact coherent.owned request (.exchanged member isRequest)
    rw [Bridge.request?, Option.bind_eq_some_iff] at kept ⊢
    obtain ⟨msg, isMessage, made⟩ := kept
    refine ⟨msg, ?_, made⟩
    rw [Bridge.message?, Option.bind_eq_some_iff] at isMessage ⊢
    obtain ⟨client, found, isMessage⟩ := isMessage
    exact ⟨client, getElem?_of_prefix (List.prefix_append _ _) found, isMessage⟩
  · intro number index client msg frame found isMessage isFrame
    rcases accept_clients found with old | rfl
    · exact coherent.answers number index client msg frame old isMessage isFrame
    · cases isMessage

theorem Step.coherent {label : Label} (step : Step codecs before label after)
    (coherent : Coherent codecs before) : Coherent codecs after := by
  cases step with
  | accept => exact coherent.accept
  | readMessage found reading isRequest => exact coherent.readMessage found reading isRequest
  | refuse found reading noMethod => exact coherent.refuse found reading noMethod
  | disconnect found reading => exact coherent.disconnect found reading
  | enqueue found sending room => exact coherent.enqueue found sending
  | writeReply found waiting sent => exact coherent.writeReply found waiting sent
  | @openConnection written disconnected =>
      refine coherent.advance ⟨rfl, ?_, streamsGrow_open, .inl (by simp)⟩ rfl rfl ?_
      · exact circulates_of_queue (fun _ queued => queued) (by cases written <;> rfl)
      · cases written <;> simp [StreamPosition]
  | connected connecting arrived reads accepted =>
      have position := coherent.stream
      rw [StreamPosition, connecting] at position
      refine coherent.advance ⟨rfl, ?_, streamsGrow_stream List.prefix_rfl List.prefix_rfl,
        .inr ⟨rfl, Nat.le_succ _⟩⟩ rfl rfl ?_
      · exact circulates_of_queue (fun _ queued => queued) rfl
      · simp [StreamPosition, position]
  | connectFailed connecting =>
      refine coherent.advance ⟨rfl, ?_, streamsGrow_stream List.prefix_rfl List.prefix_rfl,
        .inr ⟨rfl, Nat.le_refl _⟩⟩ rfl rfl trivial
      exact circulates_of_queue (fun _ queued => queued) rfl
  | @takeRequest request rest idle next =>
      have position := coherent.stream
      rw [StreamPosition, idle] at position
      refine coherent.advance ⟨rfl, ?_, streamsGrow_stream (List.prefix_append _ _) List.prefix_rfl,
        .inr ⟨rfl, Nat.le_refl _⟩⟩ rfl rfl ?_
      · intro other source
        rcases source with queued | current
        · exact .queued (next ▸ List.mem_cons_of_mem _ queued)
        · cases current
          exact .queued (next ▸ List.mem_cons_self)
      · simp [StreamPosition, position]
  | @takeAndFail request rest message idle next =>
      refine coherent.settle ⟨rfl, ?_, streamsGrow_stream List.prefix_rfl List.prefix_rfl,
        .inr ⟨rfl, Nat.le_refl _⟩⟩ rfl rfl ?_ trivial trivial ?_
      · exact circulates_of_queue (fun _ queued => next ▸ List.mem_cons_of_mem _ queued) rfl
      · exact .queued (next ▸ List.mem_cons_self)
      · simp [Exchange.position]
  | avatarAnswers unanswered =>
      refine coherent.advance ⟨rfl, ?_, streamsGrow_stream List.prefix_rfl (List.prefix_append _ _),
        .inr ⟨rfl, Nat.le_refl _⟩⟩ rfl rfl ?_
      · intro request source
        rcases source with queued | current
        · exact .queued queued
        · exact .exchanging current
      · exact coherent.stream
  | @readAnswer request id text answer exchanging arrived reads =>
      have position := coherent.stream
      rw [StreamPosition, exchanging] at position
      refine coherent.settle ⟨rfl, ?_, streamsGrow_stream List.prefix_rfl List.prefix_rfl,
        .inr ⟨rfl, Nat.le_succ _⟩⟩ rfl rfl (.exchanging (by rw [exchanging]; rfl)) ?_ ?_ ?_
      · exact circulates_of_queue (fun _ queued => queued) rfl
      · simp [StreamPosition, Bridge.settle, position]
      · refine ⟨_, List.getElem?_concat_length, position.1, arrived, reads⟩
      · intro connection index isPosition
        cases isPosition
        exact ⟨rfl, rfl, rfl, rfl⟩
  | @readFailed request id message exchanging =>
      refine coherent.settle ⟨rfl, ?_, streamsGrow_stream List.prefix_rfl List.prefix_rfl,
        .inr ⟨rfl, Nat.le_refl _⟩⟩ rfl rfl (.exchanging (by rw [exchanging]; rfl)) trivial trivial ?_
      · exact circulates_of_queue (fun _ queued => queued) rfl
      · simp [Exchange.position]

/-! ### Runs -/

theorem coherent_start : Coherent codecs .start where
  clients _ _ found := by cases found
  owned request circulates := by
    cases circulates with
    | sending found _ => cases found
    | queued member | exchanged member _ => cases member
    | exchanging current => cases current
  replied reply response sent := by simp [Bridge.start] at sent
  answers _ _ _ _ _ found := by cases found
  stream := trivial
  sound _ member := by cases member
  positions _ member := by cases member
  once := .nil

theorem Coherent.correlates (coherent : Coherent codecs bridge) : BridgeCorrelates codecs bridge where
  frames client member := by
    obtain ⟨number, found⟩ := List.mem_iff_getElem?.mp member
    have agrees := coherent.clients number client found
    unfold Client.Coherent at agrees
    split at agrees <;> omega
  prompt client member reading := by
    obtain ⟨number, found⟩ := List.mem_iff_getElem?.mp member
    have agrees := coherent.clients number client found
    rwa [Client.Coherent, reading] at agrees
  answers := coherent.answers
  sound := coherent.sound
  once := coherent.once

theorem reachable_correlates (reachable : Reachable (Step codecs) .start bridge) :
    BridgeCorrelates codecs bridge :=
  Coherent.correlates
    (Reachable.invariant (Coherent codecs) (fun _ _ _ step => step.coherent) coherent_start reachable)

namespace Sample

open Transparent

def answerTree (id : UInt64) (result : Value) : Value :=
  .object [("id", .number (.posInt id)), ("jsonrpc", .string "2.0"), ("result", result)]

def connectAnswer : Value := answerTree 1 (.object [])

def keysAnswer : Value := answerTree 2 (.array [])

def bridgeCodecs : Codecs :=
  simpleCodecs [(connectAnswer.toJson, connectAnswer), (keysAnswer.toJson, keysAnswer)]

def response (id : UInt64) (result : Value) : JsonRpcResponse := .success (.number (.posInt id)) result

theorem readsAs_connectAnswer :
    readsAs bridgeCodecs (connectAnswer.toJson ++ "\n") (response 1 (.object [])) := by
  rfl

theorem readsAs_keysAnswer :
    readsAs bridgeCodecs (keysAnswer.toJson ++ "\n") (response 2 (.array [])) := by
  rfl

def keysMessage : Value := .object [("id", .number (.posInt 7)), ("method", .string "get_public_keys")]

def keysRequest : ClientRequest := ⟨"get_public_keys", .object [], .number (.posInt 7), ⟨0, 0⟩⟩

theorem keys_run : ∃ final, Reachable (Step bridgeCodecs) .start final ∧
    final.clients.map Client.frames = [[responseValue (.success (.number (.posInt 7)) (.array []))]] := by
  have isRequest : requestOf ⟨0, 0⟩ keysMessage = some keysRequest := rfl
  refine ⟨_, ⟨_,
    .cons (@Step.openConnection _ _ true rfl) <|
    .cons (@Step.avatarAnswers _ _ (connectAnswer.toJson ++ "\n") (by decide)) <|
    .cons (.connected rfl rfl readsAs_connectAnswer rfl) <|
    .cons (.accept _) <|
    .cons (@Step.readMessage _ _ 0 _ _ _ rfl rfl isRequest) <|
    .cons (@Step.enqueue _ _ 0 _ _ rfl rfl (by decide)) <|
    .cons (.takeRequest rfl rfl) <|
    .cons (@Step.avatarAnswers _ _ (keysAnswer.toJson ++ "\n") (by decide)) <|
    .cons (.readAnswer rfl rfl readsAs_keysAnswer) <|
    .cons (@Step.writeReply _ _ 0 _ _ _ true rfl rfl
      (by rw [Bridge.settle, HashMap.lookup_insert_eq]; rfl)) <|
    .nil _⟩, rfl⟩

end Sample

open Sample in
theorem keys_run_correlates : ∃ final, Reachable (Step bridgeCodecs) .start final ∧
    final.clients.map Client.frames =
      [[responseValue (.success (.number (.posInt 7)) (.array []))]] ∧
    BridgeCorrelates bridgeCodecs final := by
  obtain ⟨final, reachable, frames⟩ := keys_run
  exact ⟨final, reachable, frames, reachable_correlates reachable⟩

end KeyMaster.NostrSa

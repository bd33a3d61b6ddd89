import KeyMaster.Avatar.LocalApi
import Mathlib.Data.List.Induction

namespace KeyMaster

/-! One connection on the local API: `handle_connection`. -/

variable (C : Crates)

/-- A connection of a local client: the service it is bound to, the lines
written to it, and the requests forwarded for it. -/
structure Connection where
  boundService : Option String
  written : List JsonRpcResponse
  forwarded : List (String × JsonRpcRequest)

namespace Connection

def new : Connection := ⟨none, [], []⟩

def write (conn : Connection) (response : JsonRpcResponse) : Connection :=
  { conn with written := conn.written ++ [response] }

/-- One message; `answer` is what `forward_to_nostr` returns if it is called. -/
def handleMessage (conn : Connection) (msg : JsonRpcMessage) (answer : JsonRpcResponse) :
    Connection :=
  match msg.method with
  | none => conn
  | some method =>
      let id := msg.id.getD .null
      if method = "connect" then
        let serviceType := ((msg.params.get "type").bind Value.asStr).getD ""
        let npub := ((msg.params.get "npub").bind Value.asStr).getD ""
        if serviceType = "" then
          conn.write (.failure id jsonrpcInternalError "connect requires 'type' param")
        else
          { conn with boundService := some serviceType }.write
            (.success id (jsonObject [("npub", .string npub)]))
      else
        match conn.boundService with
        | none => conn.write (.failure id jsonrpcInternalError "must send 'connect' first")
        | some serviceType =>
            let request : JsonRpcRequest :=
              { jsonrpc := "2.0", method, params := msg.params, id := some id }
            { conn with forwarded := conn.forwarded ++ [(serviceType, request)] }.write answer

/-- The loop: it ends at the first line that is no message. -/
def handleLines (conn : Connection) : List (String × JsonRpcResponse) → Connection
  | [] => conn
  | (line, answer) :: rest =>
      match readLineMessage C.parseJson JsonRpcMessage.deserialize line with
      | none => conn
      | some msg => (conn.handleMessage msg answer).handleLines rest

end Connection

/-! ### What a client may expect -/

def JsonRpcMessage.isConnect (msg : JsonRpcMessage) : Bool := msg.method = some "connect"

/-- The service that a connect names with a non-empty string `type`. -/
def JsonRpcMessage.connectType (msg : JsonRpcMessage) : Option String :=
  if msg.isConnect then
    ((msg.params.get "type").bind Value.asStr).filter fun serviceType => serviceType ≠ ""
  else none

def latestConnect (messages : List JsonRpcMessage) : Option String :=
  messages.reverse.findSome? JsonRpcMessage.connectType

/-- A message with a method, the service of the latest connect before it, and
the answer it has from Nostr if it is forwarded. -/
structure LocalRequest where
  service : Option String
  method : String
  msg : JsonRpcMessage
  answer : JsonRpcResponse

def localRequests (earlier : List JsonRpcMessage) :
    List (JsonRpcMessage × JsonRpcResponse) → List LocalRequest
  | [] => []
  | (msg, answer) :: rest =>
      (msg.method.map fun method => ⟨latestConnect earlier, method, msg, answer⟩).toList ++
        localRequests (earlier ++ [msg]) rest

namespace LocalRequest

/-- The message is no connect, and a service is bound. -/
def forward (request : LocalRequest) : Option (String × JsonRpcRequest) :=
  if request.msg.isConnect then none
  else
    request.service.map fun service =>
      (service,
        { jsonrpc := "2.0", method := request.method, params := request.msg.params,
          id := some (request.msg.id.getD .null) })

structure AnsweredBy (request : LocalRequest) (response : JsonRpcResponse) : Prop where
  connected : request.msg.connectType.isSome → response.result.isSome ∧ response.error = none
  refused : request.msg.isConnect → request.msg.connectType = none →
    response.result = none ∧
      response.error = some ⟨jsonrpcInternalError, "connect requires 'type' param", none⟩
  unbound : ¬ request.msg.isConnect → request.service = none →
    response.result = none ∧
      response.error = some ⟨jsonrpcInternalError, "must send 'connect' first", none⟩
  own : request.forward = none → response.id = request.msg.id.getD .null
  forwarded : request.forward.isSome → response = request.answer

end LocalRequest

/-- One line for each request and none for the other messages, in order; the
forwarded requests, each on the service bound before it; and the binding that
the messages leave. -/
structure KeepsConnectionProtocol (received : List (JsonRpcMessage × JsonRpcResponse))
    (conn : Connection) : Prop where
  replies : List.Forall₂ LocalRequest.AnsweredBy (localRequests [] received) conn.written
  forwards : conn.forwarded = (localRequests [] received).filterMap LocalRequest.forward
  binding : conn.boundService = latestConnect (received.map Prod.fst)

/-- Before a request is forwarded, the connect that bound its service has been
answered with success. -/
def ConnectedFirst (received : List (JsonRpcMessage × JsonRpcResponse)) (conn : Connection) : Prop :=
  ∀ index (request : LocalRequest), (localRequests [] received)[index]? = some request →
    request.forward.isSome →
    ∃ (earlier : Nat) (connect : LocalRequest) (response : JsonRpcResponse), earlier < index ∧
      (localRequests [] received)[earlier]? = some connect ∧
      conn.written[earlier]? = some response ∧
      connect.msg.connectType = request.service ∧ response.result.isSome

def Parse (lines : List (String × JsonRpcResponse))
    (received : List (JsonRpcMessage × JsonRpcResponse)) : Prop :=
  List.Forall₂ (fun line message =>
    readLineMessage C.parseJson JsonRpcMessage.deserialize line.1 = some message.1 ∧
      line.2 = message.2) lines received

/-! ### Every connection keeps the protocol -/

variable {C} {received : List (JsonRpcMessage × JsonRpcResponse)} {conn : Connection}
  {msg : JsonRpcMessage} {answer : JsonRpcResponse}

@[simp] theorem localRequests_nil (earlier : List JsonRpcMessage) :
    localRequests earlier [] = [] := rfl

theorem localRequests_concat (earlier : List JsonRpcMessage) :
    localRequests earlier (received ++ [(msg, answer)]) =
      localRequests earlier received ++
        (msg.method.map fun method =>
          ⟨latestConnect (earlier ++ received.map Prod.fst), method, msg, answer⟩).toList := by
  induction received generalizing earlier with
  | nil => simp [localRequests]
  | cons first rest ih => simp [localRequests, ih]

theorem latestConnect_concat (earlier : List JsonRpcMessage) :
    latestConnect (earlier ++ [msg]) = msg.connectType.or (latestConnect earlier) := by
  rw [latestConnect, List.reverse_concat, List.findSome?_cons, latestConnect]
  cases msg.connectType <;> rfl

theorem connectType_of_isConnect (connect : msg.isConnect = true) :
    msg.connectType =
      if ((msg.params.get "type").bind Value.asStr).getD "" = "" then none
      else some (((msg.params.get "type").bind Value.asStr).getD "") := by
  rw [JsonRpcMessage.connectType, if_pos connect]
  cases (msg.params.get "type").bind Value.asStr with
  | none => rfl
  | some serviceType => simp [Option.filter]

namespace KeepsConnectionProtocol

theorem new : KeepsConnectionProtocol [] Connection.new := ⟨.nil, rfl, rfl⟩

theorem ignore (keeps : KeepsConnectionProtocol received conn) (noMethod : msg.method = none) :
    KeepsConnectionProtocol (received ++ [(msg, answer)]) conn := by
  have noConnect : msg.connectType = none := by
    simp [JsonRpcMessage.connectType, JsonRpcMessage.isConnect, noMethod]
  refine ⟨?_, ?_, ?_⟩
  · simpa [localRequests_concat, noMethod] using keeps.replies
  · simpa [localRequests_concat, noMethod] using keeps.forwards
  · simpa [latestConnect_concat, noConnect] using keeps.binding

theorem reply (keeps : KeepsConnectionProtocol received conn) {method : String}
    (hasMethod : msg.method = some method) {next : Connection} {response : JsonRpcResponse}
    (written : next.written = conn.written ++ [response])
    (answered : LocalRequest.AnsweredBy ⟨conn.boundService, method, msg, answer⟩ response)
    (forwarded : next.forwarded = conn.forwarded ++
      (LocalRequest.forward ⟨conn.boundService, method, msg, answer⟩).toList)
    (binding : next.boundService = msg.connectType.or conn.boundService) :
    KeepsConnectionProtocol (received ++ [(msg, answer)]) next := by
  have requests : localRequests [] (received ++ [(msg, answer)]) =
      localRequests [] received ++ [⟨conn.boundService, method, msg, answer⟩] := by
    simp [localRequests_concat, hasMethod, keeps.binding]
  refine ⟨?_, ?_, ?_⟩
  · rw [requests, written]
    exact List.rel_append keeps.replies (.cons answered .nil)
  · rw [requests, forwarded, keeps.forwards, List.filterMap_append]
    congr 1
  · rw [binding, List.map_append, keeps.binding]
    exact (latestConnect_concat _).symm

theorem handleMessage (keeps : KeepsConnectionProtocol received conn) (msg : JsonRpcMessage)
    (answer : JsonRpcResponse) :
    KeepsConnectionProtocol (received ++ [(msg, answer)]) (conn.handleMessage msg answer) := by
  cases hasMethod : msg.method with
  | none =>
      simp only [Connection.handleMessage, hasMethod]
      exact keeps.ignore hasMethod
  | some method =>
      by_cases connect : method = "connect"
      · have isConnect : msg.isConnect = true := by
          simp [JsonRpcMessage.isConnect, hasMethod, connect]
        have named := connectType_of_isConnect isConnect
        simp only [Connection.handleMessage, hasMethod, if_pos connect]
        split
        · rename_i unnamed
          rw [if_pos unnamed] at named
          refine keeps.reply hasMethod rfl ⟨?_, ?_, ?_, ?_, ?_⟩ ?_ ?_ <;>
            simp [Connection.write, JsonRpcResponse.failure, LocalRequest.forward, isConnect, named]
        · rename_i isNamed
          rw [if_neg isNamed] at named
          refine keeps.reply hasMethod rfl ⟨?_, ?_, ?_, ?_, ?_⟩ ?_ ?_ <;>
            simp [Connection.write, JsonRpcResponse.success, LocalRequest.forward, isConnect, named]
      · have noConnect : msg.isConnect = false := by
          simp [JsonRpcMessage.isConnect, hasMethod, connect]
        have unnamed : msg.connectType = none := by
          simp [JsonRpcMessage.connectType, noConnect]
        simp only [Connection.handleMessage, hasMethod, if_neg connect]
        cases bound : conn.boundService with
        | none =>
            refine keeps.reply hasMethod rfl ⟨?_, ?_, ?_, ?_, ?_⟩ ?_ ?_ <;>
              simp [Connection.write, JsonRpcResponse.failure, LocalRequest.forward, noConnect,
                unnamed, bound]
        | some service =>
            refine keeps.reply hasMethod rfl ⟨?_, ?_, ?_, ?_, ?_⟩ ?_ ?_ <;>
              simp [Connection.write, LocalRequest.forward, noConnect, unnamed, bound]

theorem handleLines {lines : List (String × JsonRpcResponse)}
    {later : List (JsonRpcMessage × JsonRpcResponse)} (keeps : KeepsConnectionProtocol received conn)
    (parse : Parse C lines later) :
    KeepsConnectionProtocol (received ++ later) (conn.handleLines C lines) := by
  induction parse generalizing received conn with
  | nil => simpa [Connection.handleLines] using keeps
  | @cons line message lines later parsed _ ih =>
      obtain ⟨text, answer⟩ := line
      obtain ⟨msg, given⟩ := message
      obtain ⟨read, same⟩ := parsed
      subst same
      simp only [Connection.handleLines, read]
      have whole := ih (keeps.handleMessage msg answer)
      rwa [List.append_assoc] at whole

end KeepsConnectionProtocol

theorem exists_connect {service : String}
    (bound : latestConnect (received.map Prod.fst) = some service) :
    ∃ connect ∈ localRequests [] received, connect.msg.connectType = some service := by
  induction received using List.reverseRecOn with
  | nil => cases bound
  | append_singleton earlier last ih =>
      obtain ⟨msg, answer⟩ := last
      rw [List.map_append, List.map_singleton, latestConnect_concat] at bound
      rw [localRequests_concat]
      cases named : msg.connectType with
      | none =>
          rw [named, Option.none_or] at bound
          obtain ⟨connect, member, same⟩ := ih bound
          exact ⟨connect, List.mem_append_left _ member, same⟩
      | some found =>
          have connects : msg.isConnect = true := by
            by_contra other
            simp [JsonRpcMessage.connectType, other] at named
          have hasMethod : msg.method = some "connect" := by
            simpa [JsonRpcMessage.isConnect] using connects
          rw [named, Option.some_or] at bound
          refine ⟨⟨latestConnect (earlier.map Prod.fst), "connect", msg, answer⟩, ?_, named.trans bound⟩
          simp [hasMethod]

theorem connect_before {index : Nat} {request : LocalRequest} {service : String}
    (found : (localRequests [] received)[index]? = some request)
    (bound : request.service = some service) :
    ∃ earlier connect, earlier < index ∧ (localRequests [] received)[earlier]? = some connect ∧
      connect.msg.connectType = some service := by
  induction received using List.reverseRecOn with
  | nil => simp at found
  | append_singleton init last ih =>
      obtain ⟨msg, answer⟩ := last
      rw [localRequests_concat] at found ⊢
      by_cases inInit : index < (localRequests [] init).length
      · rw [List.getElem?_append_left inInit] at found
        obtain ⟨earlier, connect, before, isConnect, named⟩ := ih found
        refine ⟨earlier, connect, before, ?_, named⟩
        rwa [List.getElem?_append_left (before.trans inInit)]
      · rw [List.getElem?_append_right (Nat.not_lt.mp inInit)] at found
        have last := List.mem_of_getElem? found
        obtain ⟨method, _, rfl⟩ : ∃ method, msg.method = some method ∧
            LocalRequest.mk (latestConnect (init.map Prod.fst)) method msg answer = request := by
          simpa using last
        obtain ⟨connect, member, named⟩ := exists_connect bound
        obtain ⟨earlier, inside, rfl⟩ := List.mem_iff_getElem.mp member
        refine ⟨earlier, _, inside.trans_le (Nat.not_lt.mp inInit), ?_, named⟩
        rw [List.getElem?_append_left inside, List.getElem?_eq_getElem inside]

theorem KeepsConnectionProtocol.connectedFirst (keeps : KeepsConnectionProtocol received conn) :
    ConnectedFirst received conn := by
  intro index request found forwards
  obtain ⟨service, bound⟩ : ∃ service, request.service = some service := by
    rw [← Option.isSome_iff_exists]
    by_contra unbound
    simp [LocalRequest.forward, Option.not_isSome_iff_eq_none.mp unbound] at forwards
  obtain ⟨earlier, connect, before, isConnect, named⟩ := connect_before found bound
  obtain ⟨inRequests, rfl⟩ := List.getElem?_eq_some_iff.mp isConnect
  have inWritten : earlier < conn.written.length := keeps.replies.length_eq ▸ inRequests
  have answered := keeps.replies.get inRequests inWritten
  refine ⟨earlier, _, _, before, isConnect, List.getElem?_eq_getElem inWritten,
    named.trans bound.symm, ?_⟩
  exact (answered.connected (by simp [named])).1

theorem handleLines_keepsProtocol {lines : List (String × JsonRpcResponse)}
    (parse : Parse C lines received) :
    KeepsConnectionProtocol received (Connection.new.handleLines C lines) ∧
      ConnectedFirst received (Connection.new.handleLines C lines) :=
  have keeps := KeepsConnectionProtocol.new.handleLines parse
  ⟨keeps, keeps.connectedFirst⟩

namespace Transparent

def sshAnswer : JsonRpcResponse := .success .null (.string "signed")

/-- A sign request before and after the connect, the first of them too early. -/
def connectionMessages : List (JsonRpcMessage × JsonRpcResponse) :=
  [({ jsonrpc := "2.0", method := some "sign", params := .null, result := none, error := none,
      id := none }, sshAnswer),
   ({ jsonrpc := "2.0", method := some "connect", params := .object [("type", .string "ssh")],
      result := none, error := none, id := none }, sshAnswer),
   ({ jsonrpc := "2.0", method := some "sign", params := .null, result := none, error := none,
      id := none }, sshAnswer)]

def connectionTexts : List (String × Value) :=
  [("sign", .object [("jsonrpc", .string "2.0"), ("method", .string "sign")]),
   ("connect", .object [("jsonrpc", .string "2.0"), ("method", .string "connect"),
     ("params", .object [("type", .string "ssh")])])]

def connectionLines : List (String × JsonRpcResponse) :=
  [("sign\n", sshAnswer), ("connect\n", sshAnswer), ("sign\n", sshAnswer)]

theorem connection_parses :
    Parse (crates connectionTexts) connectionLines connectionMessages :=
  .cons ⟨rfl, rfl⟩ (.cons ⟨rfl, rfl⟩ (.cons ⟨rfl, rfl⟩ .nil))

end Transparent

open Transparent in
theorem connection_keepsProtocol :
    KeepsConnectionProtocol connectionMessages
        (Connection.new.handleLines (crates connectionTexts) connectionLines) ∧
      ConnectedFirst connectionMessages
        (Connection.new.handleLines (crates connectionTexts) connectionLines) :=
  handleLines_keepsProtocol connection_parses

end KeyMaster

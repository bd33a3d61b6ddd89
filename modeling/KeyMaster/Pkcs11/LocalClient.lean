import KeyMaster.Avatar.Connection
import KeyMaster.Data.LengthPrefixed
import KeyMaster.Data.Utf8
import KeyMaster.JsonRpcWire

namespace KeyMaster.Pkcs11

open Data

/-! `LocalClient` of `pkcs11-gpg` on the avatar's local API, byte by byte. -/

/-! ### The client -/

def maxResponseLength : Nat := 1024 * 1024

/-- The client of one connection; `next_id` counts its requests from 1. -/
structure LocalClient where
  nextId : UInt64

namespace LocalClient

def connect : LocalClient := ⟨1⟩

def requestTree (client : LocalClient) (operation : String) (payload : Value) : Value :=
  jsonObject [("service", .string "gpg"), ("request_id", .number (.posInt client.nextId)),
    ("operation", .string operation), ("payload", payload)]

def requestData (client : LocalClient) (operation : String) (payload : Value) : List UInt8 :=
  Utf8.encode (client.requestTree operation payload).toJson.toList

/-- The length of what follows, cast to a `u32`. -/
def lengthBytes (client : LocalClient) (operation : String) (payload : Value) : List UInt8 :=
  LengthPrefixed.beBytes (UInt32.ofNat (client.requestData operation payload).length)

/-- What `request` writes. -/
def requestBytes (client : LocalClient) (operation : String) (payload : Value) : List UInt8 :=
  client.lengthBytes operation payload ++ client.requestData operation payload

/-- The response is to the request that `next_id` was taken for. -/
def matchId (client : LocalClient) (resp : Value) : Except String Value :=
  if (resp.get "request_id").bind Value.asU64 ≠ some client.nextId then
    .error "response request_id mismatch"
  else .ok resp

def payloadOf (resp : Value) : Except String Value :=
  let status := ((resp.get "status").bind Value.asStr).getD "error"
  if status ≠ "ok" then
    .error ("avatar error: " ++ ((resp.get "error").bind Value.asStr).getD "unknown error")
  else .ok ((resp.get "payload").getD .null)

/-- The response among the bytes that have come back, `none` while more of them
are awaited; `fromSlice` is `serde_json::from_slice`. -/
def readResponse (fromSlice : List UInt8 → Except String Value) (client : LocalClient) :
    List UInt8 → Option (Except String Value)
  | a :: b :: c :: d :: rest =>
      let respLen := (LengthPrefixed.ofBeBytes a b c d).toNat
      if respLen = 0 ∨ respLen > maxResponseLength then
        some (.error ("invalid response length: " ++ toString respLen))
      else if rest.length < respLen then none
      else
        match fromSlice (rest.take respLen) with
        | .error e => some (.error ("parse response: " ++ e))
        | .ok tree => some (client.matchId tree.normalize)
  | _ => none

def request (fromSlice : List UInt8 → Except String Value) (client : LocalClient)
    (received : List UInt8) : Option (Except String Value) :=
  (client.readResponse fromSlice received).map fun resp => resp.bind payloadOf

/-- A response with the id of the request, whatever its status. -/
def Accepts (fromSlice : List UInt8 → Except String Value) (client : LocalClient)
    (received : List UInt8) : Prop :=
  ∃ resp, client.readResponse fromSlice received = some (.ok resp)

/-- A payload is returned only from an accepted response. -/
theorem accepts_of_request {fromSlice : List UInt8 → Except String Value} {client : LocalClient}
    {received : List UInt8} {payload : Value}
    (returned : client.request fromSlice received = some (.ok payload)) :
    client.Accepts fromSlice received := by
  obtain ⟨outcome, read, ok⟩ := Option.map_eq_some_iff.mp returned
  cases outcome with
  | error e => cases ok
  | ok resp => exact ⟨resp, read⟩

end LocalClient

/-! ### The connection -/

/-- The lines that have arrived up to their line feed. -/
def completeLines (bytes : List UInt8) : List (List UInt8) := (bytes.splitOn 0x0A).dropLast

/-- What stands behind the last line feed. -/
def unfinished (bytes : List UInt8) : List UInt8 := (bytes.splitOn 0x0A).getLastD []

/-- `read_line` for each line; one that is no UTF-8 ends the connection. -/
def readLines : List (List UInt8) → List String
  | [] => []
  | line :: rest =>
      match Utf8.decode (line ++ [0x0A]) with
      | none => []
      | some text => String.ofList text :: readLines rest

section HandleBytes

variable (C : Crates)

/-- `handle_connection` on the bytes that have arrived; `answer` gives what
`forward_to_nostr` returns, if it is called, for the line at a position. -/
def handleBytes (answer : Nat → JsonRpcResponse) (bytes : List UInt8) : Connection :=
  Connection.new.handleLines C
    ((readLines (completeLines bytes)).zipIdx.map fun line => (line.1, answer line.2))

def writtenBytes (conn : Connection) : List UInt8 :=
  conn.written.flatMap fun response => Utf8.encode (writeLineMessage response.serialize).toList

def messageOfLine (line : List UInt8) : Option JsonRpcMessage :=
  (Utf8.decode (line ++ [0x0A])).bind fun text =>
    readLineMessage C.parseJson JsonRpcMessage.deserialize (String.ofList text)

/-- The bytes are complete messages, each with a method, and the last one
carries the operation. -/
structure ReadAs (operation : String) (bytes : List UInt8) : Prop where
  complete : unfinished bytes = []
  requests : ∃ messages, List.Forall₂ (fun line message => messageOfLine C line = some message)
      (completeLines bytes) messages ∧
    (∀ message ∈ messages, message.isRequest = true) ∧
    messages.getLast?.bind JsonRpcMessage.method = some operation

end HandleBytes

/-! ### Neither side reads the other -/

theorem unfinished_ne_nil (bytes : List UInt8) {byte : UInt8} (other : byte ≠ 0x0A) :
    unfinished (bytes ++ [byte]) ≠ [] := by
  obtain ⟨lines, line, split⟩ := Utf8.splitOn_concat bytes other
  simp [unfinished, split]

section Request

variable (client : LocalClient) (operation : String) (payload : Value)

theorem requestTree_eq :
    client.requestTree operation payload =
      .object [("operation", .string operation), ("payload", payload),
        ("request_id", .number (.posInt client.nextId)), ("service", .string "gpg")] := by
  have requestFirst : "request_id" < "service" := by decide
  have operationFirst : "operation" < "request_id" := by decide
  have operationBeforeService : "operation" < "service" := by decide
  have payloadBeforeRequest : "payload" < "request_id" := by decide
  have operationBeforePayload : "operation" < "payload" := by decide
  simp [LocalClient.requestTree, jsonObject, Value.mapOfMembers, Value.mapInsert, *, not_lt_of_gt]

/-- The text ends in a brace, so no line feed ends the request. -/
theorem requestBytes_eq_concat :
    ∃ init, client.requestBytes operation payload = init ++ [0x7D] := by
  have brace : Utf8.encode ['\x7d'] = [0x7D] := by decide
  rw [LocalClient.requestBytes, LocalClient.requestData, requestTree_eq, JsonText.toJson_object,
    ← List.cons_append, Utf8.encode_append, brace, ← List.append_assoc]
  exact ⟨_, rfl⟩

variable (C : Crates)

theorem not_readAs : ¬ ReadAs C operation (client.requestBytes operation payload) := by
  obtain ⟨init, whole⟩ := requestBytes_eq_concat client operation payload
  intro read
  apply unfinished_ne_nil init (by decide : (0x7D : UInt8) ≠ 0x0A)
  rw [← whole]
  exact read.complete

end Request

section Answer

theorem toJson_object_cons (key : String) (value : Value) (members : List (String × Value)) :
    ∃ rest, (Value.object ((key, value) :: members)).toJson.toList =
      '\x7b' :: ((quote key).toList ++ rest) := by
  rw [JsonText.toJson_object]
  cases members with
  | nil => exact ⟨':' :: value.toJson.toList ++ ['\x7d'], by simp [membersToJson]⟩
  | cons member more =>
      rw [JsonText.membersToJson_cons, List.append_assoc]
      exact ⟨_, rfl⟩

/-- A line of the connection begins with the bytes of `{"js`. -/
theorem encode_response (response : JsonRpcResponse) :
    ∃ rest, Utf8.encode (writeLineMessage response.serialize).toList =
      0x7B :: 0x22 :: 0x6A :: 0x73 :: rest := by
  have name : Utf8.encode ('\x7b' :: (quote "jsonrpc").toList) =
      [0x7B, 0x22, 0x6A, 0x73, 0x6F, 0x6E, 0x72, 0x70, 0x63, 0x22] := by decide
  obtain ⟨rest, printed⟩ := toJson_object_cons "jsonrpc" (.string response.jsonrpc)
    (memberOf "result" response.result ++
      memberOf "error" (response.error.map JsonRpcError.serialize) ++ [("id", response.id)])
  have whole : (writeLineMessage response.serialize).toList =
      ('\x7b' :: (quote "jsonrpc").toList) ++ (rest ++ ['\n']) := by
    rw [writeLineMessage, String.toList_append, JsonRpcResponse.serialize, List.append_assoc,
      List.append_assoc, List.singleton_append, ← List.append_assoc, printed]
    simp
  rw [whole, Utf8.encode_append, name]
  exact ⟨_, rfl⟩

variable (fromSlice : List UInt8 → Except String Value) (client : LocalClient) (conn : Connection)

theorem writtenBytes_eq (nonempty : conn.written ≠ []) :
    ∃ rest, writtenBytes conn = 0x7B :: 0x22 :: 0x6A :: 0x73 :: rest := by
  obtain ⟨first, more, written⟩ := List.exists_cons_of_ne_nil nonempty
  obtain ⟨rest, bytes⟩ := encode_response first
  rw [writtenBytes, written, List.flatMap_cons, bytes]
  exact ⟨_, rfl⟩

/-- Read as a length, the first bytes of a line are beyond every response. -/
theorem readResponse_line (rest : List UInt8) :
    client.readResponse fromSlice (0x7B :: 0x22 :: 0x6A :: 0x73 :: rest) =
      some (.error "invalid response length: 2065853043") := by
  have length : (LengthPrefixed.ofBeBytes 0x7B 0x22 0x6A 0x73).toNat = 2065853043 := by decide
  have tooLong : (LengthPrefixed.ofBeBytes 0x7B 0x22 0x6A 0x73).toNat > maxResponseLength := by decide
  rw [LocalClient.readResponse, if_pos (.inr tooLong), length]
  rfl

theorem not_accepts : ¬ client.Accepts fromSlice (writtenBytes conn) := by
  rintro ⟨resp, accepted⟩
  by_cases silent : conn.written = []
  · simp [writtenBytes, silent, LocalClient.readResponse] at accepted
  · obtain ⟨rest, bytes⟩ := writtenBytes_eq conn silent
    simp [bytes, readResponse_line] at accepted

end Answer

/-! ### Both sides wait -/

section Waits

variable {client : LocalClient} {operation : String} {payload : Value}

theorem newline_not_mem_requestData (tree : payload.Tree) :
    0x0A ∉ client.requestData operation payload := by
  have whole : (client.requestTree operation payload).Tree := by
    rw [requestTree_eq]
    simpa [Value.Tree, Value.Every, Value.EveryMember, Number.Valid] using tree
  have oneLine := JsonText.newline_not_mem_toJson whole
  rwa [LocalClient.requestData, Utf8.mem_encode_iff (show (0x0A : UInt8).toNat = '\n'.toNat from rfl)
    (by decide)]

/-- Unless its length holds the byte of a line feed, a request is no line: the
avatar reads on, and the client has nothing to read. -/
theorem localClient_waits (C : Crates) (fromSlice : List UInt8 → Except String Value)
    (answer : Nat → JsonRpcResponse) (tree : payload.Tree)
    (noFeed : 0x0A ∉ client.lengthBytes operation payload) :
    let sent := client.requestBytes operation payload
    unfinished sent = sent ∧ handleBytes C answer sent = Connection.new ∧
      client.readResponse fromSlice (writtenBytes (handleBytes C answer sent)) = none := by
  have absent : 0x0A ∉ client.requestBytes operation payload := by
    rw [LocalClient.requestBytes, List.mem_append, not_or]
    exact ⟨noFeed, newline_not_mem_requestData tree⟩
  have single := Utf8.splitOn_of_not_mem absent
  have untouched : handleBytes C answer (client.requestBytes operation payload) = Connection.new := by
    simp [handleBytes, completeLines, single, readLines, Connection.handleLines]
  refine ⟨by simp [unfinished, single], untouched, ?_⟩
  rw [untouched]
  rfl

end Waits

/-! ### The messages -/

/-- With the framing agreed upon, the request would lack the `jsonrpc` member,
and the answer the `request_id`. -/
theorem messages_disagree (client : LocalClient) (operation : String) (payload : Value) :
    JsonRpcMessage.deserialize (client.requestTree operation payload) = none ∧
      ∀ response : JsonRpcResponse, client.matchId response.serialize.normalize =
        .error "response request_id mismatch" := by
  constructor
  · rw [requestTree_eq]
    simp [JsonRpcMessage.deserialize, fieldOnce, required]
  · intro response
    have absent : response.serialize.normalize.get "request_id" = none := by
      apply Value.get_normalize_of_not_mem
      cases response.result <;> cases response.error <;> simp [memberOf]
    rw [LocalClient.matchId, absent]
    rfl

/-- Neither side reads what the other one writes. -/
theorem localClient_unserved (C : Crates) (fromSlice : List UInt8 → Except String Value)
    (client : LocalClient) (operation : String) (payload : Value) (answer : Nat → JsonRpcResponse) :
    let sent := client.requestBytes operation payload
    ¬ ReadAs C operation sent ∧
      ¬ client.Accepts fromSlice (writtenBytes (handleBytes C answer sent)) :=
  ⟨not_readAs client operation payload C, not_accepts fromSlice client _⟩

namespace Sample

/-- The crates with a reader of JSON texts. -/
def readingCrates : Crates := { Transparent.crates [] with parseJson := JsonText.readJson }

def readSlice (bytes : List UInt8) : Except String Value :=
  (((Utf8.decode bytes).bind fun text => JsonText.readJson (String.ofList text)).map .ok).getD
    (.error "expected value")

def noSession (_ : Nat) : JsonRpcResponse := .failure .null jsonrpcNoSession "no active session"

end Sample

open Sample in
/-- The first call of the module on a connection: both sides wait. -/
theorem requestIdentities_unserved :
    let sent := LocalClient.connect.requestBytes "request_identities" (.object [])
    let received := writtenBytes (handleBytes readingCrates noSession sent)
    ¬ (ReadAs readingCrates "request_identities" sent ∧
        LocalClient.connect.Accepts readSlice received) ∧
      unfinished sent = sent ∧ LocalClient.connect.readResponse readSlice received = none := by
  have waits := @localClient_waits .connect "request_identities" (.object []) readingCrates readSlice
    noSession ⟨trivial, trivial⟩ (by decide)
  refine ⟨?_, waits.1, waits.2.2⟩
  intro served
  exact not_readAs _ _ _ _ served.1

end KeyMaster.Pkcs11

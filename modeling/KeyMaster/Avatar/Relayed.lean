import KeyMaster.Avatar.Connection
import KeyMaster.JsonReading
import KeyMaster.JsonRpcRelay

namespace KeyMaster

/-! A service avatar's lines on its connection to the avatar. -/

variable {C : Crates} {codecs : Codecs} {request : JsonRpcRequest} {response : JsonRpcResponse}

/-- Both programs read JSON with `serde_json`. -/
structure SameJson (C : Crates) (codecs : Codecs) : Prop where
  same : ∀ text, (codecs.parseJson text).toOption = C.parseJson text
  trees : ∀ text tree, C.parseJson text = some tree → tree.Tree

/-- The line of a printed value is not too long, and its text is read back. -/
structure LineReads (C : Crates) (tree : Value) : Prop where
  fits : (writeLineMessage tree).utf8ByteSize ≤ maxLineSize
  reads : C.parseJson tree.toJson = some tree

def requestLine (request : JsonRpcRequest) : String := writeLineMessage request.serialize

def answerLine (response : JsonRpcResponse) : String := writeLineMessage response.serialize

/-- The request as the avatar sends it to Nostr. -/
def nostrRequest (request : JsonRpcRequest) : JsonRpcRequest where
  jsonrpc := "2.0"
  method := request.method
  params := request.params
  id := some (request.id.getD .null)

theorem SameJson.read (json : SameJson C codecs) {text : String}
    (reads : readRequestLine codecs text = some request) : request.Read := by
  rw [readRequestLine, readLineMessage] at reads
  split at reads
  · cases reads
  · obtain ⟨tree, parsed, isRequest⟩ := Option.bind_eq_some_iff.mp reads
    rw [json.same] at parsed
    exact JsonRpcRequest.read_of_deserialize (json.trees _ _ parsed) isRequest

theorem SameJson.parses (json : SameJson C codecs) {tree : Value}
    (reads : C.parseJson tree.toJson = some tree) : codecs.parseJson tree.toJson = .ok tree := by
  have same := json.same tree.toJson
  rw [reads] at same
  cases parse : codecs.parseJson tree.toJson with
  | ok found =>
      rw [parse] at same
      cases same
      rfl
  | error reason =>
      rw [parse] at same
      cases same

theorem read_requestLine (read : request.Read) (line : LineReads C request.serialize) :
    readLineMessage C.parseJson JsonRpcMessage.deserialize (requestLine request) =
      some ⟨request.jsonrpc, some request.method, request.params, none, none, request.id⟩ :=
  (readLineMessage_writeLineMessage line.reads line.fits).trans read.asMessage

/-- A request is read as it was written. -/
theorem readRequestLine_requestLine (json : SameJson C codecs) (read : request.Read)
    (line : LineReads C request.serialize) :
    readRequestLine codecs (requestLine request) = some request := by
  have parsed : (codecs.parseJson request.serialize.toJson).toOption = some request.serialize := by
    rw [json.same, line.reads]
  exact (readLineMessage_writeLineMessage parsed line.fits).trans read.deserialize_serialize

theorem readResponseLine_answerLine (json : SameJson C codecs) (held : response.Held)
    (line : LineReads C response.serialize) :
    readResponseLine codecs (answerLine response) = some response.reread := by
  have parsed : (codecs.parseJson response.serialize.toJson).toOption = some response.serialize := by
    rw [json.same, line.reads]
  exact (readLineMessage_writeLineMessage parsed line.fits).trans held.deserialize_serialize

theorem Connection.handleMessage_forward {service : String} {conn : Connection} {msg : JsonRpcMessage}
    {method : String} (bound : conn.boundService = some service) (isMethod : msg.method = some method)
    (noConnect : method ≠ "connect") (answer : JsonRpcResponse) :
    conn.handleMessage msg answer =
      { conn with
        written := conn.written ++ [answer]
        forwarded := conn.forwarded ++
          [(service, ⟨"2.0", method, msg.params, some (msg.id.getD .null)⟩)] } := by
  simp only [Connection.handleMessage, isMethod, if_neg noConnect, bound, Connection.write]

/-- Requests on a connection that is bound to the service, none of them a connect. -/
theorem Connection.handleLines_forward {service : String} (conn : Connection)
    (bound : conn.boundService = some service) (exchanges : List (JsonRpcRequest × JsonRpcResponse))
    (read : ∀ exchange ∈ exchanges, exchange.1.Read)
    (lines : ∀ exchange ∈ exchanges, LineReads C exchange.1.serialize)
    (noConnect : ∀ exchange ∈ exchanges, exchange.1.method ≠ "connect") :
    conn.handleLines C (exchanges.map fun exchange => (requestLine exchange.1, exchange.2)) =
      { conn with
        written := conn.written ++ exchanges.map Prod.snd
        forwarded := conn.forwarded ++
          exchanges.map fun exchange => (service, nostrRequest exchange.1) } := by
  induction exchanges generalizing conn with
  | nil => simp [Connection.handleLines]
  | cons exchange rest ih =>
      rw [List.forall_mem_cons] at read lines noConnect
      rw [List.map_cons, Connection.handleLines, read_requestLine read.1 lines.1]
      simp only
      rw [handleMessage_forward bound rfl noConnect.1]
      refine (ih _ ?_ read.2 lines.2 noConnect.2).trans ?_
      · exact bound
      · simp [nostrRequest]

/-- A connection whose first line is a connect, and none of whose others is. -/
theorem Connection.handleLines_connected {connect : JsonRpcRequest}
    {more : List JsonRpcRequest} {answers : List JsonRpcResponse} {service : String}
    (isConnect : connect.method = "connect")
    (names : (connect.params.get "type").bind Value.asStr = some service) (named : service ≠ "")
    (read : ∀ request ∈ connect :: more, request.Read)
    (lines : ∀ request ∈ connect :: more, LineReads C request.serialize)
    (noConnect : ∀ request ∈ more, request.method ≠ "connect")
    (enough : answers.length = (connect :: more).length) :
    Connection.new.handleLines C (((connect :: more).map requestLine).zip answers) =
      { boundService := some service
        written := .success (connect.id.getD .null) (jsonObject [("npub",
          .string (((connect.params.get "npub").bind Value.asStr).getD ""))]) :: answers.tail
        forwarded := more.map fun request => (service, nostrRequest request) } := by
  rw [List.forall_mem_cons] at read lines
  cases answers with
  | nil => cases enough
  | cons first rest =>
      have size : rest.length = more.length := Nat.succ.inj enough
      have pairs : (more.map requestLine).zip rest =
          (more.zip rest).map fun exchange => (requestLine exchange.1, exchange.2) := by
        rw [List.zip_map_left]
        rfl
      have requests : (more.zip rest).map (fun exchange => (service, nostrRequest exchange.1)) =
          more.map fun request => (service, nostrRequest request) := by
        have firsts := @List.map_fst_zip _ _ more rest (by omega)
        conv_rhs => rw [← firsts]
        rw [List.map_map]
        rfl
      have inside : ∀ exchange ∈ more.zip rest, exchange.1 ∈ more :=
        fun exchange member => (List.of_mem_zip member).1
      rw [List.map_cons, List.zip_cons_cons, Connection.handleLines, read_requestLine read.1 lines.1]
      simp only [handleMessage, isConnect, if_true, names, Option.getD_some, named, if_false,
        Connection.write, Connection.new, List.nil_append]
      rw [pairs, Connection.handleLines_forward _ rfl _
        (fun exchange member => read.2 _ (inside exchange member))
        (fun exchange member => lines.2 _ (inside exchange member))
        (fun exchange member => noConnect _ (inside exchange member)),
        requests, List.map_snd_zip (by omega)]
      rfl

namespace Transparent

def treeCrates : Crates := { crates [] with parseJson := readTree }

def treeCodecs : Codecs :=
  { simpleCodecs [] with
    parseJson := fun text => (readTree text).elim (failure "no tree" (by decide)) .ok }

theorem sameJson : SameJson treeCrates treeCodecs where
  same text := by
    change Except.toOption ((readTree text).elim (failure "no tree" (by decide)) .ok) =
      readTree text
    cases readTree text <;> rfl
  trees _ _ read := tree_of_readTree read

theorem lineReads_of_tree {tree : Value} (isTree : tree.Tree)
    (fits : (writeLineMessage tree).utf8ByteSize ≤ maxLineSize) : LineReads treeCrates tree :=
  ⟨fits, readTree_toJson isTree⟩

end Transparent

end KeyMaster

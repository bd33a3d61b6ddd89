import KeyMaster.NostrSa.Correlation
import KeyMaster.NostrSa.Encodings

namespace KeyMaster.NostrSa

open Data Value

/-! What a method of `KmNostrClient` returns over the bridge, whatever else its
clients and its connections do. -/

variable {codecs : Codecs} {α : Type} {bridge : Bridge} {clientCall : ClientCall α}

/-! ### Error codes -/

theorem bounds_of_readI64 {value : Value} {code : Int} (read : readI64 value = some code) :
    -2 ^ 63 ≤ code ∧ code < 2 ^ 63 := by
  cases value with
  | number number =>
      cases number with
      | posInt value =>
          rw [readI64] at read
          split at read
          · cases read
            omega
          · cases read
      | negInt value =>
          cases read
          exact ⟨value.le_toInt, value.toInt_lt⟩
      | float => cases read
  | _ => cases read

theorem asI64_code {code : Int} (bounds : -2 ^ 63 ≤ code ∧ code < 2 ^ 63) :
    asI64 (.number (if code < 0 then .negInt (Int64.ofInt code) else .posInt (UInt64.ofInt code))) =
      some code := by
  by_cases negative : code < 0
  · rw [if_pos negative, asI64, Int64.toInt_ofInt_of_le bounds.1 bounds.2]
  · have same : (UInt64.ofInt code).toNat = code.toNat := by
      rw [UInt64.ofInt, UInt64.toNat_ofNat']
      omega
    rw [if_neg negative, asI64, same, if_pos (by omega), Int.toNat_of_nonneg (by omega)]

theorem bounds_of_error {value : Value} {error : JsonRpcError}
    (read : JsonRpcError.deserialize value = some error) :
    -2 ^ 63 ≤ error.code ∧ error.code < 2 ^ 63 := by
  unfold JsonRpcError.deserialize at read
  split at read
  · rename_i members
    simp only [bind, Option.bind_eq_some_iff] at read
    obtain ⟨member, -, code, isCode, read⟩ := read
    obtain ⟨_, -, _, -, _, -, _, -, made⟩ := read
    rw [← Option.some.inj made]
    cases member with
    | none => cases isCode
    | some member => exact bounds_of_readI64 isCode
  · simp only [bind, Option.bind_eq_some_iff] at read
    obtain ⟨code, isCode, _, -, _, -, made⟩ := read
    rw [← Option.some.inj made]
    exact bounds_of_readI64 isCode
  · cases read

theorem bounds_of_optional {value : Option Value} {error : JsonRpcError}
    (read : optional JsonRpcError.deserialize value = some (some error)) :
    -2 ^ 63 ≤ error.code ∧ error.code < 2 ^ 63 := by
  unfold optional at read
  split at read
  · cases read
  · cases read
  · obtain ⟨held, isError, same⟩ := Option.map_eq_some_iff.mp read
    rw [← Option.some.inj same]
    exact bounds_of_error isError

theorem bounds_of_response {value : Value} {answer : JsonRpcResponse} {error : JsonRpcError}
    (read : JsonRpcResponse.deserialize value = some answer) (isError : answer.error = some error) :
    -2 ^ 63 ≤ error.code ∧ error.code < 2 ^ 63 := by
  unfold JsonRpcResponse.deserialize at read
  split at read
  · simp only [bind, Option.bind_eq_some_iff] at read
    obtain ⟨_, -, _, -, _, -, _, -, _, -, held, isRead, _, -, _, -, made⟩ := read
    cases made
    have same : held = some error := isError
    rw [same] at isRead
    exact bounds_of_optional isRead
  · simp only [bind, Option.bind_eq_some_iff] at read
    obtain ⟨_, -, _, -, held, isRead, made⟩ := read
    cases made
    have same : held = some error := isError
    rw [same] at isRead
    exact bounds_of_optional isRead
  · cases read

theorem bounds_of_readsAs {text : String} {answer : JsonRpcResponse} {error : JsonRpcError}
    (reads : readsAs codecs text answer) (isError : answer.error = some error) :
    -2 ^ 63 ≤ error.code ∧ error.code < 2 ^ 63 := by
  rw [readsAs, readLineMessage] at reads
  split at reads
  · cases reads
  · obtain ⟨value, -, read⟩ := Option.bind_eq_some_iff.mp reads
    exact bounds_of_response read isError

/-! ### Results -/

/-- The client cannot read the result. -/
def ClientError.OfDecoding : ClientError → Prop
  | .hex | .protocol _ => True
  | .rpc _ _ => False

/-- A decoder that reports nothing but what it cannot read. -/
def Decodes (outcome : Except ClientError α) : Prop :=
  ∀ error, outcome = .error error → error.OfDecoding

theorem decodes_ok (value : α) : Decodes (.ok value) := by
  intro error failed
  cases failed

theorem decodes_protocol (message : String) : Decodes (α := α) (.error (.protocol message)) := by
  intro error failed
  cases failed
  trivial

theorem Decodes.bind {β : Type} {first : Except ClientError α} {next : α → Except ClientError β}
    (decodes : Decodes first) (later : ∀ value, Decodes (next value)) : Decodes (first >>= next) := by
  cases first with
  | ok value => exact later value
  | error error =>
      intro same failed
      cases failed
      exact decodes error rfl

theorem decodes_getStr (result : Value) (field : String) : Decodes (getStr result field) := by
  rw [getStr]
  cases (result.get field).bind asStr with
  | none => exact decodes_protocol _
  | some text => exact decodes_ok text

theorem decodes_hexToArray (count : Nat) (text : String) : Decodes (hexToArray count text) := by
  unfold hexToArray
  split
  · intro error failed
    cases failed
    trivial
  · split
    · exact decodes_ok _
    · exact decodes_protocol _

theorem decodes_mapM {β : Type} {decode : Value → Except ClientError β} (items : List Value)
    (each : ∀ item, Decodes (decode item)) : Decodes (items.mapM decode) := by
  induction items with
  | nil => exact decodes_ok []
  | cons item rest ih =>
      rw [List.mapM_cons]
      exact (each item).bind fun _ => ih.bind fun _ => decodes_ok _

theorem decodes_publicKeyOf (item : Value) : Decodes (KmNostrClient.publicKeyOf item) := by
  unfold KmNostrClient.publicKeyOf
  split
  · exact decodes_protocol _
  · exact decodes_hexToArray _ _

theorem decodes_decode (clientCall : ClientCall α) (result : Value) :
    Decodes (clientCall.call.decode result) := by
  cases clientCall with
  | getPublicKeys =>
      simp only [ClientCall.call, KmNostrClient.getPublicKeys]
      split
      · exact decodes_protocol _
      · exact decodes_mapM _ decodes_publicKeyOf
  | nip44Encrypt | nip44Decrypt => exact decodes_getStr _ _
  | mlsNextHpkeInitKey =>
      simp only [ClientCall.call, KmNostrClient.mlsNextHpkeInitKey]
      refine ((decodes_getStr _ _).bind (decodes_hexToArray _)).bind ?_
      intro pubkey
      split
      · exact decodes_protocol _
      · exact decodes_ok _
  | _ => exact (decodes_getStr _ _).bind (decodes_hexToArray _)

/-! ### Replies -/

/-- What the answer of the avatar says the call has come to.  The call returns a
value exactly if the result yields it, and without one it cannot read the
result. -/
def Conveys (codecs : Codecs) (clientCall : ClientCall α) (answer : JsonRpcResponse)
    (outcome : Except ClientError α) : Prop :=
  match answer.error, answer.result with
  | some error, _ => outcome = .error (.rpc error.code error.message)
  | none, some result =>
      (∀ value, outcome = .ok value ↔ clientCall.Yields codecs result value) ∧ Decodes outcome
  | none, none => outcome = .error (.protocol "missing result field")

theorem read_error {call : Call α} {response : JsonRpcResponse} {error : JsonRpcError}
    (isError : response.error = some error) (bounds : -2 ^ 63 ≤ error.code ∧ error.code < 2 ^ 63) :
    call.read (responseValue response) = .error (.rpc error.code error.message) := by
  have member : (responseValue response).get "error" = some (JsonRpcError.toValue error) := by
    cases isResult : response.result <;>
      simp [responseValue, isError, isResult, get_jsonObject]
  have code := asI64_code bounds
  have isCode : ((JsonRpcError.toValue error).get "code").bind asI64 = some error.code := by
    cases data : error.data <;>
      simp [JsonRpcError.toValue, get_jsonObject, lookup_cons_eq, data, code]
  have isMessage : ((JsonRpcError.toValue error).get "message").bind Value.asStr =
      some error.message := by
    cases data : error.data <;>
      simp [JsonRpcError.toValue, get_jsonObject, lookup_cons_eq, data, asStr]
  rw [Call.read, member]
  simp only [isCode, isMessage, Option.getD_some]

theorem bounds_of_internalError :
    -2 ^ 63 ≤ jsonrpcInternalError ∧ jsonrpcInternalError < 2 ^ 63 := by
  decide

theorem read_failedReply {call : Call α} (request : ClientRequest) (message : String) :
    call.read (responseValue (failedReply request message)) =
      .error (.rpc jsonrpcInternalError ("avatar connection error: " ++ message)) := by
  have isError : (failedReply request message).error =
      some ⟨jsonrpcInternalError, "avatar connection error: " ++ message, none⟩ := rfl
  exact read_error isError bounds_of_internalError

theorem conveys_answeredReply {request : ClientRequest} {text : String} {answer : JsonRpcResponse}
    (isCall : request.method = clientCall.call.method) (reads : readsAs codecs text answer) :
    Conveys codecs clientCall answer
      (clientCall.call.read (responseValue (answeredReply codecs request answer))) := by
  unfold Conveys
  split
  · rename_i error isError
    exact read_error isError (bounds_of_readsAs reads isError)
  · rename_i result succeeded isResult
    rw [read_answeredReply _ _ succeeded isResult, isCall]
    exact ⟨fun _ => decode_eq_ok_iff clientCall, decodes_decode clientCall _⟩
  · rename_i succeeded noResult
    simp [Call.read, responseValue, answeredReply, succeeded, noResult, get_jsonObject, lookup_cons_eq]

/-! ### What a call returns -/

/-- The call as the bridge takes it over from its client. -/
def ClientCall.request (clientCall : ClientCall α) (reply : ReplyChannel) : ClientRequest :=
  ⟨clientCall.call.method, clientCall.call.params, .number (.posInt 1), reply⟩

/-- What the call of a message returns: what the avatar's answer to its own line
conveys, an answer that no other exchange has used, or that the connection
failed. -/
inductive Returned (codecs : Codecs) (bridge : Bridge) (reply : ReplyChannel)
    (clientCall : ClientCall α) (outcome : Except ClientError α) : Prop
  | answered {stream : AvatarStream} {connection position : Nat} {id : UInt64} {text : String}
      {answer : JsonRpcResponse}
      (member : ⟨clientCall.request reply, .answered connection position id text answer⟩ ∈
        bridge.exchanges)
      (found : bridge.streams[connection]? = some stream)
      (isLine : stream.lines[position]? = some ⟨"2.0", "nostr." ++ clientCall.call.method,
        clientCall.call.avatarParams codecs, some (.number (.posInt id))⟩)
      (isAnswer : stream.answers[position]? = some text) (reads : readsAs codecs text answer)
      (once : ∀ other ∈ bridge.exchanges, other.position = some (connection, position) →
        other = ⟨clientCall.request reply, .answered connection position id text answer⟩)
      (conveys : Conveys codecs clientCall answer outcome)
  | failed {message : String}
      (member : ⟨clientCall.request reply, .failed message⟩ ∈ bridge.exchanges)
      (isFailure : outcome =
        .error (.rpc jsonrpcInternalError ("avatar connection error: " ++ message)))

/-- A position of a connection answers one exchange. -/
theorem BridgeCorrelates.same_exchange (correlates : BridgeCorrelates codecs bridge)
    {exchange other : Exchange} {position : Nat × Nat} (member : exchange ∈ bridge.exchanges)
    (isPosition : exchange.position = some position) (isOther : other ∈ bridge.exchanges)
    (same : other.position = some position) : other = exchange := by
  by_contra different
  have apart := List.pairwise_filterMap.mp correlates.once
  have symmetric : Std.Symm fun first second : Exchange =>
      ∀ left, first.position = some left → ∀ right, second.position = some right → left ≠ right :=
    ⟨fun _ _ unequal left isLeft right isRight => (unequal right isRight left isLeft).symm⟩
  exact apart.forall isOther member different position same position isPosition rfl

theorem returned_of_exchange (correlates : BridgeCorrelates codecs bridge) {exchange : Exchange}
    {reply : ReplyChannel} (member : exchange ∈ bridge.exchanges)
    (made : exchange.request = clientCall.request reply) :
    Returned codecs bridge reply clientCall
      (clientCall.call.read (responseValue (exchange.response codecs))) := by
  obtain ⟨request, ending⟩ := exchange
  obtain rfl : request = clientCall.request reply := made
  cases ending with
  | answered connection position id text answer =>
      obtain ⟨stream, found, isLine, isAnswer, reads⟩ := correlates.sound _ member
      rw [avatarRequest, ClientCall.request,
        translateRequestParams_params (fieldsAgree clientCall)] at isLine
      refine .answered member found isLine isAnswer reads ?_ (conveys_answeredReply rfl reads)
      exact fun other isOther same => correlates.same_exchange member rfl isOther same
  | failed message => exact .failed member (read_failedReply _ message)

theorem single_run {connectText text : String} {connected answer : JsonRpcResponse}
    (readsConnect : readsAs codecs connectText connected) (accepted : connected.error = none)
    (reads : readsAs codecs text answer) (call : Call α) :
    ∃ final, Reachable (Step codecs) .start final ∧
      ∃ frame, final.clients[0]? = some ⟨[call.message], [frame], .reading⟩ := by
  have isRequest := requestOf_message call ⟨0, 0⟩
  refine ⟨_, ⟨_,
    .cons (@Step.openConnection _ _ true rfl) <|
    .cons (@Step.avatarAnswers _ _ connectText Nat.zero_lt_one) <|
    .cons (.connected rfl rfl readsConnect accepted) <|
    .cons (.accept _) <|
    .cons (@Step.readMessage _ _ 0 _ _ _ rfl rfl isRequest) <|
    .cons (@Step.enqueue _ _ 0 _ _ rfl rfl (show 0 < queueCapacity by decide)) <|
    .cons (.takeRequest rfl rfl) <|
    .cons (@Step.avatarAnswers _ _ text (Nat.lt_succ_self 1)) <|
    .cons (.readAnswer rfl rfl reads) <|
    .cons (@Step.writeReply _ _ 0 _ _ _ true rfl rfl
      (by rw [Bridge.settle, HashMap.lookup_insert_eq]; exact if_pos rfl)) <|
    .nil _⟩, _, rfl⟩

namespace Sample

open Transparent

def cipherResult : Value := .object [("ciphertext", .string "Ag==")]

def cipherAnswer : Value := answerTree 2 cipherResult

def cipherCodecs : Codecs :=
  simpleCodecs [(connectAnswer.toJson, connectAnswer), (cipherAnswer.toJson, cipherAnswer)]

theorem readsAs_connect :
    readsAs cipherCodecs (connectAnswer.toJson ++ "\n") (response 1 (.object [])) := by
  rfl

theorem readsAs_cipherAnswer :
    readsAs cipherCodecs (cipherAnswer.toJson ++ "\n") (response 2 cipherResult) := by
  rfl

def encryptCall : ClientCall String :=
  .nip44Encrypt (Vector.replicate 32 0xAB) (Vector.replicate 32 0xCD) "hi"

end Sample

end KeyMaster.NostrSa

import KeyMaster.Avatar.Relayed
import KeyMaster.JsonMap
import KeyMaster.SshSa.Correlation

namespace KeyMaster.SshSa

open Data

/-! From an agent client through the bridge and the avatar's connection to Nostr,
and back. -/

variable {C : Crates} {codecs : Codecs} {npub : String}

/-! ### What a line asks for -/

/-- The bytes of a parameter. -/
def paramBytes (codecs : Codecs) (params : Value) (field : String) : Option (List UInt8) :=
  ((params.get field).bind Value.asStr).bind fun text => (codecs.base64Decode text).toOption

/-- The agent request that a line at the far end stands for. -/
def asks (codecs : Codecs) (line : JsonRpcRequest) : Option AgentRequest :=
  if line.method = "ssh.request_identities" then some .requestIdentities
  else if line.method = "ssh.sign_request" then do
    let keyBlob ← paramBytes codecs line.params "key_blob"
    let data ← paramBytes codecs line.params "data"
    let flags ← (line.params.get "flags").bind Value.asU64
    some (.signRequest keyBlob data flags.toUInt32)
  else none

theorem asks_rpcRequest (lossless : codecs.Lossless) (request : AgentRequest) (id : UInt64) :
    asks codecs (nostrRequest (rpcRequest codecs request id)) = some request := by
  cases request with
  | requestIdentities => rfl
  | signRequest keyBlob data flags =>
      have decodes : ∀ bytes, (codecs.base64Decode (codecs.base64Encode bytes)).toOption = some bytes := by
        intro bytes
        rw [lossless bytes]
        rfl
      simp [asks, nostrRequest, rpcRequest, paramBytes, Value.get_jsonObject, List.lookup_cons,
        Value.asStr, Value.asU64, decodes]

theorem read_rpcRequest (request : AgentRequest) (id : UInt64) :
    (rpcRequest codecs request id).Read where
  params := by
    cases request with
    | requestIdentities => exact Value.held_jsonObject (by simp)
    | signRequest keyBlob data flags =>
        refine Value.held_jsonObject ?_
        simp only [List.forall_mem_cons]
        exact ⟨trivial, trivial, trivial, by simp⟩
  id found isId := by
    cases request <;> cases isId <;> exact ⟨trivial, by simp⟩

theorem rpcRequest_ne_connect (request : AgentRequest) (id : UInt64) :
    (rpcRequest codecs request id).method ≠ "connect" := by
  cases request <;> simp [rpcRequest]

theorem connectRequest_type (npub : String) :
    ((connectRequest npub).params.get "type").bind Value.asStr = some "ssh" := by
  simp [connectRequest, Value.get_jsonObject, Value.asStr]

theorem read_connectRequest (npub : String) : (connectRequest npub).Read where
  params := by
    refine Value.held_jsonObject ?_
    simp only [List.forall_mem_cons]
    exact ⟨trivial, trivial, by simp⟩
  id found isId := by
    cases isId
    exact ⟨trivial, by simp⟩

/-! ### What a connection carries -/

/-- The lines of an avatar connection: none, or a connect and then requests. -/
def Lines (codecs : Codecs) (npub : String) (sent : List JsonRpcRequest) : Prop :=
  sent = [] ∨ ∃ more, sent = connectRequest npub :: more ∧
    ∀ line ∈ more, ∃ request id, line = rpcRequest codecs request id

/-- A request is only sent after the connect line. -/
structure Carries (codecs : Codecs) (npub : String) (bridge : Bridge) : Prop where
  lines : ∀ stream ∈ bridge.streams, Lines codecs npub stream.sent
  opened : bridge.phase ≠ .disconnected → bridge.stream.sent ≠ []

variable {before after bridge : Bridge} {label : Label} {stream later : AvatarStream}

theorem Lines.send {sent : List JsonRpcRequest} (lines : Lines codecs npub sent) (opened : sent ≠ [])
    (request : AgentRequest) (id : UInt64) :
    Lines codecs npub (sent ++ [rpcRequest codecs request id]) := by
  rcases lines with empty | ⟨more, rfl, requests⟩
  · exact absurd empty opened
  · refine .inr ⟨more ++ [rpcRequest codecs request id], rfl, ?_⟩
    intro line member
    rcases List.mem_append.mp member with old | new
    · exact requests line old
    · exact ⟨request, id, List.mem_singleton.mp new⟩

theorem Carries.change (carries : Carries codecs npub bridge) (own : Lines codecs npub later.sent) :
    ∀ stream ∈ bridge.past ++ [later], Lines codecs npub stream.sent := by
  intro stream member
  rcases List.mem_append.mp member with old | new
  · exact carries.lines stream (List.mem_append_left _ old)
  · rw [List.mem_singleton.mp new]
    exact own

theorem Carries.current (carries : Carries codecs npub bridge) : Lines codecs npub bridge.stream.sent :=
  carries.lines _ (List.mem_append_right _ List.mem_cons_self)

theorem Step.carries (step : Step codecs npub before label after) (carries : Carries codecs npub before) :
    Carries codecs npub after := by
  cases step with
  | accept | readPayload | disconnect | enqueue | receive | timeout | writeAnswer =>
      exact ⟨carries.lines, carries.opened⟩
  | @openConnection written disconnected =>
      refine ⟨?_, ?_⟩
      · intro stream member
        rcases List.mem_append.mp member with old | new
        · exact carries.lines stream old
        · rw [List.mem_singleton.mp new]
          cases written with
          | false => exact .inl rfl
          | true => exact .inr ⟨[], rfl, by simp⟩
      · cases written <;> simp
  | connected connecting arrived reads accepted =>
      exact ⟨carries.change carries.current, fun _ => carries.opened (by simp [connecting])⟩
  | connectFailed | takeAndFail | readFailed => exact ⟨carries.lines, fun opened => absurd rfl opened⟩
  | takeRequest idle isNext =>
      refine ⟨carries.change ?_, fun _ => ?_⟩
      · exact carries.current.send (carries.opened (by simp [idle])) _ _
      · simp [Conversation.send]
  | avatarAnswers asked => exact ⟨carries.change carries.current, carries.opened⟩
  | readAnswer exchanging arrived reads =>
      exact ⟨carries.change carries.current, fun _ => carries.opened (by simp [exchanging])⟩

theorem reachable_carries (reachable : Reachable (Step codecs npub) .start bridge) :
    Carries codecs npub bridge := by
  refine reachable.invariant (Carries codecs npub) (fun _ _ _ step => step.carries) ⟨?_, ?_⟩
  · intro stream member
    rw [List.mem_singleton.mp member]
    exact .inl rfl
  · exact fun opened => absurd rfl opened

/-- A request's line is not the first one. -/
theorem Lines.position_ne_zero {sent : List JsonRpcRequest} (lines : Lines codecs npub sent)
    {position : Nat} {request : AgentRequest} {id : UInt64}
    (isLine : sent[position]? = some (rpcRequest codecs request id)) : position ≠ 0 := by
  rintro rfl
  rcases lines with rfl | ⟨more, rfl, _⟩
  · cases isLine
  · exact rpcRequest_ne_connect request id (congrArg JsonRpcRequest.method (Option.some.inj isLine)).symm

/-! ### What comes back -/

theorem answerOf_reread (request : AgentRequest) (resp : JsonRpcResponse) :
    answerOf codecs request (some resp.reread) = answerOf codecs request (some resp) := by
  have sameResult : ∀ field, (resp.reread.result.bind fun result => result.get field) =
      resp.result.bind fun result => result.get field := by
    intro field
    rw [JsonRpcResponse.reread]
    cases resp.result with
    | none => rfl
    | some result => cases result <;> rfl
  have sameError : resp.reread.error = resp.error := rfl
  cases request with
  | requestIdentities => simp only [answerOf, identitiesReply, sameResult, sameError]
  | signRequest => simp only [answerOf, signReply, sameResult, sameError]

/-! ### Both ways -/

/-- The avatar's end of a connection of the bridge, given what `forward_to_nostr`
returns at each line if it is called there. -/
def avatarConnection (C : Crates) (stream : AvatarStream) (answers : List JsonRpcResponse) : Connection :=
  Connection.new.handleLines C ((stream.sent.map requestLine).zip answers)

variable {answers : List JsonRpcResponse}

theorem avatarConnection_eq {more : List JsonRpcRequest}
    (isSent : stream.sent = connectRequest npub :: more)
    (requests : ∀ line ∈ more, ∃ request id, line = rpcRequest codecs request id)
    (lines : ∀ line ∈ stream.sent, LineReads C line.serialize)
    (enough : answers.length = stream.sent.length) :
    avatarConnection C stream answers =
      { boundService := some "ssh"
        written := .success (.number (.posInt 1)) (jsonObject [("npub",
          .string ((((connectRequest npub).params.get "npub").bind Value.asStr).getD ""))]) :: answers.tail
        forwarded := more.map fun line => ("ssh", nostrRequest line) } := by
  have read : ∀ line ∈ connectRequest npub :: more, line.Read := by
    rw [List.forall_mem_cons]
    refine ⟨read_connectRequest npub, ?_⟩
    intro line member
    obtain ⟨request, id, rfl⟩ := requests line member
    exact read_rpcRequest request id
  have noConnect : ∀ line ∈ more, line.method ≠ "connect" := by
    intro line member
    obtain ⟨request, id, rfl⟩ := requests line member
    exact rpcRequest_ne_connect request id
  rw [isSent] at lines enough
  rw [avatarConnection, isSent]
  exact Connection.handleLines_connected rfl (connectRequest_type npub) (by decide) read lines
    noConnect enough

theorem Lines.avatarConnection_forwarded (opened : Lines codecs npub stream.sent)
    (lines : ∀ line ∈ stream.sent, LineReads C line.serialize)
    (enough : answers.length = stream.sent.length) :
    (avatarConnection C stream answers).forwarded =
        (stream.sent.tail.map fun line => ("ssh", nostrRequest line)) ∧
      (avatarConnection C stream answers).written.tail = answers.tail := by
  rcases opened with empty | ⟨more, isSent, requests⟩
  · rw [empty] at enough
    rw [avatarConnection, empty, List.length_eq_zero_iff.mp enough]
    exact ⟨rfl, rfl⟩
  · rw [avatarConnection_eq isSent requests lines enough, isSent]
    exact ⟨rfl, rfl⟩

/-- The avatar's `handle_connection` serves every connection of the bridge, with
these answers of Nostr on each. -/
structure ServedBy (C : Crates) (bridge : Bridge) (answers : Nat → List JsonRpcResponse) : Prop where
  lines : ∀ stream ∈ bridge.streams, ∀ line ∈ stream.sent, LineReads C line.serialize
  enough : ∀ (connection : Nat) (stream : AvatarStream), bridge.streams[connection]? = some stream →
    (answers connection).length = stream.sent.length
  held : ∀ connection, ∀ answer ∈ answers connection, answer.Held
  answerLines : ∀ connection, ∀ answer ∈ answers connection, LineReads C answer.serialize
  answered : ∀ (connection : Nat) (stream : AvatarStream), bridge.streams[connection]? = some stream →
    stream.answers <+: (avatarConnection C stream (answers connection)).written.map answerLine

/-- The answer is made of what Nostr had for a request that asks for exactly what
the payload asks for. -/
def FromNostr (C : Crates) (codecs : Codecs) (bridge : Bridge) (answers : Nat → List JsonRpcResponse)
    (payload answer : List UInt8) : Prop :=
  ∃ connection stream index request line own, bridge.streams[connection]? = some stream ∧
    handlePayload payload = .ok (.forwards request) ∧
    (avatarConnection C stream (answers connection)).forwarded[index]? = some ("ssh", line) ∧
    asks codecs line = some request ∧ (answers connection)[index + 1]? = some own ∧
    answer = answerOf codecs request (some own)

variable {answers : Nat → List JsonRpcResponse}

theorem exchange_fromNostr (json : SameJson C codecs) (lossless : codecs.Lossless)
    (reachable : Reachable (Step codecs npub) .start bridge) (serves : ServedBy C bridge answers)
    {served : Served} (member : served ∈ bridge.exchanges) {connection position : Nat} {id : UInt64}
    {text : String} {resp : JsonRpcResponse}
    (isAnswered : served.ending = .answered connection position id text resp) :
    FromNostr C codecs bridge answers served.call (respond codecs served.call served.ending) := by
  have own := (reachable_exchanged reachable).own served member
  rw [isAnswered] at own
  obtain ⟨stream, request, isStream, handles, ⟨_, isLine, isText⟩, reads⟩ := own
  have inStreams := List.mem_of_getElem? isStream
  have opened := (reachable_carries reachable).lines stream inStreams
  obtain ⟨forwarded, written⟩ := opened.avatarConnection_forwarded (serves.lines stream inStreams)
    (serves.enough connection stream isStream)
  obtain ⟨index, rfl⟩ := Nat.exists_eq_succ_of_ne_zero (opened.position_ne_zero isLine)
  have isAnswer := List.prefix_iff_getElem?.mp (serves.answered connection stream isStream) _
    (List.getElem?_eq_some_iff.mp isText).1
  rw [← List.getElem?_eq_getElem, isText, List.getElem?_map] at isAnswer
  obtain ⟨own, isOwn, sameLine⟩ := Option.map_eq_some_iff.mp isAnswer
  rw [← List.getElem?_tail, written, List.getElem?_tail] at isOwn
  have inside := List.mem_of_getElem? isOwn
  rw [← sameLine, readResponseLine_answerLine json (serves.held connection own inside)
    (serves.answerLines connection own inside)] at reads
  cases reads
  refine ⟨connection, stream, index, request, nostrRequest (rpcRequest codecs request id), own,
    isStream, handles, ?_, asks_rpcRequest lossless request id, isOwn, ?_⟩
  · rw [forwarded, List.getElem?_map, List.getElem?_tail, isLine, Option.map_some]
  · rw [respond, handles, isAnswered, Ending.response]
    exact answerOf_reread request own

/-- What a client gets if the exchange of its request fails. -/
theorem respond_failed (payload : List UInt8) (message : String) :
    respond codecs payload (.failed message) = [sshAgentFailure] ∨
      handlePayload payload = .ok (.forwards .requestIdentities) ∧
        respond codecs payload (.failed message) = [sshAgentIdentitiesAnswer, 0, 0, 0, 0] := by
  have empty : buildIdentitiesAnswer [] = [sshAgentIdentitiesAnswer, 0, 0, 0, 0] := by decide
  unfold respond
  split
  · rename_i request handles
    cases request with
    | requestIdentities => exact .inr ⟨handles, empty⟩
    | signRequest => exact .inl rfl
  · exact .inl rfl

/-- If the avatar's lines are its answers, then every line of a connection but
the connect reaches the SSH service.  What a client gets is made of what Nostr
had for exactly what the client asked for, or it is a failure. -/
theorem lines_reach_nostr (json : SameJson C codecs) (lossless : codecs.Lossless)
    (reachable : Reachable (Step codecs npub) .start bridge) (serves : ServedBy C bridge answers) :
    (∀ (connection : Nat) (stream : AvatarStream), bridge.streams[connection]? = some stream →
      (avatarConnection C stream (answers connection)).forwarded =
        stream.sent.tail.map fun line => ("ssh", nostrRequest line)) ∧
      ∀ (number index : Nat) (client : Client) (payload answer : List UInt8),
        bridge.clients[number]? = some client → client.payloads[index]? = some payload →
        client.answers[index]? = some answer →
        FromNostr C codecs bridge answers payload answer ∨ answer = [sshAgentFailure] ∨
          handlePayload payload = .ok (.forwards .requestIdentities) ∧
            answer = [sshAgentIdentitiesAnswer, 0, 0, 0, 0] := by
  constructor
  · intro connection stream isStream
    have inStreams := List.mem_of_getElem? isStream
    have opened := (reachable_carries reachable).lines stream inStreams
    exact (opened.avatarConnection_forwarded (serves.lines stream inStreams)
      (serves.enough connection stream isStream)).1
  · intro number index client payload answer found isPayload isAnswer
    have caller : bridge.view.callers[number]? = some ⟨client.payloads, client.answers⟩ := by
      rw [Bridge.view, List.getElem?_map, found]
      rfl
    have correlates := Calls.correlates_of_reachable (implements_service.reachable reachable)
    rcases correlates.replies number index _ payload answer caller isPayload isAnswer with
      ⟨served, member, _, rfl, rfl⟩ | putOff
    · cases ending : served.ending with
      | failed message => exact .inr (respond_failed _ message)
      | answered connection position id text resp =>
          rw [← ending]
          exact .inl (exchange_fromNostr json lossless reachable serves member ending)
    · exact .inr (.inl putOff)

namespace Sample

open Transparent

def connectedAnswer : JsonRpcResponse :=
  .success (.number (.posInt 1)) (.object [("npub", .string "")])

def signedAnswer : JsonRpcResponse := success 2 signature

def nostrAnswers : List JsonRpcResponse := [connectedAnswer, signedAnswer]

theorem held_nostrAnswers : ∀ answer ∈ nostrAnswers, answer.Held := by
  simp only [nostrAnswers, List.forall_mem_cons, List.not_mem_nil, false_implies, implies_true, and_true]
  refine ⟨JsonRpcResponse.held_success ?_, JsonRpcResponse.held_success ?_⟩ <;>
    simp [signature, Value.Held, Value.Every, Value.EveryMember]

theorem lines_nostrAnswers : ∀ answer ∈ nostrAnswers, LineReads treeCrates answer.serialize := by
  have short : ∀ answer ∈ nostrAnswers, (writeLineMessage answer.serialize).utf8ByteSize ≤ maxLineSize := by
    decide +kernel
  exact fun answer member => lineReads_of_tree (held_nostrAnswers _ member).tree (short answer member)

/-- The lines for one sign request. -/
def signLines (request : AgentRequest) : List JsonRpcRequest :=
  [connectRequest "", rpcRequest treeCodecs request 2]

theorem lines_signLines :
    ∀ line ∈ signLines (.signRequest [0xAA] [] 2), LineReads treeCrates line.serialize := by
  have short : ∀ line ∈ signLines (.signRequest [0xAA] [] 2),
      (writeLineMessage line.serialize).utf8ByteSize ≤ maxLineSize := by
    decide +kernel
  rw [signLines, List.forall_mem_cons, List.forall_mem_singleton] at short ⊢
  exact ⟨lineReads_of_tree (read_connectRequest "").tree short.1,
    lineReads_of_tree (read_rpcRequest _ 2).tree short.2⟩

/-- A sign request, the avatar's answer to it and the client's. -/
theorem one_signature {connectText text : String} {connected resp : JsonRpcResponse}
    {payload : List UInt8} {request : AgentRequest}
    (isConnected : readResponseLine treeCodecs connectText = some connected)
    (accepted : connected.error = none) (reads : readResponseLine treeCodecs text = some resp)
    (nonempty : 1 ≤ payload.length) (small : payload.length ≤ maxPayload)
    (handles : handlePayload payload = .ok (.forwards request)) :
    ∃ final : Bridge, Reachable (Step treeCodecs "") .start final ∧
      final.streams = [⟨[], [], 0⟩, ⟨signLines request, [connectText, text], 2⟩] ∧
      final.clients =
        [⟨[payload], [respond treeCodecs payload (.answered 1 1 2 text resp)], .reading⟩] :=
  ⟨_, ⟨_,
    .cons (.accept _) <|
    .cons (@Step.readPayload _ _ _ 0 _ payload _ rfl rfl nonempty small handles) <|
    .cons (@Step.enqueue _ _ _ 0 _ _ _ rfl rfl (by decide : 0 < 32)) <|
    .cons (@Step.openConnection _ _ _ true rfl) <|
    .cons (@Step.avatarAnswers _ _ _ _ connectText rfl) <|
    .cons (.connected rfl rfl isConnected accepted) <|
    .cons (.takeRequest rfl rfl) <|
    .cons (@Step.avatarAnswers _ _ _ _ text rfl) <|
    .cons (.readAnswer rfl rfl reads) <|
    .cons (@Step.receive _ _ _ 0 _ _ rfl rfl List.mem_cons_self rfl) <|
    .cons (@Step.writeAnswer _ _ _ 0 _ _ true rfl rfl) <|
    .nil _⟩, rfl, rfl⟩

/-- Nothing was sent before the first connection. -/
def answersOn (connection : Nat) : List JsonRpcResponse := if connection = 1 then nostrAnswers else []

/-- The second connection, with one sign request on it. -/
def signStream : AvatarStream :=
  ⟨signLines (.signRequest [0xAA] [] 2), nostrAnswers.map answerLine, 2⟩

theorem written_signStream :
    (avatarConnection treeCrates signStream nostrAnswers).written = nostrAnswers := by
  have requests : ∀ line ∈ [rpcRequest treeCodecs (.signRequest [0xAA] [] 2) 2],
      ∃ request id, line = rpcRequest treeCodecs request id :=
    fun line member => ⟨_, 2, List.mem_singleton.mp member⟩
  rw [avatarConnection_eq rfl requests lines_signLines rfl]
  rfl

theorem servedBy_answersOn {bridge : Bridge} (isStreams : bridge.streams = [⟨[], [], 0⟩, signStream]) :
    ServedBy treeCrates bridge answersOn := by
  have inNostr : ∀ connection, ∀ answer ∈ answersOn connection, answer ∈ nostrAnswers := by
    intro connection answer member
    by_cases isFirst : connection = 1
    · rwa [answersOn, if_pos isFirst] at member
    · rw [answersOn, if_neg isFirst] at member
      cases member
  have cases : ∀ (connection : Nat) (stream : AvatarStream), bridge.streams[connection]? = some stream →
      connection = 0 ∧ stream = ⟨[], [], 0⟩ ∨ connection = 1 ∧ stream = signStream := by
    rw [isStreams]
    rintro (_ | _ | _) stream isStream
    · exact .inl ⟨rfl, (Option.some.inj isStream).symm⟩
    · exact .inr ⟨rfl, (Option.some.inj isStream).symm⟩
    · cases isStream
  refine ⟨?_, ?_, fun _ _ member => held_nostrAnswers _ (inNostr _ _ member),
    fun _ _ member => lines_nostrAnswers _ (inNostr _ _ member), ?_⟩
  · rw [isStreams, List.forall_mem_cons, List.forall_mem_singleton]
    exact ⟨by simp, lines_signLines⟩
  · intro connection stream isStream
    rcases cases connection stream isStream with ⟨rfl, rfl⟩ | ⟨rfl, rfl⟩ <;> rfl
  · intro connection stream isStream
    rcases cases connection stream isStream with ⟨rfl, rfl⟩ | ⟨rfl, rfl⟩
    · exact List.nil_prefix
    · change _ <+: (avatarConnection treeCrates signStream nostrAnswers).written.map answerLine
      rw [written_signStream]
      exact List.prefix_rfl

end Sample

open Sample Transparent in
theorem signature_reaches_nostr : ∃ final : Bridge, Reachable (Step treeCodecs "") .start final ∧
    final.clients.map Client.payloads = [[shortSignRequest]] ∧
    ∀ (number index : Nat) (client : Client) (payload answer : List UInt8),
      final.clients[number]? = some client → client.payloads[index]? = some payload →
      client.answers[index]? = some answer →
      FromNostr treeCrates treeCodecs final answersOn payload answer ∨ answer = [sshAgentFailure] ∨
        handlePayload payload = .ok (.forwards .requestIdentities) ∧
          answer = [sshAgentIdentitiesAnswer, 0, 0, 0, 0] := by
  have reads : ∀ answer ∈ nostrAnswers,
      readResponseLine treeCodecs (answerLine answer) = some answer.reread := fun answer member =>
    readResponseLine_answerLine sameJson (held_nostrAnswers _ member) (lines_nostrAnswers _ member)
  have handles : handlePayload shortSignRequest = .ok (.forwards (.signRequest [0xAA] [] 2)) := by
    decide +kernel
  obtain ⟨final, reachable, isStreams, clients⟩ :=
    one_signature (reads connectedAnswer (by simp [nostrAnswers])) rfl
      (reads signedAnswer (by simp [nostrAnswers])) (by decide) (by decide) handles
  refine ⟨final, reachable, by rw [clients]; rfl, ?_⟩
  exact (lines_reach_nostr sameJson (simpleCodecs_lossless []) reachable
    (servedBy_answersOn isStreams)).2

end KeyMaster.SshSa

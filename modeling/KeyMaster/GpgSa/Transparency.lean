import KeyMaster.Avatar.Relayed
import KeyMaster.GpgSa.Forwarding
import KeyMaster.ScdShim.Client

namespace KeyMaster.GpgSa

open Data

/-! From a shim through the proxy and the avatar's connection to Nostr, and back. -/

variable {C : Crates} {codecs : Codecs}

/-- What a shim makes of a response. -/
def outcome (response : JsonRpcResponse) : Except ScdShim.ClientError Value :=
  match response.error with
  | some error => .error (.proxyError error.message)
  | none => .ok (response.result.getD .null)

/-! ### What the proxy sends -/

variable {before after proxy : Proxy} {label : Label} {request : JsonRpcRequest}

/-- The requests under way and those sent are as they were read. -/
structure SendsRead (proxy : Proxy) : Prop where
  handlers : ∀ (number : Nat) (shim : Shim) request stage, proxy.shims[number]? = some shim →
    shim.handler = .forwarding request stage → request.Read
  sent : ∀ request ∈ proxy.avatar.sent, request.Read

theorem SendsRead.set {number : Nat} {shim next : Shim} {avatar : Conversation JsonRpcRequest String}
    {writer reader : Option Nat} {broken : Bool} {exchanges : List Served} (sends : SendsRead proxy)
    (found : proxy.shims[number]? = some shim)
    (handler : ∀ request stage, next.handler = .forwarding request stage → request.Read)
    (sent : ∀ request ∈ avatar.sent, request.Read) :
    SendsRead ⟨proxy.shims.set number next, writer, reader, avatar, broken, exchanges⟩ where
  handlers other held request stage isHeld isNext := by
    rw [getElem?_set_of_some found] at isHeld
    split at isHeld
    · rw [← Option.some.inj isHeld] at isNext
      exact handler request stage isNext
    · exact sends.handlers other held request stage isHeld isNext
  sent := sent

theorem Step.sendsRead (json : SameJson C codecs) (step : Step codecs before label after)
    (sends : SendsRead before) : SendsRead after := by
  cases step with
  | accept =>
      refine ⟨?_, sends.sent⟩
      intro number shim request stage found isNext
      by_cases old : number < before.shims.length
      · rw [List.getElem?_append_left old] at found
        exact sends.handlers number shim request stage found isNext
      · rw [List.getElem?_append_right (Nat.not_lt.mp old)] at found
        rw [List.mem_singleton.mp (List.mem_of_getElem? found)] at isNext
        cases isNext
  | readRequest found reading reads =>
      refine sends.set found ?_ sends.sent
      rintro request stage isNext
      cases isNext
      exact json.read reads
  | lockWriter found isNext | lockReader found isNext =>
      refine sends.set found ?_ sends.sent
      rintro request stage isForwarding
      cases isForwarding
      exact sends.handlers _ _ _ _ found isNext
  | send found isNext =>
      have read := sends.handlers _ _ _ _ found isNext
      refine sends.set found ?_ ?_
      · rintro request stage isForwarding
        cases isForwarding
        exact read
      · intro request member
        rcases List.mem_append.mp member with old | new
        · exact sends.sent request old
        · rw [List.mem_singleton.mp new]
          exact read
  | disconnect found | sendFails found | receive found | receiveUnreadable found | receiveEnds found
  | unlockReader found | unlockWriter found =>
      exact sends.set found (by simp) sends.sent
  | @write number shim response written found isNext =>
      refine sends.set found ?_ sends.sent
      cases written <;> simp
  | avatarAnswers => exact ⟨sends.handlers, sends.sent⟩
  | avatarCloses => exact ⟨sends.handlers, sends.sent⟩

theorem read_connectRequest : connectRequest.Read where
  params := Value.held_jsonObject (by
    intro member inside
    rw [List.mem_singleton.mp inside]
    trivial)
  id id isId := by
    cases isId
    exact ⟨trivial, by simp⟩

theorem read_certRequest : certRequest.Read where
  params := Value.held_jsonObject (by simp)
  id id isId := by
    cases isId
    exact ⟨trivial, by simp⟩

variable {connectText certText armor : String} {start : Proxy}

theorem reachable_sendsRead (json : SameJson C codecs)
    (started : startUp codecs connectText certText = .ok (armor, start))
    (reachable : Reachable (Step codecs) start proxy) : SendsRead proxy := by
  refine reachable.invariant SendsRead (fun _ _ _ step => step.sendsRead json) ?_
  cases startUp_eq started
  refine ⟨fun number shim request stage found => by simp at found, ?_⟩
  intro request member
  rcases List.mem_cons.mp member with rfl | last
  · exact read_connectRequest
  · rw [List.mem_singleton.mp last]
    exact read_certRequest

/-- A request that a shim has sent. -/
def Asked (shims : List Shim) (request : JsonRpcRequest) : Prop := ∃ shim ∈ shims, request ∈ shim.requests

theorem Asked.set {shims : List Shim} {number : Nat} {shim next : Shim} (asked : Asked shims request)
    (found : shims[number]? = some shim) (grows : shim.requests <+: next.requests) :
    Asked (shims.set number next) request := by
  obtain ⟨own, member, inRequests⟩ := asked
  obtain ⟨other, isOwn⟩ := List.mem_iff_getElem?.mp member
  have changed : (shims.set number next)[other]? = _ := getElem?_set_of_some found other
  by_cases same : other = number
  · subst same
    rw [isOwn] at found
    obtain rfl := Option.some.inj found
    rw [if_pos rfl] at changed
    exact ⟨next, List.mem_of_getElem? changed, grows.subset inRequests⟩
  · rw [if_neg same, isOwn] at changed
    exact ⟨own, List.mem_of_getElem? changed, inRequests⟩

theorem Step.asked (step : Step codecs before label after) (asked : Asked before.shims request) :
    Asked after.shims request := by
  cases step with
  | accept =>
      obtain ⟨shim, member, inRequests⟩ := asked
      exact ⟨shim, List.mem_append_left _ member, inRequests⟩
  | readRequest found => exact asked.set found (List.prefix_append _ _)
  | disconnect found | lockWriter found | lockReader found | send found | sendFails found
  | receive found | receiveUnreadable found | receiveEnds found | unlockReader found
  | unlockWriter found => exact asked.set found List.prefix_rfl
  | @write number shim response written found =>
      refine asked.set found ?_
      cases written <;> exact List.prefix_rfl
  | avatarAnswers | avatarCloses => exact asked

/-- The first two lines of the proxy are its own, and all others those of shims. -/
def SendsAsked (proxy : Proxy) : Prop :=
  ∃ more, proxy.avatar.sent = connectRequest :: certRequest :: more ∧
    ∀ request ∈ more, Asked proxy.shims request

theorem Step.sendsAsked (step : Step codecs before label after)
    (paired : Paired before.shims before.exchanges) (sends : SendsAsked before) : SendsAsked after := by
  obtain ⟨more, isSent, asked⟩ := sends
  have kept : ∀ request ∈ more, Asked after.shims request :=
    fun request member => step.asked (asked request member)
  cases step with
  | @send number shim request found isNext =>
      have coherent := paired.coherent number shim found
      simp only [Shim.Coherent, isNext] at coherent
      have own : Asked before.shims request :=
        ⟨shim, List.mem_of_getElem? found, List.mem_of_getElem? coherent.1.1⟩
      refine ⟨more ++ [request], ?_, ?_⟩
      · rw [Conversation.send, isSent]
        rfl
      · intro other member
        rcases List.mem_append.mp member with old | new
        · exact kept other old
        · rw [List.mem_singleton.mp new]
          exact own.set found List.prefix_rfl
  | accept | readRequest | disconnect | lockWriter | lockReader | sendFails | avatarAnswers
  | avatarCloses | receive | receiveUnreadable | receiveEnds | unlockReader | unlockWriter | write =>
      exact ⟨more, isSent, kept⟩

theorem reachable_sendsAsked (started : startUp codecs connectText certText = .ok (armor, start))
    (reachable : Reachable (Step codecs) start proxy) : SendsAsked proxy := by
  have both := reachable.invariant
    (fun proxy => Paired proxy.shims proxy.exchanges ∧ SendsAsked proxy)
    (fun _ _ _ step holds => ⟨step.paired holds.1, step.sendsAsked holds.1 holds.2⟩)
    ⟨paired_startUp started, by cases startUp_eq started; exact ⟨[], rfl, by simp⟩⟩
  exact both.2

/-! ### What comes back -/

variable {response : JsonRpcResponse}

theorem reread_outcome (response : JsonRpcResponse) : outcome response.reread = outcome response := by
  rw [outcome, outcome, JsonRpcResponse.reread]
  cases response.error with
  | some error => rfl
  | none =>
      cases response.result with
      | none => rfl
      | some result => cases result <;> rfl

theorem keys_nodup (response : JsonRpcResponse) : ∃ members, response.serialize = .object members ∧
    (members.map Prod.fst).Nodup ∧ members.lookup "error" = response.error.map JsonRpcError.serialize ∧
    members.lookup "result" = response.result := by
  refine ⟨_, rfl, ?_, ?_, ?_⟩
  · cases response.result <;> cases response.error <;> simp [memberOf]
  · cases response.result <;> cases response.error <;> rfl
  · cases response.result <;> cases response.error <;> rfl

theorem message_normalize (error : JsonRpcError) :
    (error.serialize.normalize.get "message").bind Value.asStr = some error.message := by
  have distinct : (([("code", .number (numberOfI64 error.code)), ("message", .string error.message)] ++
      memberOf "data" error.data : List (String × Value)).map Prod.fst).Nodup := by
    cases error.data <;> simp [memberOf]
  rw [JsonRpcError.serialize, Value.get_normalize distinct]
  rfl

/-- The shim reads off the line the error's message or the result. -/
theorem readResponse_answerLine (json : SameJson C codecs) (held : response.Held)
    (reads : C.parseJson response.serialize.toJson = some response.serialize) :
    ScdShim.readResponse codecs (answerLine response) = outcome response := by
  obtain ⟨members, isObject, distinct, isError, isResult⟩ := keys_nodup response
  rw [isObject] at reads
  have parsed := json.parses reads
  rw [answerLine, isObject, ScdShim.readResponse, trimEnd_toJson, String.ofList_toList, parsed]
  simp only [Value.get_normalize distinct, isError, isResult]
  rw [outcome]
  cases hasError : response.error with
  | some error => simp only [Option.map_some, message_normalize, Option.getD_some]
  | none =>
      simp only [Option.map_none]
      cases hasResult : response.result with
      | none => rfl
      | some value =>
          rw [Option.map_some, Option.getD_some, Option.getD_some,
            (held.result value hasResult).normalize_eq]

/-! ### Both ways -/

/-- The avatar's end of the proxy's connection, given what `forward_to_nostr`
returns at each line if it is called there. -/
def avatarConnection (C : Crates) (proxy : Proxy) (answers : List JsonRpcResponse) : Connection :=
  Connection.new.handleLines C ((proxy.avatar.sent.map requestLine).zip answers)

variable {answers : List JsonRpcResponse}

theorem avatarConnection_eq (json : SameJson C codecs)
    (started : startUp codecs connectText certText = .ok (armor, start))
    (reachable : Reachable (Step codecs) start proxy)
    (lines : ∀ request ∈ proxy.avatar.sent, LineReads C request.serialize)
    (noConnect : ∀ request ∈ proxy.avatar.sent.tail, request.method ≠ "connect")
    (enough : answers.length = proxy.avatar.sent.length) :
    avatarConnection C proxy answers =
      { boundService := some "gpg"
        written := .success (.number (.posInt 1)) (jsonObject [("npub", .string "")]) :: answers.tail
        forwarded := proxy.avatar.sent.tail.map fun request => ("gpg", nostrRequest request) } := by
  have read := (reachable_sendsRead json started reachable).sent
  obtain ⟨more, isSent, _⟩ := reachable_sendsAsked started reachable
  rw [isSent] at lines noConnect enough read
  rw [avatarConnection, isSent]
  exact Connection.handleLines_connected rfl rfl (by decide) read lines noConnect enough

/-- The answer that an exchange was settled with is the one that Nostr had for
the exchange's own request. -/
theorem exchange_outcome (json : SameJson C codecs)
    (started : startUp codecs connectText certText = .ok (armor, start))
    (reachable : Reachable (Step codecs) start proxy)
    (connection : avatarConnection C proxy answers =
      { boundService := some "gpg"
        written := .success (.number (.posInt 1)) (jsonObject [("npub", .string "")]) :: answers.tail
        forwarded := proxy.avatar.sent.tail.map fun request => ("gpg", nostrRequest request) })
    (held : ∀ answer ∈ answers, answer.Held)
    (answerLines : ∀ answer ∈ answers, LineReads C answer.serialize)
    (rereads : ∀ answer ∈ answers,
      C.parseJson answer.reread.serialize.toJson = some answer.reread.serialize)
    (answered : proxy.avatar.answers <+: (avatarConnection C proxy answers).written.map answerLine)
    {exchange : Served} (member : exchange ∈ proxy.exchanges) {position : Nat} {text : String}
    {answer : JsonRpcResponse} (isAnswered : exchange.ending = .answered position text answer) :
    ∃ index own, answers[index + 1]? = some own ∧
      (avatarConnection C proxy answers).forwarded[index]? =
        some ("gpg", nostrRequest exchange.call) ∧
      ScdShim.readResponse codecs (answerLine answer) = outcome own := by
  have own := (reachable_exchanged started reachable).own exchange member
  rw [isAnswered] at own
  obtain ⟨later, ⟨_, isRequest, isText⟩, reads⟩ := own
  obtain ⟨index, rfl⟩ : ∃ index, position = index + 1 := ⟨position - 1, by omega⟩
  have written := List.prefix_iff_getElem?.mp answered (index + 1) (List.getElem?_eq_some_iff.mp isText).1
  rw [← List.getElem?_eq_getElem, isText, connection, List.getElem?_map] at written
  obtain ⟨own, isOwn, isLine⟩ := Option.map_eq_some_iff.mp written
  rw [List.getElem?_cons_succ, List.getElem?_tail] at isOwn
  have inside := List.mem_of_getElem? isOwn
  rw [← isLine, readResponseLine_answerLine json (held own inside) (answerLines own inside)] at reads
  refine ⟨index, own, isOwn, ?_, ?_⟩
  · rw [connection, List.getElem?_map, List.getElem?_tail, isRequest, Option.map_some]
  · cases reads
    rw [← reread_outcome]
    exact readResponse_answerLine json (held own inside).reread (rereads own inside)

namespace Sample

open Transparent

def connectedAnswer : JsonRpcResponse :=
  .success (.number (.posInt 1)) (.object [("npub", .string "")])

def certAnswer : JsonRpcResponse :=
  .success (.number (.posInt 2)) (.object [("public_cert_armor", .string "armor")])

def keysAnswer : JsonRpcResponse := .success (.number (.posInt 1)) (.array [])

def nostrAnswers : List JsonRpcResponse := [connectedAnswer, certAnswer, keysAnswer]

theorem held_nostrAnswers : ∀ response ∈ nostrAnswers, response.Held := by
  simp only [nostrAnswers, List.forall_mem_cons, List.not_mem_nil, false_implies, implies_true, and_true]
  refine ⟨JsonRpcResponse.held_success ?_, JsonRpcResponse.held_success ?_,
    JsonRpcResponse.held_success ?_⟩ <;>
    simp [Value.Held, Value.Every, Value.EveryMember, Value.EveryItem]

theorem lines_nostrAnswers : ∀ response ∈ nostrAnswers, LineReads treeCrates response.serialize := by
  have short : ∀ response ∈ nostrAnswers,
      (writeLineMessage response.serialize).utf8ByteSize ≤ maxLineSize := by
    decide +kernel
  exact fun response member => lineReads_of_tree (held_nostrAnswers _ member).tree (short response member)

theorem rereads_nostrAnswers : ∀ response ∈ nostrAnswers,
    treeCrates.parseJson response.reread.serialize.toJson = some response.reread.serialize :=
  fun response member => readTree_toJson (held_nostrAnswers response member).reread.tree

theorem reads_nostrAnswer {response : JsonRpcResponse} (member : response ∈ nostrAnswers) :
    readResponseLine treeCodecs (answerLine response) = some response.reread :=
  readResponseLine_answerLine sameJson (held_nostrAnswers _ member) (lines_nostrAnswers _ member)

def ready (connectText certText : String) : Proxy :=
  ⟨[], none, none, ⟨[connectRequest, certRequest], [connectText, certText], 2⟩, false, []⟩

theorem startUp_ready : startUp treeCodecs (answerLine connectedAnswer) (answerLine certAnswer) =
    .ok ("armor", ready (answerLine connectedAnswer) (answerLine certAnswer)) := by
  rw [startUp, reads_nostrAnswer (by simp [nostrAnswers]), reads_nostrAnswer (by simp [nostrAnswers])]
  rfl

theorem read_keysRequest : keysRequest.Read where
  params := trivial
  id id isId := by
    cases isId
    exact ⟨trivial, by simp⟩

/-- A shim's request, the avatar's answer to it and the shim's response. -/
theorem one_exchange {codecs : Codecs} (connectText certText : String) {text answerText : String}
    {request : JsonRpcRequest} {answer : JsonRpcResponse}
    (reads : readRequestLine codecs text = some request)
    (answers : readResponseLine codecs answerText = some answer) :
    ∃ final, Reachable (Step codecs) (ready connectText certText) final ∧
      final.avatar.sent = [connectRequest, certRequest, request] ∧
      final.avatar.answers = [connectText, certText, answerText] ∧
      final.shims = [⟨[request], [answer], .reading⟩] := by
  exact ⟨_, ⟨_,
    .cons (.accept _) <|
    .cons (@Step.readRequest _ _ 0 _ text request rfl rfl reads) <|
    .cons (@Step.lockWriter _ _ 0 _ _ rfl rfl rfl) <|
    .cons (@Step.lockReader _ _ 0 _ _ rfl rfl rfl) <|
    .cons (@Step.send _ _ 0 _ _ rfl rfl rfl) <|
    .cons (@Step.avatarAnswers _ _ _ answerText rfl rfl) <|
    .cons (@Step.receive _ _ 0 _ _ answerText answer rfl rfl rfl answers) <|
    .cons (@Step.unlockReader _ _ 0 _ _ rfl rfl) <|
    .cons (@Step.unlockWriter _ _ 0 _ _ rfl rfl) <|
    .cons (@Step.write _ _ 0 _ _ true rfl rfl) <|
    .nil _⟩, rfl, rfl, rfl⟩

theorem tree_request {request : JsonRpcRequest}
    (member : request ∈ [connectRequest, certRequest, keysRequest]) :
    request.serialize.Tree := by
  simp only [List.mem_cons, List.not_mem_nil, or_false] at member
  rcases member with rfl | rfl | rfl
  · exact read_connectRequest.tree
  · exact read_certRequest.tree
  · exact read_keysRequest.tree

theorem lines_keysRequest : ∀ request ∈ [connectRequest, certRequest, keysRequest],
    LineReads treeCrates request.serialize := by
  have short : ∀ request ∈ [connectRequest, certRequest, keysRequest],
      (writeLineMessage request.serialize).utf8ByteSize ≤ maxLineSize := by
    decide +kernel
  exact fun request member => lineReads_of_tree (tree_request member) (short request member)

end Sample

end KeyMaster.GpgSa

import KeyMaster.Avatar.AttachOutcome

namespace KeyMaster

open Data LoopState

/-! Which request events are answered, and under which id. -/

variable {C : Crates} {config : Config C}

def SentResponse.tags (sent : SentResponse C) : List (List String) :=
  [["p", C.publicKeyToHex sent.recipient], ["e", C.eventIdToHex sent.replyTo, "", "reply"]]

structure Turn.Requests (config : Config C) (turn : Turn C) (msg : JsonRpcMessage)
    (method : String) (id : Value) : Prop where
  protocol : turn.event.kind = protocolKind
  message : ((decryptEvent config turn.table turn.event).bind fun plaintext =>
    (C.parseJson plaintext).bind JsonRpcMessage.deserialize) = some msg
  method : msg.method = some method
  noResult : msg.result = none
  noError : msg.error = none
  hasId : msg.id = some id
  notNull : id ≠ .null

/-- One response was sent, to the event's author, in reply to the event and
under the given id. -/
def AnsweredOnce (before after : LoopState C) (event : Event C) (id : Value) : Prop :=
  ∃ sent, after.sent = before.sent ++ [sent] ∧ sent.recipient = event.pubkey ∧
    sent.replyTo = event.id ∧ ["e", C.eventIdToHex event.id, "", "reply"] ∈ sent.tags ∧
    sent.response.id = id

/-- The request reaches an answer that carries its id: it is no detach, and an
attach neither meets a key that is off the curve nor lists a service that
cannot be derived. -/
def Turn.Answerable (config : Config C) (turn : Turn C) (msg : JsonRpcMessage) (method : String) :
    Prop :=
  method ≠ "detach" ∧
    (method = "attach" →
      attachChecks C config (attachParams msg.params) ≠ .error .invalidKey ∧
        (attachChecks C config (attachParams msg.params) = .ok () →
          turn.table.realmXpubMatches turn.event.pubkey
              (attachRealmXpub C (attachParams msg.params)) ≠ some true →
          Derivable config turn.event (attachParams msg.params)))

/-! ### The responses of an action list -/

def Action.sentResponse : Action C → Option (SentResponse C)
  | .sendResponse sent => some sent
  | _ => none

theorem sent_evict (state : LoopState C) (kmPubkey : C.PublicKey) :
    (state.evict kmPubkey).sent = state.sent := by
  unfold evict
  split <;> rfl

theorem sent_perform (state : LoopState C) (action : Action C) :
    (state.perform action).sent = state.sent ++ action.sentResponse.toList := by
  cases action with
  | evictAndCreate _ kmPubkey =>
      simp only [Action.sentResponse, Option.toList_none, List.append_nil]
      exact sent_evict state kmPubkey
  | sendResponse => rfl
  | _ => exact (List.append_nil _).symm

theorem sent_run (state : LoopState C) (actions : List (Action C)) :
    (state.run actions).sent = state.sent ++ actions.filterMap Action.sentResponse := by
  induction actions generalizing state with
  | nil => simp
  | cons action rest ih =>
      rw [run_cons, ih, sent_perform, List.filterMap_cons]
      cases action.sentResponse <;> simp

theorem sent_handle (before : LoopState C) (turn : Turn C) :
    (before.handle config turn).sent =
      before.sent ++ (before.actions config turn).filterMap Action.sentResponse :=
  sent_run _ _

section Responses

variable {io : HandlerIo} {event : Event C} {response : JsonRpcResponse} {params : Value}
  {turn : Nat} {msg : JsonRpcMessage}

theorem filterMap_sendResponse (sends : io.sendOk = true) :
    (sendResponse io event response).filterMap Action.sentResponse =
      [⟨event.pubkey, event.id, response⟩] := by
  simp [sendResponse, sends, Action.sentResponse]

theorem filterMap_createUserSocket (sessionId : C.EventId) (identity : String) :
    (createUserSocket config io turn sessionId identity).filterMap Action.sentResponse = [] := by
  rw [List.filterMap_eq_nil_iff]
  intro action member
  obtain ⟨_, _, _, _, rfl | rfl | rfl | rfl | rfl⟩ := mem_createUserSocket member <;> rfl

theorem filterMap_establishSession (sends : io.sendOk = true) :
    (establishSession config io turn event msg params).filterMap Action.sentResponse =
      if (attachChannels config event params).2 then
        [⟨event.pubkey, event.id, acceptedResponse msg (attachServices params)⟩]
      else [] := by
  have channels : ((attachChannels config event params).1.map
      (Action.addServiceChannel event.id)).filterMap Action.sentResponse = [] := by
    rw [List.filterMap_eq_nil_iff]
    intro action member
    obtain ⟨channel, _, rfl⟩ := List.mem_map.mp member
    rfl
  rw [establishSession_eq]
  simp only [openAction, List.filterMap_cons, Action.sentResponse, List.filterMap_append, channels,
    List.nil_append]
  split
  · rw [List.filterMap_append, filterMap_createUserSocket, filterMap_sendResponse sends,
      List.nil_append]
  · rfl

end Responses

/-! ### Answers -/

variable {before : LoopState C} {turn : Turn C} {msg : JsonRpcMessage} {method : String}
  {id : Value}

theorem Turn.Requests.incoming (requests : turn.Requests config msg method id) :
    readEvent config turn.table turn.event =
      if method = "attach" then .attach msg
      else if method = "detach" then .detach
      else .unknownMethod msg := by
  obtain ⟨plaintext, decrypted, parsed⟩ := Option.bind_eq_some_iff.mp requests.message
  have noResponse : msg.isResponse = false := by
    simp [JsonRpcMessage.isResponse, requests.noResult, requests.noError]
  simp [readEvent, decrypted, parsed, noResponse, requests.method]

theorem answeredOnce_of_sent (response : JsonRpcResponse)
    (sent : (before.actions config turn).filterMap Action.sentResponse =
      [⟨turn.event.pubkey, turn.event.id, response⟩]) :
    AnsweredOnce before (before.handle config turn) turn.event id ↔ response.id = id := by
  rw [AnsweredOnce, sent_handle, sent]
  constructor
  · rintro ⟨other, same, _, _, _, isId⟩
    cases List.append_cancel_left same
    exact isId
  · intro isId
    exact ⟨_, rfl, rfl, rfl, by simp [SentResponse.tags], isId⟩

theorem not_answeredOnce_of_silent
    (silent : (before.actions config turn).filterMap Action.sentResponse = []) :
    ¬ AnsweredOnce before (before.handle config turn) turn.event id := by
  rintro ⟨sent, same, _⟩
  rw [sent_handle, silent] at same
  simp at same

theorem attach_answered_iff (requests : turn.Requests config msg "attach" id)
    (sends : turn.io.sendOk = true) :
    AnsweredOnce before (before.handle config turn) turn.event id ↔
      turn.Answerable config msg "attach" := by
  have incoming := requests.incoming
  rw [if_pos rfl] at incoming
  have actions := actions_of_kind config before requests.protocol
  simp only [incoming, handleAttach] at actions
  have accepted : (acceptedResponse msg (attachServices (attachParams msg.params))).id = id := by
    simp [acceptedResponse, JsonRpcResponse.success, requests.hasId]
  simp only [Turn.Answerable, ne_eq, String.reduceEq, not_false_eq_true, true_and,
    forall_const]
  cases checks : attachChecks C config (attachParams msg.params) with
  | error failure =>
      rw [checks] at actions
      cases failure with
      | rejected message =>
          rw [answeredOnce_of_sent (rejectedResponse msg message)
            (by rw [actions]; exact filterMap_sendResponse sends)]
          simp [rejectedResponse, JsonRpcResponse.failure, requests.hasId]
      | invalidKey =>
          have silent : ¬ AnsweredOnce before (before.handle config turn) turn.event id :=
            not_answeredOnce_of_silent (by rw [actions]; rfl)
          simp [silent]
  | ok =>
      rw [checks] at actions
      dsimp only at actions
      split at actions
      · rename_i same
        rw [answeredOnce_of_sent _ (by rw [actions]; exact filterMap_sendResponse sends)]
        simp [accepted, same]
      · rename_i changed
        have sent := congrArg (List.filterMap Action.sentResponse) actions
        rw [filterMap_establishSession sends] at sent
        have derivable : (attachChannels config turn.event (attachParams msg.params)).2 = true ↔
            Derivable config turn.event (attachParams msg.params) := deriveChannels_complete
        split at sent
        · rename_i complete
          rw [answeredOnce_of_sent _ sent]
          simp [accepted, derivable.mp complete]
        · rename_i incomplete
          have silent : ¬ AnsweredOnce before (before.handle config turn) turn.event id :=
            not_answeredOnce_of_silent sent
          simp [silent, changed, mt derivable.mpr incomplete]

/-- A detach is answered with a null id, whatever its own. -/
theorem detach_not_answered (requests : turn.Requests config msg "detach" id)
    (sends : turn.io.sendOk = true) :
    ¬ AnsweredOnce before (before.handle config turn) turn.event id := by
  have actions := actions_of_kind config before requests.protocol
  rw [requests.incoming] at actions
  have removals : ((turn.table.findSessionByKmPubkey turn.event.pubkey).map
      Action.removeSession).toList.filterMap Action.sentResponse = [] := by
    cases turn.table.findSessionByKmPubkey turn.event.pubkey <;> rfl
  rw [answeredOnce_of_sent _ (by
    rw [actions]
    simp only [String.reduceEq, if_false, if_true, handleDetach, List.filterMap_append, removals]
    exact filterMap_sendResponse sends)]
  exact fun null => requests.notNull null.symm

theorem unknownMethod_answered (requests : turn.Requests config msg method id)
    (sends : turn.io.sendOk = true) (notAttach : method ≠ "attach") (notDetach : method ≠ "detach") :
    AnsweredOnce before (before.handle config turn) turn.event id := by
  have actions := actions_of_kind config before requests.protocol
  rw [requests.incoming, if_neg notAttach, if_neg notDetach] at actions
  rw [answeredOnce_of_sent _ (by rw [actions]; exact filterMap_sendResponse sends)]
  simp [JsonRpcResponse.failure, requests.hasId]

/-- A request is answered once and under its own id exactly when it is
answerable. -/
theorem request_answered_iff (requests : turn.Requests config msg method id)
    (sends : turn.io.sendOk = true) :
    AnsweredOnce before (before.handle config turn) turn.event id ↔
      turn.Answerable config msg method := by
  by_cases attach : method = "attach"
  · subst attach
    exact attach_answered_iff requests sends
  · by_cases detach : method = "detach"
    · subst detach
      simp [detach_not_answered requests sends, Turn.Answerable]
    · simp [unknownMethod_answered requests sends attach detach, Turn.Answerable, attach, detach]

/-! ### A detach with an id -/

namespace Transparent

def numberedTexts : List (String × Value) :=
  [("detach", .object [("jsonrpc", .string "2.0"), ("method", .string "detach"), ("id", number 7)]),
   ("status", .object [("jsonrpc", .string "2.0"), ("method", .string "status"), ("id", number 7)])]

def numberedTurn (text : String) : Turn (crates numberedTexts) := new.next (event 11 2 text, io)

def numberedMessage (method : String) : JsonRpcMessage where
  jsonrpc := "2.0"
  method := some method
  params := .null
  result := none
  error := none
  id := some (number 7)

theorem detach_requests : (numberedTurn "detach").Requests (avatar numberedTexts)
    (numberedMessage "detach") "detach" (number 7) :=
  ⟨rfl, by rw [numberedTurn, next, decryptEvent_event]; rfl, rfl, rfl, rfl, rfl, nofun⟩

theorem status_requests : (numberedTurn "status").Requests (avatar numberedTexts)
    (numberedMessage "status") "status" (number 7) :=
  ⟨rfl, by rw [numberedTurn, next, decryptEvent_event]; rfl, rfl, rfl, rfl, rfl, nofun⟩

end Transparent

open Transparent in
theorem numbered_requests_answered :
    AnsweredOnce new (new.handle (avatar numberedTexts) (numberedTurn "status"))
        (numberedTurn "status").event (number 7) ↔
      (numberedTurn "status").Answerable (avatar numberedTexts) (numberedMessage "status") "status" :=
  request_answered_iff status_requests rfl

open Transparent in
theorem numbered_detach_answered_null :
    Reachable (Step (avatar numberedTexts)) new new ∧
      (numberedTurn "detach").Requests (avatar numberedTexts) (numberedMessage "detach") "detach"
        (number 7) ∧
      (numberedTurn "detach").io.sendOk = true ∧
      (new.handle (avatar numberedTexts) (numberedTurn "detach")).sent.map
        (fun sent => sent.response.id) = [Value.null] ∧
      ¬ AnsweredOnce new (new.handle (avatar numberedTexts) (numberedTurn "detach"))
        (numberedTurn "detach").event (number 7) :=
  ⟨replayed_reachable [], detach_requests, rfl, rfl,
    detach_not_answered detach_requests rfl⟩

end KeyMaster

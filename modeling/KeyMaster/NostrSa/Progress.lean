import KeyMaster.Data.Parties
import KeyMaster.Data.Simulation
import KeyMaster.NostrSa.Correlation

namespace KeyMaster.NostrSa

open Data

/-! The bridge of `km-nostr-sa` works its queue off over the connections that it
makes, if the avatar can be reached. -/

variable {codecs : Codecs} {before after bridge : Bridge} {label : Label} {number : Nat}
  {client next : Client} {reply : ReplyChannel} {avatar : JsonRpcRequest → String}

/-! ### Where the requests are -/

/-- The request of a reply channel is in the queue or in an exchange, or has
had its exchange. -/
def Held (bridge : Bridge) (reply : ReplyChannel) : Prop :=
  (∃ request ∈ bridge.queue, request.reply = reply) ∨
    (∃ request, bridge.phase.request? = some request ∧ request.reply = reply) ∨
    ∃ response, bridge.replies.lookup reply = some response

/-- Nothing is lost: who waits has a request in the bridge, and answers are read
as they come. -/
structure Tracked (bridge : Bridge) : Prop where
  waits : ∀ (number : Nat) (client : Client) (reply : ReplyChannel),
    bridge.clients[number]? = some client → client.handler = .waiting reply → Held bridge reply
  read : bridge.stream.read ≤ bridge.stream.answers.length
  answered : bridge.stream.answers.length ≤ bridge.stream.lines.length
  connecting : bridge.phase = .connecting → bridge.stream.lines = [connectRequest]

theorem Tracked.setClient (tracked : Tracked bridge) (found : bridge.clients[number]? = some client)
    (idle : ∀ reply, next.handler ≠ .waiting reply) : Tracked (bridge.setClient number next) where
  waits other held reply isHeld waiting := by
    rw [setClient_clients found] at isHeld
    split at isHeld
    · cases isHeld
      exact absurd waiting (idle reply)
    · exact tracked.waits other held reply isHeld waiting
  read := tracked.read
  answered := tracked.answered
  connecting := tracked.connecting

theorem Tracked.advance (tracked : Tracked before) (clients : after.clients = before.clients)
    (held : ∀ reply, Held before reply → Held after reply)
    (read : after.stream.read ≤ after.stream.answers.length)
    (answered : after.stream.answers.length ≤ after.stream.lines.length)
    (connecting : after.phase = .connecting → after.stream.lines = [connectRequest]) :
    Tracked after where
  waits number client reply found waiting :=
    held reply (tracked.waits number client reply (clients ▸ found) waiting)
  read := read
  answered := answered
  connecting := connecting

theorem write_not_waiting (client : Client) (frame : Value) (written : Bool) (reply : ReplyChannel) :
    (client.write frame written).handler ≠ .waiting reply := by
  cases written with
  | false => exact Handler.noConfusion
  | true => exact Handler.noConfusion

theorem held_of_same (queue : after.queue = before.queue)
    (phase : before.phase.request? = none) (replies : after.replies = before.replies)
    (reply : ReplyChannel) (held : Held before reply) : Held after reply := by
  rcases held with ⟨request, member, own⟩ | ⟨request, current, own⟩ | ⟨response, sent⟩
  · exact .inl ⟨request, queue ▸ member, own⟩
  · rw [phase] at current
    cases current
  · exact .inr (.inr ⟨response, replies ▸ sent⟩)

/-- The reply of an exchange is there once it is settled. -/
theorem held_settle {middle : Bridge} {exchange : Exchange} {phase : Phase}
    (queue : ∀ request ∈ before.queue, request = exchange.request ∨ request ∈ middle.queue)
    (current : ∀ request, before.phase.request? = some request → request = exchange.request)
    (replies : middle.replies = before.replies) (reply : ReplyChannel) (held : Held before reply) :
    Held (middle.settle codecs exchange phase) reply := by
  by_cases own : exchange.request.reply = reply
  · refine .inr (.inr ⟨exchange.response codecs, ?_⟩)
    rw [Bridge.settle, HashMap.lookup_insert_eq, if_pos own.symm]
  · rcases held with ⟨request, member, same⟩ | ⟨request, isCurrent, same⟩ | ⟨response, sent⟩
    · rcases queue request member with rfl | later
      · exact absurd same own
      · exact .inl ⟨request, later, same⟩
    · rw [current request isCurrent] at same
      exact absurd same own
    · refine .inr (.inr ⟨response, ?_⟩)
      rw [Bridge.settle, HashMap.lookup_insert_eq, if_neg (Ne.symm own), replies]
      exact sent

theorem Step.tracked (step : Step codecs before label after) (tracked : Tracked before) :
    Tracked after := by
  cases step with
  | accept =>
      refine { tracked with waits := ?_ }
      intro number client reply found waiting
      rcases accept_clients found with old | rfl
      · exact tracked.waits number client reply old waiting
      · cases waiting
  | readMessage found reading isRequest => exact tracked.setClient found fun _ => Handler.noConfusion
  | refuse found => exact tracked.setClient found (write_not_waiting _ _ _)
  | disconnect found => exact tracked.setClient found fun _ => Handler.noConfusion
  | @enqueue number client request found sending =>
      refine { tracked with waits := ?_ }
      intro other held reply isHeld waiting
      have isOther := (setClient_clients found other).symm.trans isHeld
      split at isOther
      · cases isOther
        cases waiting
        exact .inl ⟨request, List.mem_append_right _ List.mem_cons_self, rfl⟩
      · rcases tracked.waits other held reply isOther waiting with ⟨queued, member, own⟩ | elsewhere
        · exact .inl ⟨queued, List.mem_append_left _ member, own⟩
        · exact .inr elsewhere
  | writeReply found => exact tracked.setClient found (write_not_waiting _ _ _)
  | @openConnection written disconnected =>
      refine tracked.advance rfl (held_of_same rfl ?_ rfl) (Nat.le_refl _) (Nat.zero_le _) ?_
      · rw [disconnected]
        rfl
      · cases written with
        | true => exact fun _ => rfl
        | false => exact Phase.noConfusion
  | @connected text answer connecting arrived =>
      refine tracked.advance rfl (held_of_same rfl ?_ rfl) ?_ tracked.answered Phase.noConfusion
      · rw [connecting]
        rfl
      · exact (List.getElem?_eq_some_iff.mp arrived).1
  | connectFailed connecting =>
      refine tracked.advance rfl (held_of_same rfl ?_ rfl) tracked.read tracked.answered
        Phase.noConfusion
      rw [connecting]
      rfl
  | @takeRequest request rest idle isNext =>
      refine tracked.advance rfl ?_ tracked.read ?_ Phase.noConfusion
      · rintro reply (⟨queued, member, own⟩ | ⟨queued, current, _⟩ | sent)
        · rw [isNext, List.mem_cons] at member
          rcases member with rfl | later
          · exact .inr (.inl ⟨queued, rfl, own⟩)
          · exact .inl ⟨queued, later, own⟩
        · rw [idle] at current
          cases current
        · exact .inr (.inr sent)
      · rw [List.length_append]
        exact Nat.le_add_right_of_le tracked.answered
  | @takeAndFail request rest message idle isNext =>
      refine tracked.advance rfl (held_settle ?_ ?_ rfl) tracked.read tracked.answered
        Phase.noConfusion
      · intro queued member
        rw [isNext, List.mem_cons] at member
        exact member
      · intro queued current
        rw [idle] at current
        cases current
  | avatarAnswers unanswered =>
      refine tracked.advance rfl (fun _ held => held) ?_ ?_ tracked.connecting
      · rw [List.length_append]
        exact Nat.le_add_right_of_le tracked.read
      · rw [List.length_append]
        exact unanswered
  | @readAnswer request id text answer exchanging arrived =>
      refine tracked.advance rfl (held_settle (fun _ => .inr) ?_ rfl) ?_ tracked.answered
        Phase.noConfusion
      · intro queued current
        rw [exchanging] at current
        exact (Option.some.inj current).symm
      · exact (List.getElem?_eq_some_iff.mp arrived).1
  | readFailed exchanging =>
      refine tracked.advance rfl (held_settle (fun _ => .inr) ?_ rfl) tracked.read tracked.answered
        Phase.noConfusion
      intro queued current
      rw [exchanging] at current
      exact (Option.some.inj current).symm

theorem tracked_start : Tracked .start where
  waits _ _ _ found := by cases found
  read := Nat.le_refl _
  answered := Nat.le_refl _
  connecting := Phase.noConfusion

/-! ### What is left to do -/

/-- An avatar whose answers can be read, and that accepts the connection. -/
structure Answering (codecs : Codecs) (avatar : JsonRpcRequest → String) : Prop where
  readable : ∀ request, ∃ answer, readsAs codecs (avatar request) answer
  accepts : ∀ answer, readsAs codecs (avatar connectRequest) answer → answer.error = none

/-- A text that lets the loop in. -/
def Admits (codecs : Codecs) (text : String) : Prop :=
  ∃ answer, readsAs codecs text answer ∧ answer.error = none

def AvatarStream.arrived? (stream : AvatarStream) : Option String := stream.answers[stream.read]?

/-- The steps of a bridge whose clients wait, with an avatar that answers as it
is told and can be reached.  A connection is lost only to an answer that has
come and cannot be used. -/
def Serves (codecs : Codecs) (avatar : JsonRpcRequest → String) (bridge : Bridge) : Label → Prop
  | .accept | .readMessage _ _ | .refuse _ _ _ | .disconnect _ | .takeAndFail _ => False
  | .avatarAnswers text => ∃ request,
      bridge.stream.lines[bridge.stream.answers.length]? = some request ∧ text = avatar request
  | .writeReply _ written | .openConnection written => written = true
  | .connectFailed => ∃ text, bridge.stream.arrived? = some text ∧ ¬ Admits codecs text
  | .readFailed _ => ∃ text, bridge.stream.arrived? = some text ∧ ∀ answer, ¬ readsAs codecs text answer
  | .enqueue _ | .connected _ _ | .takeRequest | .readAnswer _ _ => True

def ServedStep (codecs : Codecs) (avatar : JsonRpcRequest → String) (before : Bridge) (label : Label)
    (after : Bridge) : Prop :=
  Step codecs before label after ∧ Serves codecs avatar before label

def Handler.left : Handler → Nat
  | .sending _ => 8
  | .waiting _ => 1
  | .reading | .closed => 0

instance (codecs : Codecs) (text : String) : Decidable (Admits codecs text) :=
  match isRead : readLineMessage (fun json => (codecs.parseJson json).toOption)
      JsonRpcResponse.deserialize text with
  | none => .isFalse (by
      rintro ⟨answer, reads, _⟩
      rw [readsAs, isRead] at reads
      cases reads)
  | some found => decidable_of_iff (found.error.isNone = true) (by
      simp [Admits, readsAs, isRead])

/-- The steps that the loop has before it. A request may cost the connection,
and a connection an attempt. -/
def Phase.left (codecs : Codecs) (arrived : Option String) : Phase → Nat
  | .disconnected => 3
  | .connecting =>
      match arrived with
      | none => 2
      | some text => if Admits codecs text then 1 else 4
  | .idle => 0
  | .exchanging _ _ => if arrived.isNone then 5 else 4

def Bridge.loopLeft (codecs : Codecs) (bridge : Bridge) : Nat :=
  bridge.phase.left codecs bridge.stream.arrived? + 6 * bridge.queue.length

def Bridge.left (codecs : Codecs) (bridge : Bridge) : Nat :=
  (bridge.clients.map fun client => client.handler.left).sum + bridge.loopLeft codecs

theorem Handler.left_le (handler : Handler) : handler.left ≤ 8 := by
  cases handler <;> rw [Handler.left] <;> omega

theorem Bridge.left_le (bridge : Bridge) :
    bridge.left codecs ≤ 8 * bridge.clients.length + 6 * bridge.queue.length + 5 := by
  have each := sum_map_le (fun client : Client => client.handler.left_le) bridge.clients
  have phase : bridge.phase.left codecs bridge.stream.arrived? ≤ 5 := by
    unfold Phase.left
    repeat' split
    all_goals omega
  rw [Bridge.left, Bridge.loopLeft]
  omega

/-- A step of the bridge or of the avatar after which less is left. -/
def Lessens (codecs : Codecs) (avatar : JsonRpcRequest → String) (bridge : Bridge) : Prop :=
  ∃ label after, ServedStep codecs avatar bridge label after ∧ after.left codecs < bridge.left codecs

theorem lessens_of_loop (label : Label) (step : ServedStep codecs avatar bridge label after)
    (same : after.clients = bridge.clients) (less : after.loopLeft codecs < bridge.loopLeft codecs) :
    Lessens codecs avatar bridge := by
  refine ⟨label, after, step, ?_⟩
  rw [Bridge.left, Bridge.left, same]
  omega

/-- The avatar answers the line that the loop waits for. -/
theorem answer_next (tracked : Tracked bridge) (none : bridge.stream.arrived? = none)
    {request : JsonRpcRequest} (asked : bridge.stream.lines[bridge.stream.read]? = some request) :
    ServedStep codecs avatar bridge (.avatarAnswers (avatar request))
        { bridge with
          stream := { bridge.stream with answers := bridge.stream.answers ++ [avatar request] } } ∧
      (AvatarStream.arrived?
        { bridge.stream with answers := bridge.stream.answers ++ [avatar request] }) =
          some (avatar request) := by
  have last : bridge.stream.answers.length = bridge.stream.read := by
    have beyond := List.getElem?_eq_none_iff.mp none
    have within := tracked.read
    omega
  rw [← last] at asked
  refine ⟨⟨.avatarAnswers (List.getElem?_eq_some_iff.mp asked).1, request, asked, rfl⟩, ?_⟩
  rw [AvatarStream.arrived?, ← last]
  exact List.getElem?_concat_length

theorem lessens_connecting (answering : Answering codecs avatar) (tracked : Tracked bridge)
    (connecting : bridge.phase = .connecting) (first : bridge.stream.read = 0) :
    Lessens codecs avatar bridge := by
  cases arrived : bridge.stream.arrived? with
  | none =>
      have asked : bridge.stream.lines[bridge.stream.read]? = some connectRequest := by
        rw [tracked.connecting connecting, first]
        rfl
      obtain ⟨step, isArrived⟩ := answer_next tracked arrived asked
      refine lessens_of_loop _ step rfl ?_
      obtain ⟨answer, reads⟩ := answering.readable connectRequest
      have admitted : Admits codecs (avatar connectRequest) :=
        ⟨answer, reads, answering.accepts answer reads⟩
      simp only [Bridge.loopLeft, connecting, Phase.left, arrived, isArrived, admitted, if_true]
      omega
  | some text =>
      by_cases admitted : Admits codecs text
      · obtain ⟨answer, reads, accepted⟩ := admitted
        refine lessens_of_loop (.connected text answer)
          ⟨.connected connecting arrived reads accepted, trivial⟩ rfl ?_
        have isAdmitted : Admits codecs text := ⟨answer, reads, accepted⟩
        simp only [Bridge.loopLeft, connecting, Phase.left, arrived, isAdmitted, if_true]
        omega
      · refine lessens_of_loop .connectFailed
          ⟨.connectFailed connecting, text, arrived, admitted⟩ rfl ?_
        simp only [Bridge.loopLeft, connecting, Phase.left, arrived, admitted, if_false]
        omega

theorem lessens_exchanging (tracked : Tracked bridge) {request : ClientRequest} {id : UInt64}
    (exchanging : bridge.phase = .exchanging request id)
    (asked : bridge.stream.lines[bridge.stream.read]? = some (avatarRequest codecs request id)) :
    Lessens codecs avatar bridge := by
  cases arrived : bridge.stream.arrived? with
  | none =>
      obtain ⟨step, isArrived⟩ := answer_next tracked arrived asked
      refine lessens_of_loop _ step rfl ?_
      simp only [Bridge.loopLeft, exchanging, Phase.left, arrived, isArrived, Option.isNone_none,
        Option.isNone_some, if_true, Bool.false_eq_true, if_false]
      omega
  | some text =>
      cases reads : readLineMessage (fun json => (codecs.parseJson json).toOption)
          JsonRpcResponse.deserialize text with
      | some answer =>
          refine lessens_of_loop (.readAnswer text answer)
            ⟨.readAnswer exchanging arrived reads, trivial⟩ rfl ?_
          simp only [Bridge.loopLeft, Bridge.settle, exchanging, Phase.left, arrived,
            Option.isNone_some, Bool.false_eq_true, if_false]
          omega
      | none =>
          have unreadable : ∀ answer, ¬ readsAs codecs text answer := by
            intro answer isRead
            rw [readsAs, reads] at isRead
            cases isRead
          refine lessens_of_loop (.readFailed "")
            ⟨.readFailed exchanging, text, arrived, unreadable⟩ rfl ?_
          simp only [Bridge.loopLeft, Bridge.settle, exchanging, Phase.left, arrived,
            Option.isNone_some, Bool.false_eq_true, if_false]
          omega

theorem lessens_take (tracked : Tracked bridge) {request : ClientRequest} {rest : List ClientRequest}
    (idle : bridge.phase = .idle) (position : bridge.stream.read = bridge.stream.lines.length)
    (isNext : bridge.queue = request :: rest) : Lessens codecs avatar bridge := by
  refine lessens_of_loop .takeRequest ⟨.takeRequest idle isNext, trivial⟩ rfl ?_
  have none : bridge.stream.arrived? = none := by
    rw [AvatarStream.arrived?, List.getElem?_eq_none_iff, position]
    exact tracked.answered
  have unanswered : AvatarStream.arrived? { bridge.stream with
      lines := bridge.stream.lines ++ [avatarRequest codecs request bridge.nextId] } = .none := none
  simp only [Bridge.loopLeft, idle, isNext, Phase.left, unanswered, Option.isNone_none, if_true,
    List.length_cons]
  omega

/-! ### Steps of the clients -/

theorem lessens_of_client (label : Label) (found : bridge.clients[number]? = some client)
    (step : ServedStep codecs avatar bridge label after)
    (isNext : after.clients = bridge.clients.set number next)
    (less : next.handler.left + after.loopLeft codecs < client.handler.left + bridge.loopLeft codecs) :
    Lessens codecs avatar bridge := by
  refine ⟨label, after, step, ?_⟩
  have sum := sum_map_set (fun client : Client => client.handler.left) next found
  rw [Bridge.left, Bridge.left, isNext]
  omega

/-- With nothing in the queue, every client that is not at rest can go on. -/
theorem lessens_client (tracked : Tracked bridge) (idle : bridge.phase = .idle) (empty : bridge.queue = [])
    (found : bridge.clients[number]? = some client) (busy : client.handler.left ≠ 0) :
    Lessens codecs avatar bridge := by
  cases handler : client.handler with
  | reading | closed =>
      rw [handler] at busy
      exact absurd rfl busy
  | sending request =>
      refine lessens_of_client (.enqueue number) found
        ⟨.enqueue found handler (by rw [empty]; decide), trivial⟩ rfl ?_
      simp only [Bridge.loopLeft, Bridge.setClient, handler, Handler.left, empty, List.length_append,
        List.length_nil, List.length_singleton]
      omega
  | waiting reply =>
      rcases tracked.waits number client reply found handler with
        ⟨request, member, _⟩ | ⟨request, current, _⟩ | ⟨response, sent⟩
      · rw [empty] at member
        cases member
      · rw [idle] at current
        cases current
      · refine lessens_of_client (.writeReply number true) found
          ⟨.writeReply found handler sent, rfl⟩ rfl ?_
        rw [handler]
        exact Nat.add_lt_add_right (by decide : 0 < 1) _

theorem lessens (answering : Answering codecs avatar) (coherent : Coherent codecs bridge)
    (tracked : Tracked bridge) (busy : bridge.left codecs ≠ 0) : Lessens codecs avatar bridge := by
  have position := coherent.stream
  cases phase : bridge.phase with
  | disconnected =>
      refine lessens_of_loop (.openConnection true) ⟨.openConnection phase, rfl⟩ rfl ?_
      simp only [Bridge.loopLeft, phase, Phase.left, if_true]
      exact Nat.add_lt_add_right (by decide : 2 < 3) _
  | connecting =>
      rw [StreamPosition, phase] at position
      exact lessens_connecting answering tracked phase position.1
  | exchanging request id =>
      rw [StreamPosition, phase] at position
      exact lessens_exchanging tracked phase position.1
  | idle =>
      rw [StreamPosition, phase] at position
      cases queue : bridge.queue with
      | cons request rest => exact lessens_take tracked phase position queue
      | nil =>
          have some_busy : (bridge.clients.map fun client => client.handler.left).sum ≠ 0 := by
            intro rest
            rw [Bridge.left, rest, Bridge.loopLeft, phase, queue] at busy
            exact busy rfl
          obtain ⟨number, client, found, heavy⟩ := exists_weight_of_sum_ne_zero some_busy
          exact lessens_client tracked phase queue found heavy

/-! ### Coming to rest -/

def Handler.isClosed : Handler → Bool
  | .closed => true
  | _ => false

/-- An open connection stays open, and has sent no more. -/
def Client.Stays (client later : Client) : Prop :=
  client.handler.isClosed = false →
    later.messages = client.messages ∧ later.handler.isClosed = false

theorem ServedStep.stays {first : List Client} (step : ServedStep codecs avatar before label after)
    (stay : Follows Client.Stays first before.clients) : Follows Client.Stays first after.clients := by
  obtain ⟨step, serves⟩ := step
  have goesOn : ∀ {client next : Client}, next.messages = client.messages →
      next.handler.isClosed = false →
      ∀ earlier, Client.Stays earlier client → Client.Stays earlier next := by
    intro client next messages isOpen earlier stays wasOpen
    exact ⟨messages.trans (stays wasOpen).1, isOpen⟩
  cases step with
  | accept | readMessage | refuse | disconnect | takeAndFail => exact serves.elim
  | enqueue found => exact stay.set found _ (goesOn rfl rfl)
  | writeReply found =>
      cases serves
      exact stay.set found _ (goesOn rfl rfl)
  | openConnection | connected | connectFailed | takeRequest | avatarAnswers | readAnswer
  | readFailed => exact stay

theorem Handler.idle {handler : Handler} (rest : handler.left = 0) :
    handler = .reading ∨ handler = .closed := by
  cases handler with
  | reading => exact .inl rfl
  | closed => exact .inr rfl
  | sending | waiting => cases rest

/-- From every reachable state the bridge, if no client gives up and the avatar
can be reached, comes to rest in a bounded number of steps: the queue is empty,
and every client that is there has a frame for each of its messages. -/
theorem reachable_quiesces (answering : Answering codecs avatar)
    (reachable : Reachable (Step codecs) .start bridge) :
    ∃ trace final, Run (ServedStep codecs avatar) bridge trace final ∧
      trace.length ≤ 8 * bridge.clients.length + 6 * bridge.queue.length + 5 ∧ final.queue = [] ∧
      ∀ (number : Nat) (client : Client), bridge.clients[number]? = some client →
        client.handler.isClosed = false →
        ∃ later : Client, final.clients[number]? = some later ∧ later.messages = client.messages ∧
          later.frames.length = client.messages.length := by
  have kept : ∀ state, Coherent codecs state ∧ Tracked state ∧
      Follows Client.Stays bridge.clients state.clients → state.left codecs ≠ 0 →
      ∃ label after, True ∧ ServedStep codecs avatar state label after ∧
        (Coherent codecs after ∧ Tracked after ∧
          Follows Client.Stays bridge.clients after.clients) ∧
        after.left codecs < state.left codecs := by
    rintro state ⟨coherent, tracked, stay⟩ busy
    obtain ⟨label, after, step, less⟩ : Lessens codecs avatar state :=
      lessens answering coherent tracked busy
    exact ⟨label, after, trivial, step,
      ⟨step.1.coherent coherent, step.1.tracked tracked, step.stays stay⟩, less⟩
  have coherent := reachable.invariant (Coherent codecs) (fun _ _ _ step => step.coherent)
    coherent_start
  have tracked := reachable.invariant Tracked (fun _ _ _ step => step.tracked) tracked_start
  obtain ⟨trace, final, run, _, ⟨last, _, stay⟩, rest, short⟩ :=
    exists_run_to_rest _ (fun _ _ => True) (Bridge.left codecs) kept
      ⟨coherent, tracked, .refl (fun _ isOpen => ⟨rfl, isOpen⟩) _⟩
  rw [Bridge.left, Bridge.loopLeft] at rest
  refine ⟨trace, final, run, short.trans bridge.left_le, List.length_eq_zero_iff.mp (by omega), ?_⟩
  intro number client found isOpen
  obtain ⟨later, isLater, stays⟩ := stay number client found
  obtain ⟨messages, isOpen⟩ := stays isOpen
  refine ⟨later, isLater, messages, ?_⟩
  have none_left : (final.clients.map fun client => client.handler.left).sum = 0 := by omega
  have agrees := last.clients number later isLater
  rcases Handler.idle (List.sum_eq_zero_iff.mp none_left _
    (List.mem_map_of_mem (List.mem_of_getElem? isLater))) with handler | handler
  · rw [Client.Coherent, handler] at agrees
    rw [agrees, messages]
  · rw [handler] at isOpen
    cases isOpen

namespace Sample

def connectingAvatar (_ : JsonRpcRequest) : String := connectAnswer.toJson ++ "\n"

theorem connecting_answering : Answering bridgeCodecs connectingAvatar where
  readable _ := ⟨_, readsAs_connectAnswer⟩
  accepts answer reads := by
    have same := Option.some.inj (readsAs_connectAnswer.symm.trans reads)
    rw [← same]
    rfl

/-- A client waits while the avatar is away. -/
theorem one_waits : ∃ bridge, Reachable (Step bridgeCodecs) .start bridge ∧
    bridge.queue = [keysRequest] := by
  have isRequest : requestOf ⟨0, 0⟩ keysMessage = some keysRequest := rfl
  exact ⟨_, ⟨_,
    .cons (.accept _) <|
    .cons (@Step.readMessage _ _ 0 _ _ _ rfl rfl isRequest) <|
    .cons (@Step.enqueue _ _ 0 _ _ rfl rfl (by decide)) <|
    .nil _⟩, rfl⟩

end Sample

open Sample in
theorem one_waits_quiesces : ∃ bridge, Reachable (Step bridgeCodecs) .start bridge ∧
    bridge.queue = [keysRequest] ∧
    ∃ trace final, Run (ServedStep bridgeCodecs connectingAvatar) bridge trace final ∧
      trace.length ≤ 8 * bridge.clients.length + 6 * bridge.queue.length + 5 ∧ final.queue = [] ∧
      ∀ (number : Nat) (client : Client), bridge.clients[number]? = some client →
        client.handler.isClosed = false →
        ∃ later : Client, final.clients[number]? = some later ∧ later.messages = client.messages ∧
          later.frames.length = client.messages.length := by
  obtain ⟨bridge, reachable, queue⟩ := one_waits
  exact ⟨bridge, reachable, queue, reachable_quiesces connecting_answering reachable⟩

end KeyMaster.NostrSa

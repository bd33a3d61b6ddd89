import KeyMaster.SshSa.Correlation

namespace KeyMaster.SshSa

open Data

/-! The bridge works its queue off, however many clients there are, if the avatar
can be reached. -/

variable {codecs : Codecs} {npub : String} {before after bridge : Bridge} {label : Label}
  {number : Nat} {client next : Client} {avatar : JsonRpcRequest → String}

/-- An avatar that accepts the connection, and whose answers can be read. -/
structure Answering (codecs : Codecs) (npub : String) (avatar : JsonRpcRequest → String) : Prop where
  readable : ∀ request, ∃ resp, readResponseLine codecs (avatar request) = some resp
  accepts : ∀ resp, readResponseLine codecs (avatar (connectRequest npub)) = some resp →
    resp.error = none

/-- A text that lets the loop in. -/
def accepts (codecs : Codecs) (text : String) : Bool :=
  (readResponseLine codecs text).any fun resp => resp.error.isNone

/-- The steps of a bridge whose clients wait, with an avatar that answers as it
is told and can be reached.  A connection is lost only to an answer that has
come and cannot be used. -/
def Serves (codecs : Codecs) (avatar : JsonRpcRequest → String) (bridge : Bridge) : Label → Prop
  | .accept | .readPayload _ _ | .disconnect _ | .timeout _ | .takeAndFail _ => False
  | .avatarAnswers request text => text = avatar request
  | .writeAnswer _ written | .openConnection written => written = true
  | .connectFailed => ∃ text, bridge.stream.arrived? = some text ∧ accepts codecs text = false
  | .readFailed _ => ∃ text, bridge.stream.arrived? = some text ∧ readResponseLine codecs text = none
  | .enqueue _ | .receive _ | .connected _ | .takeRequest | .readAnswer _ _ => True

def Handler.isClosed : Handler → Bool
  | .closed => true
  | _ => false

/-- An open connection stays open, and has sent no more. -/
def Client.Stays (client later : Client) : Prop :=
  client.handler.isClosed = false →
    later.payloads = client.payloads ∧ later.handler.isClosed = false

/-! ### What is left to do -/

def Handler.left : Handler → Nat
  | .sending _ _ => 9
  | .waiting => 2
  | .answering _ => 1
  | .reading | .closed => 0

theorem exists_of_accepts {text : String} (accepted : accepts codecs text = true) :
    ∃ resp, readResponseLine codecs text = some resp ∧ resp.error = none := by
  unfold accepts at accepted
  cases reads : readResponseLine codecs text with
  | none =>
      rw [reads] at accepted
      cases accepted
  | some resp =>
      rw [reads] at accepted
      exact ⟨resp, rfl, Option.isNone_iff_eq_none.mp accepted⟩

/-- The steps that the loop has before it. A request may cost the connection,
and a connection an attempt. -/
def Phase.left (codecs : Codecs) (arrived : Option String) : Phase → Nat
  | .disconnected => 3
  | .connecting =>
      match arrived with
      | none => 2
      | some text => if accepts codecs text then 1 else 4
  | .idle => 0
  | .exchanging _ _ => if arrived.isNone then 5 else 4

def Bridge.loopLeft (codecs : Codecs) (bridge : Bridge) : Nat :=
  bridge.phase.left codecs bridge.stream.arrived? + 6 * bridge.queue.length

def Bridge.left (codecs : Codecs) (bridge : Bridge) : Nat :=
  (bridge.clients.map fun client => client.handler.left).sum + bridge.loopLeft codecs

theorem Handler.left_le (handler : Handler) : handler.left ≤ 9 := by
  cases handler <;> rw [Handler.left] <;> omega

theorem Bridge.left_le (bridge : Bridge) :
    bridge.left codecs ≤ 9 * bridge.clients.length + 6 * bridge.queue.length + 5 := by
  have each := sum_map_le (fun client : Client => client.handler.left_le) bridge.clients
  have phase : bridge.phase.left codecs bridge.stream.arrived? ≤ 5 := by
    unfold Phase.left
    repeat' split
    all_goals omega
  rw [Bridge.left, Bridge.loopLeft]
  omega

/-- A step of the bridge or of the avatar after which less is left. -/
def Lessens (codecs : Codecs) (npub : String) (avatar : JsonRpcRequest → String) (bridge : Bridge) :
    Prop :=
  ∃ label after, Serves codecs avatar bridge label ∧ Step codecs npub bridge label after ∧
    after.left codecs < bridge.left codecs

/-! ### Steps of the loop -/

theorem lessens_of_loop (label : Label) (serves : Serves codecs avatar bridge label)
    (step : Step codecs npub bridge label after) (same : after.clients = bridge.clients)
    (less : after.loopLeft codecs < bridge.loopLeft codecs) : Lessens codecs npub avatar bridge := by
  refine ⟨label, after, serves, step, ?_⟩
  rw [Bridge.left, Bridge.left, same]
  omega

theorem lessens_connecting (answering : Answering codecs npub avatar)
    (connecting : bridge.phase = .connecting) (awaits : bridge.stream.Awaits (connectRequest npub)) :
    Lessens codecs npub avatar bridge := by
  cases arrived : bridge.stream.arrived? with
  | none =>
      rcases awaits.asked_or_arrived with ⟨asked, _⟩ | ⟨text, isText, _⟩
      · refine lessens_of_loop (.avatarAnswers _ (avatar (connectRequest npub))) rfl
          (.avatarAnswers asked) rfl ?_
        obtain ⟨resp, reads⟩ := answering.readable (connectRequest npub)
        have isAccepted : accepts codecs (avatar (connectRequest npub)) = true := by
          rw [accepts, reads]
          simp [answering.accepts resp reads]
        have isArrived : (bridge.stream.answer (avatar (connectRequest npub))).arrived? =
            some (avatar (connectRequest npub)) := awaits.arrived?_answer arrived _
        simp only [Bridge.loopLeft, connecting, Phase.left, arrived, isArrived, isAccepted, if_true]
        omega
      · rw [arrived] at isText
        cases isText
  | some text =>
      by_cases accepted : accepts codecs text = true
      · obtain ⟨resp, reads, isAccepted⟩ := exists_of_accepts accepted
        refine lessens_of_loop (.connected text) trivial
          (.connected connecting arrived reads isAccepted) rfl ?_
        simp only [Bridge.loopLeft, connecting, Phase.left, arrived, accepted, if_true]
        omega
      · refine lessens_of_loop .connectFailed ⟨text, arrived, Bool.eq_false_iff.mpr accepted⟩
          (.connectFailed connecting) rfl ?_
        simp only [Bridge.loopLeft, connecting, Phase.left, arrived, accepted, if_false,
          Bool.false_eq_true]
        omega

theorem lessens_exchanging {queued : Queued} {id : UInt64}
    (exchanging : bridge.phase = .exchanging queued id)
    (awaits : bridge.stream.Awaits (rpcRequest codecs queued.request id)) :
    Lessens codecs npub avatar bridge := by
  cases arrived : bridge.stream.arrived? with
  | none =>
      rcases awaits.asked_or_arrived with ⟨asked, _⟩ | ⟨text, isText, _⟩
      · refine lessens_of_loop (.avatarAnswers _ (avatar (rpcRequest codecs queued.request id))) rfl
          (.avatarAnswers asked) rfl ?_
        simp only [Bridge.loopLeft, exchanging, Phase.left, arrived,
          awaits.arrived?_answer arrived, Option.isNone_none, Option.isNone_some, if_true,
          Bool.false_eq_true, if_false]
        omega
      · rw [arrived] at isText
        cases isText
  | some text =>
      cases reads : readResponseLine codecs text with
      | some resp =>
          refine lessens_of_loop (.readAnswer text resp) trivial
            (.readAnswer exchanging arrived reads) rfl ?_
          simp only [Bridge.loopLeft, Bridge.settle, exchanging, Phase.left, arrived,
            Option.isNone_some, Bool.false_eq_true, if_false]
          omega
      | none =>
          refine lessens_of_loop (.readFailed "") ⟨text, arrived, reads⟩ (.readFailed exchanging) rfl ?_
          simp only [Bridge.loopLeft, Bridge.settle, exchanging, Phase.left, arrived,
            Option.isNone_some, Bool.false_eq_true, if_false]
          omega

theorem lessens_take {queued : Queued} {rest : List Queued} (idle : bridge.phase = .idle)
    (settled : bridge.stream.Settled) (isNext : bridge.queue = queued :: rest) :
    Lessens codecs npub avatar bridge := by
  refine lessens_of_loop .takeRequest trivial (.takeRequest idle isNext) rfl ?_
  simp only [Bridge.loopLeft, idle, isNext, Phase.left, settled.arrived?_send, Option.isNone_none,
    if_true, List.length_cons]
  omega

/-! ### Steps of the clients -/

theorem lessens_of_client (label : Label) (found : bridge.clients[number]? = some client)
    (serves : Serves codecs avatar bridge label) (step : Step codecs npub bridge label after)
    (isNext : after.clients = bridge.clients.set number next)
    (less : next.handler.left + after.loopLeft codecs < client.handler.left + bridge.loopLeft codecs) :
    Lessens codecs npub avatar bridge := by
  refine ⟨label, after, serves, step, ?_⟩
  have sum := sum_map_set (fun client : Client => client.handler.left) next found
  rw [Bridge.left, Bridge.left, isNext]
  omega

/-- With nothing in the queue, every client that is not at rest can go on. -/
theorem lessens_client (paired : Paired codecs bridge.clients bridge.exchanges bridge.pending)
    (idle : bridge.phase = .idle) (empty : bridge.queue = [])
    (found : bridge.clients[number]? = some client) (busy : client.handler.left ≠ 0) :
    Lessens codecs npub avatar bridge := by
  cases handler : client.handler with
  | reading | closed =>
      rw [handler] at busy
      exact absurd rfl busy
  | sending payload request =>
      refine lessens_of_client (.enqueue number) found trivial
        (.enqueue found handler (by rw [empty]; decide)) rfl ?_
      simp only [Bridge.loopLeft, Bridge.setHandler, Bridge.setClient, handler, Handler.left, empty,
        List.length_append, List.length_nil, List.length_singleton]
      omega
  | waiting =>
      have coherent := paired.coherent number client found
      simp only [Client.Coherent, handler] at coherent
      obtain ⟨payload, isOpen, member, below⟩ := coherent
      have settled : (⟨number, client.answers.length⟩ : Calls.Ticket) ∈
          bridge.exchanges.map Calls.Exchange.ticket := by
        simpa [tickets, Bridge.pending, idle, empty, Phase.queued] using member
      obtain ⟨served, isServed, own⟩ := List.mem_map.mp settled
      refine lessens_of_client (.receive number) found trivial (.receive found handler isServed own) rfl ?_
      rw [handler]
      exact Nat.add_lt_add_right (by decide : 1 < 2) _
  | answering answer =>
      refine lessens_of_client (.writeAnswer number true) found rfl (.writeAnswer found handler) rfl ?_
      rw [handler]
      exact Nat.add_lt_add_right (by decide : 0 < 1) _

theorem lessens (answering : Answering codecs npub avatar)
    (paired : Paired codecs bridge.clients bridge.exchanges bridge.pending)
    (positioned : Positioned codecs npub bridge.phase bridge.stream) (busy : bridge.left codecs ≠ 0) :
    Lessens codecs npub avatar bridge := by
  cases phase : bridge.phase with
  | disconnected =>
      refine lessens_of_loop (.openConnection true) rfl (.openConnection phase) rfl ?_
      simp only [Bridge.loopLeft, phase, Phase.left, if_true]
      exact Nat.add_lt_add_right (by decide : 2 < 3) _
  | connecting =>
      rw [phase] at positioned
      exact lessens_connecting answering phase positioned
  | exchanging queued id =>
      rw [phase] at positioned
      exact lessens_exchanging phase positioned
  | idle =>
      rw [phase] at positioned
      cases queue : bridge.queue with
      | cons queued rest => exact lessens_take phase positioned queue
      | nil =>
          have some_busy : (bridge.clients.map fun client => client.handler.left).sum ≠ 0 := by
            intro rest
            rw [Bridge.left, rest, Bridge.loopLeft, phase, queue] at busy
            exact busy rfl
          obtain ⟨number, client, found, heavy⟩ := exists_weight_of_sum_ne_zero some_busy
          exact lessens_client paired phase queue found heavy

/-! ### Coming to rest -/

theorem Step.stays {first : List Client} (step : Step codecs npub before label after)
    (serves : Serves codecs avatar before label) (stay : Follows Client.Stays first before.clients) :
    Follows Client.Stays first after.clients := by
  have goesOn : ∀ {client next : Client}, next.payloads = client.payloads →
      next.handler.isClosed = false →
      ∀ earlier, Client.Stays earlier client → Client.Stays earlier next := by
    intro client next payloads isOpen earlier stays wasOpen
    exact ⟨payloads.trans (stays wasOpen).1, isOpen⟩
  cases step with
  | accept | readPayload | disconnect | timeout | takeAndFail => exact serves.elim
  | enqueue found | receive found => exact stay.set found _ (goesOn rfl rfl)
  | writeAnswer found answering =>
      cases serves
      exact stay.set found _ (goesOn rfl rfl)
  | openConnection | connected | connectFailed | takeRequest | avatarAnswers | readAnswer
  | readFailed => exact stay

theorem Handler.idle {handler : Handler} (rest : handler.left = 0) :
    handler = .reading ∨ handler = .closed := by
  cases handler with
  | reading => exact .inl rfl
  | closed => exact .inr rfl
  | sending | waiting | answering => cases rest

/-- The bridge reaches a state from which no step of its own is left, with the
clients that it has. -/
theorem drains (answering : Answering codecs npub avatar)
    (paired : Paired codecs bridge.clients bridge.exchanges bridge.pending)
    (positioned : Positioned codecs npub bridge.phase bridge.stream) :
    ∃ trace final, Run (Step codecs npub) bridge trace final ∧
      (∀ transition ∈ trace, Serves codecs avatar transition.before transition.label) ∧
      (Paired codecs final.clients final.exchanges final.pending ∧
        Positioned codecs npub final.phase final.stream ∧
        Follows Client.Stays bridge.clients final.clients) ∧
      final.left codecs = 0 ∧ trace.length ≤ bridge.left codecs := by
  refine exists_run_to_rest
    (fun state => Paired codecs state.clients state.exchanges state.pending ∧
      Positioned codecs npub state.phase state.stream ∧
      Follows Client.Stays bridge.clients state.clients)
    (Serves codecs avatar) (Bridge.left codecs) ?_
    ⟨paired, positioned, .refl (fun _ isOpen => ⟨rfl, isOpen⟩) _⟩
  rintro state ⟨paired, positioned, stay⟩ busy
  have less : Lessens codecs npub avatar state := lessens answering paired positioned busy
  obtain ⟨label, after, serves, step, less⟩ := less
  exact ⟨label, after, serves, step,
    ⟨step.paired paired, step.positioned positioned, step.stays serves stay⟩, less⟩

/-- From every reachable state the bridge, if no client gives up and the avatar
can be reached, comes to rest: the queue is empty, and every client that is
there has an answer to each of its messages. -/
theorem comes_to_rest (answering : Answering codecs npub avatar)
    (reachable : Reachable (Step codecs npub) .start bridge) :
    ∃ trace final, Run (Step codecs npub) bridge trace final ∧
      (∀ transition ∈ trace, Serves codecs avatar transition.before transition.label) ∧
      trace.length ≤ 9 * bridge.clients.length + 6 * bridge.queue.length + 5 ∧ final.queue = [] ∧
      ∀ (number : Nat) (client : Client), bridge.clients[number]? = some client →
        client.handler.isClosed = false →
        ∃ later : Client, final.clients[number]? = some later ∧ later.payloads = client.payloads ∧
          later.answers.length = client.payloads.length := by
  obtain ⟨trace, final, run, serves, ⟨last, _, stay⟩, rest, short⟩ :=
    drains answering (reachable_paired reachable) (reachable_positioned reachable)
  rw [Bridge.left, Bridge.loopLeft] at rest
  refine ⟨trace, final, run, serves, short.trans bridge.left_le,
    List.length_eq_zero_iff.mp (by omega), ?_⟩
  intro number client found isOpen
  obtain ⟨later, isLater, stays⟩ := stay number client found
  obtain ⟨payloads, isOpen⟩ := stays isOpen
  refine ⟨later, isLater, payloads, ?_⟩
  have none_left : (final.clients.map fun client => client.handler.left).sum = 0 := by omega
  have coherent := last.coherent number later isLater
  rcases Handler.idle (List.sum_eq_zero_iff.mp none_left _
    (List.mem_map_of_mem (List.mem_of_getElem? isLater))) with handler | handler
  · simp only [Client.Coherent, handler] at coherent
    rw [coherent.1, payloads]
  · rw [handler] at isOpen
    cases isOpen

namespace Sample

def answeringAvatar (_ : JsonRpcRequest) : String := line connectedTree

theorem answering : Answering agentCodecs "" answeringAvatar where
  readable _ := ⟨_, reads_connected⟩
  accepts resp reads := by
    rw [answeringAvatar, reads_connected] at reads
    cases reads
    rfl

/-- Two clients wait while the avatar is away. -/
theorem two_wait : ∃ bridge, Reachable (Step agentCodecs "") .start bridge ∧
    bridge.queue.map Queued.ticket = [⟨1, 0⟩, ⟨0, 0⟩] := by
  refine ⟨_, ⟨_,
    .cons (.accept _) <|
    .cons (.accept _) <|
    .cons (@Step.readPayload _ _ _ 0 _ [11] _ rfl rfl (by decide) (by decide) rfl) <|
    .cons (@Step.readPayload _ _ _ 1 _ [11] _ rfl rfl (by decide) (by decide) rfl) <|
    .cons (@Step.enqueue _ _ _ 1 _ _ _ rfl rfl (by decide : 0 < 32)) <|
    .cons (@Step.enqueue _ _ _ 0 _ _ _ rfl rfl (by decide : 1 < 32)) <|
    .nil _⟩, rfl⟩

end Sample

open Sample in
theorem two_wait_come_to_rest : ∃ bridge, Reachable (Step agentCodecs "") .start bridge ∧
    bridge.queue.map Queued.ticket = [⟨1, 0⟩, ⟨0, 0⟩] ∧
    ∃ trace final, Run (Step agentCodecs "") bridge trace final ∧
      (∀ transition ∈ trace, Serves agentCodecs answeringAvatar transition.before transition.label) ∧
      trace.length ≤ 9 * bridge.clients.length + 6 * bridge.queue.length + 5 ∧ final.queue = [] ∧
      ∀ (number : Nat) (client : Client), bridge.clients[number]? = some client →
        client.handler.isClosed = false →
        ∃ later : Client, final.clients[number]? = some later ∧ later.payloads = client.payloads ∧
          later.answers.length = client.payloads.length := by
  obtain ⟨bridge, reachable, queue⟩ := two_wait
  exact ⟨bridge, reachable, queue, comes_to_rest answering reachable⟩

end KeyMaster.SshSa

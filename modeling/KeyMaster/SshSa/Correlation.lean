import KeyMaster.Data.Simulation
import KeyMaster.SshSa.Bridge

namespace KeyMaster.SshSa

open Data

/-! Whose answer an agent client gets from the bridge. -/

variable {codecs : Codecs} {npub : String}

/-- A client that is put off is told of a failure. -/
abbrev ServiceStep (codecs : Codecs) :=
  Calls.Step (respond codecs) fun _ answer => answer = [sshAgentFailure]

def Bridge.view (bridge : Bridge) : Calls.Service (List UInt8) (List UInt8) Ending :=
  ⟨bridge.clients.map fun client => ⟨client.payloads, client.answers⟩, bridge.exchanges⟩

def Bridge.streams (bridge : Bridge) : List AvatarStream := bridge.past ++ [bridge.stream]

/-- The response of an exchange is the avatar's answer to the line that was sent
for the payload's own request. -/
def Ending.Own (codecs : Codecs) (streams : List AvatarStream) (payload : List UInt8) : Ending → Prop
  | .answered connection position id text resp =>
      ∃ stream request, streams[connection]? = some stream ∧
        handlePayload payload = .ok (.forwards request) ∧
        stream.Answered position (rpcRequest codecs request id) text ∧
        readResponseLine codecs text = some resp
  | .failed _ => True

/-- Every client has its answers in the order of its messages, one each, with at
most the last one missing: what the avatar's response to the message's own
request leads to, or a failure.  A response that comes too late for its client
is no other's, and none is used twice. -/
structure Answers (codecs : Codecs) (bridge : Bridge) : Prop where
  correlates : Calls.Correlates (respond codecs) (fun _ answer => answer = [sshAgentFailure])
    bridge.view
  own : ∀ served ∈ bridge.exchanges, served.ending.Own codecs bridge.streams served.call
  once : (bridge.exchanges.filterMap fun served => served.ending.position).Nodup

/-! ### Payloads and tickets -/

def Phase.queued : Phase → List Queued
  | .exchanging queued _ => [queued]
  | _ => []

/-- The requests that are still to be settled, the one in hand first. -/
def Bridge.pending (bridge : Bridge) : List Queued := bridge.phase.queued ++ bridge.queue

def tickets (exchanges : List Served) (pending : List Queued) : List Calls.Ticket :=
  exchanges.map Calls.Exchange.ticket ++ pending.map Queued.ticket

def Client.Open (client : Client) (payload : List UInt8) : Prop :=
  client.payloads[client.answers.length]? = some payload ∧
    client.payloads.length = client.answers.length + 1

/-- An answer is its exchange's, or puts the client off. -/
def AnswerOf (codecs : Codecs) (exchanges : List Served) (ticket : Calls.Ticket)
    (payload answer : List UInt8) : Prop :=
  answer = [sshAgentFailure] ∨
    ∃ served ∈ exchanges, served.ticket = ticket ∧ answer = respond codecs payload served.ending

/-- Where a handler stands with its payloads and their tickets. -/
def Client.Coherent (codecs : Codecs) (exchanges : List Served) (pending : List Queued)
    (number : Nat) (client : Client) : Prop :=
  let ticket : Calls.Ticket := ⟨number, client.answers.length⟩
  match client.handler with
  | .reading => client.answers.length = client.payloads.length ∧
      Calls.Below (tickets exchanges pending) number client.answers.length
  | .sending payload request => client.Open payload ∧
      handlePayload payload = .ok (.forwards request) ∧
      Calls.Below (tickets exchanges pending) number client.answers.length
  | .waiting => ∃ payload, client.Open payload ∧ ticket ∈ tickets exchanges pending ∧
      Calls.Below (tickets exchanges pending) number (client.answers.length + 1)
  | .answering answer => ∃ payload, client.Open payload ∧
      AnswerOf codecs exchanges ticket payload answer ∧
      Calls.Below (tickets exchanges pending) number (client.answers.length + 1)
  | .closed => True

def IsCall (clients : List Client) (ticket : Calls.Ticket) (payload : List UInt8) : Prop :=
  ∃ client : Client, clients[ticket.caller]? = some client ∧
    client.payloads[ticket.number]? = some payload

structure Paired (codecs : Codecs) (clients : List Client) (exchanges : List Served)
    (pending : List Queued) : Prop where
  coherent : ∀ (number : Nat) (client : Client), clients[number]? = some client →
    client.Coherent codecs exchanges pending number
  queued : ∀ queued ∈ pending, IsCall clients queued.ticket queued.payload ∧
    handlePayload queued.payload = .ok (.forwards queued.request)
  served : ∀ served ∈ exchanges, IsCall clients served.ticket served.call
  nodup : (tickets exchanges pending).Nodup

variable {clients : List Client} {exchanges : List Served} {pending : List Queued} {number : Nat}
  {client next : Client} {payload : List UInt8} {ticket : Calls.Ticket}

theorem handlePayload_failure (small : payload.length ≤ maxPayload) {answer : List UInt8}
    (handles : handlePayload payload = .ok (.answers answer)) : answer = [sshAgentFailure] := by
  cases payload with
  | nil => cases handles
  | cons msgType body =>
      have smallBody : body.length ≤ maxPayload := by
        rw [List.length_cons] at small
        omega
      rw [handlePayload_cons, handleSignRequest_eq smallBody] at handles
      split_ifs at handles
      · cases handles
      · cases read : signBody body with
        | none =>
            rw [read] at handles
            cases handles
            rfl
        | some parts =>
            rw [read] at handles
            cases handles
      · cases handles
        rfl

theorem IsCall.set (isCall : IsCall clients ticket payload) (found : clients[number]? = some client)
    (grows : client.payloads <+: next.payloads) : IsCall (clients.set number next) ticket payload := by
  obtain ⟨caller, isCaller, isPayload⟩ := isCall
  rw [IsCall, getElem?_set_of_some found]
  split
  · rename_i same
    rw [same, found] at isCaller
    cases isCaller
    obtain ⟨more, grown⟩ := grows
    refine ⟨next, rfl, ?_⟩
    rw [← grown, List.getElem?_append_left (List.getElem?_eq_some_iff.mp isPayload).1]
    exact isPayload
  · exact ⟨caller, isCaller, isPayload⟩

theorem IsCall.append (isCall : IsCall clients ticket payload) (client : Client) :
    IsCall (clients ++ [client]) ticket payload := by
  obtain ⟨caller, isCaller, isPayload⟩ := isCall
  refine ⟨caller, ?_, isPayload⟩
  rwa [List.getElem?_append_left (List.getElem?_eq_some_iff.mp isCaller).1]

/-- Every ticket is that of a call. -/
theorem Paired.caller_lt (paired : Paired codecs clients exchanges pending)
    (member : ticket ∈ tickets exchanges pending) : ticket.caller < clients.length := by
  rcases List.mem_append.mp member with inServed | inQueued
  · obtain ⟨served, isServed, rfl⟩ := List.mem_map.mp inServed
    obtain ⟨caller, isCaller, _⟩ := paired.served served isServed
    exact (List.getElem?_eq_some_iff.mp isCaller).1
  · obtain ⟨queued, isQueued, rfl⟩ := List.mem_map.mp inQueued
    obtain ⟨⟨caller, isCaller, _⟩, _⟩ := paired.queued queued isQueued
    exact (List.getElem?_eq_some_iff.mp isCaller).1

theorem Paired.join (paired : Paired codecs clients exchanges pending) :
    Paired codecs (clients ++ [⟨[], [], .reading⟩]) exchanges pending where
  coherent number client found := by
    by_cases old : number < clients.length
    · rw [List.getElem?_append_left old] at found
      exact paired.coherent number client found
    · rw [List.getElem?_append_right (Nat.not_lt.mp old)] at found
      rw [List.mem_singleton.mp (List.mem_of_getElem? found)]
      exact ⟨rfl, fun ticket member own => absurd (own ▸ paired.caller_lt member) old⟩
  queued queued member := ⟨(paired.queued queued member).1.append _, (paired.queued queued member).2⟩
  served served member := (paired.served served member).append _
  nodup := paired.nodup

/-- A client changes, and no ticket. -/
theorem Paired.set (paired : Paired codecs clients exchanges pending)
    (found : clients[number]? = some client) (grows : client.payloads <+: next.payloads)
    (own : next.Coherent codecs exchanges pending number) :
    Paired codecs (clients.set number next) exchanges pending where
  coherent other changed isOther := by
    rw [getElem?_set_of_some found] at isOther
    split at isOther
    · rename_i same
      rw [← Option.some.inj isOther, same]
      exact own
    · exact paired.coherent other changed isOther
  queued queued member := ⟨(paired.queued queued member).1.set found grows, (paired.queued queued member).2⟩
  served served member := (paired.served served member).set found grows
  nodup := paired.nodup

/-! ### The queue -/

theorem tickets_enqueue (exchanges : List Served) (pending : List Queued) (queued : Queued) :
    tickets exchanges (pending ++ [queued]) = tickets exchanges pending ++ [queued.ticket] := by
  simp [tickets]

/-- To settle a request moves its ticket to the exchanges. -/
theorem tickets_settle (exchanges : List Served) (pending : List Queued) (queued : Queued)
    (ending : Ending) :
    tickets (exchanges ++ [⟨queued.ticket, queued.payload, ending⟩]) pending =
      tickets exchanges (queued :: pending) := by
  simp [tickets]

theorem Client.Coherent.enqueue {queued : Queued}
    (coherent : client.Coherent codecs exchanges pending number)
    (other : queued.ticket.caller ≠ number) :
    client.Coherent codecs exchanges (pending ++ [queued]) number := by
  have below : ∀ {count : Nat}, Calls.Below (tickets exchanges pending) number count →
      Calls.Below (tickets exchanges (pending ++ [queued])) number count := by
    intro count below
    rw [tickets_enqueue]
    exact below.add fun own => absurd own other
  unfold Client.Coherent at coherent ⊢
  cases handler : client.handler with
  | reading =>
      rw [handler] at coherent
      exact ⟨coherent.1, below coherent.2⟩
  | sending payload request =>
      rw [handler] at coherent
      exact ⟨coherent.1, coherent.2.1, below coherent.2.2⟩
  | waiting =>
      rw [handler] at coherent
      obtain ⟨payload, isOpen, member, bound⟩ := coherent
      refine ⟨payload, isOpen, ?_, below bound⟩
      rw [tickets_enqueue]
      exact List.mem_append_left _ member
  | answering answer =>
      rw [handler] at coherent
      obtain ⟨payload, isOpen, isAnswer, bound⟩ := coherent
      exact ⟨payload, isOpen, isAnswer, below bound⟩
  | closed => trivial

theorem Paired.enqueue (paired : Paired codecs clients exchanges pending)
    (found : clients[number]? = some client) {request : AgentRequest}
    (sending : client.handler = .sending payload request) :
    Paired codecs (clients.set number { client with handler := .waiting }) exchanges
      (pending ++ [⟨⟨number, client.answers.length⟩, payload, request⟩]) := by
  have coherent := paired.coherent number client found
  simp only [Client.Coherent, sending] at coherent
  obtain ⟨isOpen, handles, below⟩ := coherent
  constructor
  · intro other changed isOther
    rw [getElem?_set_of_some found] at isOther
    split at isOther
    · rename_i same
      rw [← Option.some.inj isOther, same]
      refine ⟨payload, isOpen, ?_, ?_⟩
      · rw [tickets_enqueue]
        exact List.mem_append_right _ List.mem_cons_self
      · rw [tickets_enqueue]
        exact below.succ.add fun _ => Nat.lt_succ_self _
    · rename_i different
      exact (paired.coherent other changed isOther).enqueue (Ne.symm different)
  · intro queued member
    rcases List.mem_append.mp member with old | new
    · exact ⟨(paired.queued queued old).1.set found List.prefix_rfl, (paired.queued queued old).2⟩
    · rw [List.mem_singleton.mp new]
      refine ⟨⟨{ client with handler := .waiting }, ?_, isOpen.1⟩, handles⟩
      rw [getElem?_set_of_some found, if_pos rfl]
  · exact fun served member => (paired.served served member).set found List.prefix_rfl
  · rw [tickets_enqueue, List.nodup_append]
    refine ⟨paired.nodup, List.nodup_singleton _, ?_⟩
    rintro ticket member other isNew rfl
    rw [List.mem_singleton.mp isNew] at member
    exact below.not_mem member

theorem Client.Coherent.settle {queued : Queued} {ending : Ending}
    (coherent : client.Coherent codecs exchanges (queued :: pending) number) :
    client.Coherent codecs (exchanges ++ [⟨queued.ticket, queued.payload, ending⟩]) pending number := by
  unfold Client.Coherent at coherent ⊢
  rw [tickets_settle]
  cases handler : client.handler with
  | answering answer =>
      rw [handler] at coherent
      obtain ⟨payload, isOpen, isAnswer, bound⟩ := coherent
      refine ⟨payload, isOpen, ?_, bound⟩
      rcases isAnswer with failure | ⟨served, member, isTicket, isAnswer⟩
      · exact .inl failure
      · exact .inr ⟨served, List.mem_append_left _ member, isTicket, isAnswer⟩
  | reading | sending | waiting | closed =>
      rw [handler] at coherent
      exact coherent

theorem Paired.settle {queued : Queued} (paired : Paired codecs clients exchanges (queued :: pending))
    (ending : Ending) :
    Paired codecs clients (exchanges ++ [⟨queued.ticket, queued.payload, ending⟩]) pending where
  coherent number client found := (paired.coherent number client found).settle
  queued other member := paired.queued other (List.mem_cons_of_mem _ member)
  served served member := by
    rcases List.mem_append.mp member with old | new
    · exact paired.served served old
    · rw [List.mem_singleton.mp new]
      exact (paired.queued queued List.mem_cons_self).1
  nodup := by
    rw [tickets_settle]
    exact paired.nodup

/-! ### Steps -/

variable {before after : Bridge} {label : Label}

theorem Bridge.pending_take {queued : Queued} {rest : List Queued} (idle : before.phase = .idle)
    (isNext : before.queue = queued :: rest) : before.pending = queued :: rest := by
  rw [Bridge.pending, idle, isNext]
  rfl

theorem Bridge.pending_exchanging {queued : Queued} {id : UInt64}
    (exchanging : before.phase = .exchanging queued id) :
    before.pending = queued :: before.queue := by
  rw [Bridge.pending, exchanging]
  rfl

theorem Step.paired (step : Step codecs npub before label after)
    (paired : Paired codecs before.clients before.exchanges before.pending) :
    Paired codecs after.clients after.exchanges after.pending := by
  cases step with
  | accept => exact paired.join
  | @readPayload number client payload handling found reading nonempty small handles =>
      have coherent := paired.coherent _ _ found
      simp only [Client.Coherent, reading] at coherent
      have isOpen : Client.Open { client with
          payloads := client.payloads ++ [payload], handler := handlerOf payload handling } payload := by
        refine ⟨?_, ?_⟩
        · simp only [coherent.1, List.getElem?_concat_length]
        · simp only [List.length_append, List.length_singleton, coherent.1]
      refine paired.set found (List.prefix_append _ _) ?_
      cases handling with
      | answers answer =>
          exact ⟨payload, isOpen, .inl (handlePayload_failure small handles), coherent.2.succ⟩
      | forwards request => exact ⟨isOpen, handles, coherent.2⟩
  | disconnect found reading => exact paired.set found List.prefix_rfl trivial
  | enqueue found sending room =>
      have queued := paired.enqueue found sending
      rw [Bridge.pending, List.append_assoc] at queued
      exact queued
  | @receive number client served found waiting settled own =>
      have coherent := paired.coherent _ _ found
      simp only [Client.Coherent, waiting] at coherent
      obtain ⟨payload, isOpen, member, below⟩ := coherent
      refine paired.set found List.prefix_rfl ⟨payload, isOpen, .inr ⟨served, settled, own, ?_⟩, below⟩
      obtain ⟨caller, isCaller, isPayload⟩ := paired.served served settled
      rw [own] at isCaller isPayload
      rw [found] at isCaller
      cases isCaller
      rw [isOpen.1] at isPayload
      rw [Option.some.inj isPayload]
  | timeout found waiting =>
      have coherent := paired.coherent _ _ found
      simp only [Client.Coherent, waiting] at coherent
      obtain ⟨payload, isOpen, member, below⟩ := coherent
      exact paired.set found List.prefix_rfl ⟨payload, isOpen, .inl rfl, below⟩
  | @writeAnswer number client answer written found answering =>
      cases written with
      | false => exact paired.set found List.prefix_rfl trivial
      | true =>
          have coherent := paired.coherent _ _ found
          simp only [Client.Coherent, answering] at coherent
          obtain ⟨payload, isOpen, isAnswer, below⟩ := coherent
          refine paired.set found List.prefix_rfl ⟨?_, ?_⟩
          · simp only [if_true, List.length_append, List.length_singleton, isOpen.2]
          · simpa only [if_true, List.length_append, List.length_singleton] using below
  | @openConnection written disconnected =>
      rw [Bridge.pending, disconnected] at paired
      cases written <;> exact paired
  | connected connecting arrived reads accepted =>
      rw [Bridge.pending, connecting] at paired
      exact paired
  | connectFailed connecting =>
      rw [Bridge.pending, connecting] at paired
      exact paired
  | takeRequest idle isNext =>
      rw [Bridge.pending_take idle isNext] at paired
      exact paired
  | takeAndFail idle isNext =>
      rw [Bridge.pending_take idle isNext] at paired
      exact paired.settle _
  | avatarAnswers asked => exact paired
  | readAnswer exchanging arrived reads =>
      rw [Bridge.pending_exchanging exchanging] at paired
      exact paired.settle _
  | readFailed exchanging =>
      rw [Bridge.pending_exchanging exchanging] at paired
      exact paired.settle _

theorem paired_start : Paired codecs Bridge.start.clients Bridge.start.exchanges Bridge.start.pending where
  coherent number client found := by simp [Bridge.start] at found
  queued queued member := by cases member
  served served member := by cases member
  nodup := .nil

theorem reachable_paired {bridge : Bridge} (reachable : Reachable (Step codecs npub) .start bridge) :
    Paired codecs bridge.clients bridge.exchanges bridge.pending :=
  Reachable.invariant (fun bridge => Paired codecs bridge.clients bridge.exchanges bridge.pending)
    (fun _ _ _ step => step.paired) paired_start reachable

/-! ### The service -/

theorem view_call? (isCall : IsCall before.clients ticket payload) :
    before.view.call? ticket = some payload := by
  obtain ⟨caller, isCaller, isPayload⟩ := isCall
  simp only [Bridge.view, Calls.Service.call?, List.getElem?_map, isCaller, Option.map_some,
    Option.bind_some, isPayload]

theorem view_callers (found : before.clients[number]? = some client) :
    before.view.callers[number]? = some ⟨client.payloads, client.answers⟩ := by
  simp only [Bridge.view, List.getElem?_map, found, Option.map_some]

/-- A change of the handler alone does not show. -/
theorem view_setHandler (found : before.clients[number]? = some client) (handler : Handler) :
    (before.setHandler number client handler).view = before.view := by
  simp only [Bridge.setHandler, Bridge.setClient, Bridge.view]
  congr 1
  apply List.ext_getElem?
  intro other
  rw [List.getElem?_map, List.getElem?_map, getElem?_set_of_some found]
  split
  · rename_i same
    rw [same, found, Option.map_some, Option.map_some]
  · rfl

theorem Paired.exchange {queued : Queued} {rest : List Queued}
    (paired : Paired codecs before.clients before.exchanges (queued :: rest)) (ending : Ending) :
    ServiceStep codecs before.view (.exchange queued.ticket ending)
      { before.view with
        exchanges := before.exchanges ++ [⟨queued.ticket, queued.payload, ending⟩] } := by
  have made := view_call? (paired.queued queued List.mem_cons_self).1
  have unserved : ∀ exchange ∈ before.view.exchanges, exchange.ticket ≠ queued.ticket := by
    intro exchange member same
    have distinct := paired.nodup
    rw [tickets, List.nodup_append] at distinct
    exact distinct.2.2 _ (List.mem_map_of_mem member) _ (List.mem_map_of_mem List.mem_cons_self) same
  exact .exchange ending made unserved

/-- To write an answer is the reply of the service, or puts the client off. -/
theorem Paired.writeAnswer (paired : Paired codecs before.clients before.exchanges before.pending)
    (found : before.clients[number]? = some client) {answer : List UInt8}
    (answering : client.handler = .answering answer) :
    ∃ label, ServiceStep codecs before.view label
      (before.setClient number
        { client with answers := client.answers ++ [answer], handler := .reading }).view := by
  have coherent := paired.coherent number client found
  simp only [Client.Coherent, answering] at coherent
  obtain ⟨payload, isOpen, isAnswer, below⟩ := coherent
  have shown : (before.setClient number
      { client with answers := client.answers ++ [answer], handler := .reading }).view =
      before.view.setCaller number ⟨client.payloads, client.answers ++ [answer]⟩ := by
    simp only [Bridge.setClient, Bridge.view, Calls.Service.setCaller, List.map_set]
  rw [shown]
  rcases isAnswer with failure | ⟨served, member, isTicket, isAnswer⟩
  · exact ⟨.putOff number answer, .putOff (view_callers found) isOpen.1 failure⟩
  · have isPayload : served.call = payload := by
      obtain ⟨caller, isCaller, isCall⟩ := paired.served served member
      rw [isTicket] at isCaller isCall
      rw [found] at isCaller
      cases isCaller
      rw [isOpen.1] at isCall
      exact (Option.some.inj isCall).symm
    rw [isAnswer, ← isPayload]
    exact ⟨.reply number, .reply (view_callers found) member isTicket⟩

theorem implements_service : Implements (Step codecs npub) .start (ServiceStep codecs) Bridge.view := by
  intro before label after reachable step
  have paired := reachable_paired reachable
  cases step with
  | accept =>
      refine .inr ⟨.join, ?_⟩
      simp only [Bridge.view, List.map_append]
      exact .join _
  | @readPayload number client payload handling found reading nonempty small handles =>
      have coherent := paired.coherent _ _ found
      simp only [Client.Coherent, reading] at coherent
      refine .inr ⟨.call number payload, ?_⟩
      have step : ServiceStep codecs before.view (.call number payload) _ :=
        .call payload (view_callers found) coherent.1
      simp only [Calls.Service.setCaller, Bridge.setClient, Bridge.view, List.map_set] at step ⊢
      exact step
  | disconnect found reading => exact .inl (view_setHandler found _)
  | enqueue found sending room => exact .inl (view_setHandler found _)
  | receive found waiting settled own => exact .inl (view_setHandler found _)
  | timeout found waiting => exact .inl (view_setHandler found _)
  | @writeAnswer number client answer written found answering =>
      cases written with
      | true => exact .inr (paired.writeAnswer found answering)
      | false => exact .inl (view_setHandler found .closed)
  | openConnection => exact .inl rfl
  | connected => exact .inl rfl
  | connectFailed => exact .inl rfl
  | takeRequest => exact .inl rfl
  | avatarAnswers => exact .inl rfl
  | takeAndFail idle isNext =>
      rw [Bridge.pending_take idle isNext] at paired
      exact .inr ⟨_, paired.exchange _⟩
  | readAnswer exchanging arrived reads =>
      rw [Bridge.pending_exchanging exchanging] at paired
      exact .inr ⟨_, paired.exchange _⟩
  | readFailed exchanging =>
      rw [Bridge.pending_exchanging exchanging] at paired
      exact .inr ⟨_, paired.exchange _⟩

/-! ### The avatar connections -/

/-- All lines of the connection but the one in hand have been answered, and the
answers read. -/
def Positioned (codecs : Codecs) (npub : String) (phase : Phase) (stream : AvatarStream) : Prop :=
  match phase with
  | .disconnected => True
  | .connecting => stream.Awaits (connectRequest npub)
  | .idle => stream.Settled
  | .exchanging queued id => stream.Awaits (rpcRequest codecs queued.request id)

structure Exchanged (codecs : Codecs) (streams : List AvatarStream) (exchanges : List Served) :
    Prop where
  own : ∀ served ∈ exchanges, served.ending.Own codecs streams served.call
  once : (exchanges.filterMap fun served => served.ending.position).Nodup

variable {past : List AvatarStream} {stream later : AvatarStream} {ending : Ending}

theorem Step.positioned (step : Step codecs npub before label after)
    (positioned : Positioned codecs npub before.phase before.stream) :
    Positioned codecs npub after.phase after.stream := by
  cases step with
  | accept | readPayload | disconnect | enqueue | receive | timeout | writeAnswer => exact positioned
  | @openConnection written disconnected =>
      cases written with
      | false => trivial
      | true =>
          have empty : (⟨[], [], 0⟩ : AvatarStream).Settled := ⟨⟨Nat.le_refl _, Nat.le_refl _⟩, rfl⟩
          exact empty.send _
  | connected connecting arrived reads accepted =>
      rw [connecting] at positioned
      exact positioned.take arrived
  | connectFailed | takeAndFail | readFailed => trivial
  | takeRequest idle isNext =>
      rw [idle] at positioned
      exact positioned.send _
  | avatarAnswers asked =>
      cases phase : before.phase with
      | disconnected => trivial
      | connecting =>
          rw [phase] at positioned
          exact positioned.answer asked _
      | idle =>
          rw [phase] at positioned
          rw [positioned.asked?] at asked
          cases asked
      | exchanging queued id =>
          rw [phase] at positioned
          exact positioned.answer asked _
  | readAnswer exchanging arrived reads =>
      rw [exchanging] at positioned
      exact positioned.take arrived

theorem Ending.Own.grow {streams grown : List AvatarStream} (own : ending.Own codecs streams payload)
    (keeps : ∀ (connection : Nat) (stream : AvatarStream), streams[connection]? = some stream →
      ∃ later : AvatarStream, grown[connection]? = some later ∧
        ∀ position request text, stream.Answered position request text →
          later.Answered position request text) : ending.Own codecs grown payload := by
  cases ending with
  | failed => trivial
  | answered connection position id text resp =>
      obtain ⟨stream, request, isStream, handles, answered, reads⟩ := own
      obtain ⟨later, isLater, stays⟩ := keeps connection stream isStream
      exact ⟨later, request, isLater, handles, stays _ _ _ answered, reads⟩

theorem Exchanged.grow (exchanged : Exchanged codecs (past ++ [stream]) exchanges)
    (keeps : ∀ position request text, stream.Answered position request text →
      later.Answered position request text) : Exchanged codecs (past ++ [later]) exchanges where
  own served member := by
    refine (exchanged.own served member).grow ?_
    intro connection found isStream
    by_cases old : connection < past.length
    · rw [List.getElem?_append_left old] at isStream ⊢
      exact ⟨found, isStream, fun _ _ _ answered => answered⟩
    · rw [List.getElem?_append_right (Nat.not_lt.mp old)] at isStream ⊢
      obtain ⟨bound, isFound⟩ := List.getElem?_eq_some_iff.mp isStream
      have first : connection - past.length = 0 := Nat.lt_one_iff.mp bound
      rw [first] at isStream ⊢
      cases isStream
      exact ⟨later, rfl, keeps⟩
  once := exchanged.once

theorem Exchanged.open (exchanged : Exchanged codecs past exchanges) (stream : AvatarStream) :
    Exchanged codecs (past ++ [stream]) exchanges where
  own served member := by
    refine (exchanged.own served member).grow ?_
    intro connection found isStream
    refine ⟨found, ?_, fun _ _ _ answered => answered⟩
    rwa [List.getElem?_append_left (List.getElem?_eq_some_iff.mp isStream).1]
  once := exchanged.once

theorem Exchanged.fail {streams : List AvatarStream} {message : String}
    (exchanged : Exchanged codecs streams exchanges) :
    Exchanged codecs streams (exchanges ++ [⟨ticket, payload, .failed message⟩]) where
  own served member := by
    rcases List.mem_append.mp member with old | new
    · exact exchanged.own served old
    · rw [List.mem_singleton.mp new]
      trivial
  once := by simpa [Ending.position] using exchanged.once

/-- The answer that is read has not been used before. -/
theorem Exchanged.succeed {request : AgentRequest} {id : UInt64} {text : String}
    {resp : JsonRpcResponse} (exchanged : Exchanged codecs (past ++ [stream]) exchanges)
    (awaits : stream.Awaits (rpcRequest codecs request id))
    (handles : handlePayload payload = .ok (.forwards request)) (arrived : stream.arrived? = some text)
    (reads : readResponseLine codecs text = some resp) :
    Exchanged codecs (past ++ [stream.take])
      (exchanges ++ [⟨ticket, payload, .answered past.length stream.read id text resp⟩]) where
  own served member := by
    rcases List.mem_append.mp member with old | new
    · exact (exchanged.grow fun _ _ _ answered => answered.take).own served old
    · rw [List.mem_singleton.mp new]
      refine ⟨stream.take, request, ?_, handles, awaits.answered arrived, reads⟩
      rw [List.getElem?_append_right (Nat.le_refl _), Nat.sub_self, List.getElem?_cons_zero]
  once := by
    rw [List.filterMap_append, List.nodup_append]
    refine ⟨exchanged.once, List.nodup_singleton _, ?_⟩
    rintro position member other isRead rfl
    obtain ⟨served, isServed, isPosition⟩ := List.mem_filterMap.mp member
    have own := exchanged.own served isServed
    rw [List.mem_singleton.mp isRead] at isPosition
    cases ending : served.ending with
    | failed message =>
        rw [ending] at isPosition
        cases isPosition
    | answered connection earlier id text resp =>
        rw [ending] at own isPosition
        cases isPosition
        obtain ⟨found, _, isStream, _, answered, _⟩ := own
        rw [List.getElem?_append_right (Nat.le_refl _), Nat.sub_self, List.getElem?_cons_zero] at isStream
        cases isStream
        exact Nat.lt_irrefl _ answered.1

theorem Step.exchanged (step : Step codecs npub before label after)
    (paired : Paired codecs before.clients before.exchanges before.pending)
    (positioned : Positioned codecs npub before.phase before.stream)
    (exchanged : Exchanged codecs before.streams before.exchanges) :
    Exchanged codecs after.streams after.exchanges := by
  cases step with
  | accept | readPayload | disconnect | enqueue | receive | timeout | writeAnswer | connectFailed =>
      exact exchanged
  | openConnection => exact exchanged.open _
  | connected => exact exchanged.grow fun _ _ _ answered => answered.take
  | takeRequest => exact exchanged.grow fun _ _ _ answered => answered.send _
  | avatarAnswers => exact exchanged.grow fun _ _ _ answered => answered.answer _
  | takeAndFail | readFailed => exact exchanged.fail
  | readAnswer exchanging arrived reads =>
      rw [Bridge.pending_exchanging exchanging] at paired
      rw [exchanging] at positioned
      exact exchanged.succeed positioned (paired.queued _ List.mem_cons_self).2 arrived reads

theorem exchanged_start : Exchanged codecs Bridge.start.streams Bridge.start.exchanges where
  own served member := by cases member
  once := .nil

theorem positioned_start : Positioned codecs npub Bridge.start.phase Bridge.start.stream := trivial

theorem reachable_positioned {bridge : Bridge} (reachable : Reachable (Step codecs npub) .start bridge) :
    Positioned codecs npub bridge.phase bridge.stream :=
  Reachable.invariant (fun bridge => Positioned codecs npub bridge.phase bridge.stream)
    (fun _ _ _ step => step.positioned) positioned_start reachable

theorem reachable_exchanged {bridge : Bridge} (reachable : Reachable (Step codecs npub) .start bridge) :
    Exchanged codecs bridge.streams bridge.exchanges := by
  have all := reachable.invariant
    (fun bridge => Paired codecs bridge.clients bridge.exchanges bridge.pending ∧
      Positioned codecs npub bridge.phase bridge.stream ∧
      Exchanged codecs bridge.streams bridge.exchanges)
    (fun _ _ _ step holds => ⟨step.paired holds.1, step.positioned holds.2.1,
      step.exchanged holds.1 holds.2.1 holds.2.2⟩)
    ⟨paired_start, positioned_start, exchanged_start⟩
  exact all.2.2

theorem reachable_answers {bridge : Bridge} (reachable : Reachable (Step codecs npub) .start bridge) :
    Answers codecs bridge where
  correlates := Calls.correlates_of_reachable (implements_service.reachable reachable)
  own := (reachable_exchanged reachable).own
  once := (reachable_exchanged reachable).once

namespace Sample

open Transparent

def answerTree (id : UInt64) (result : Value) : Value :=
  .object [("id", .number (.posInt id)), ("jsonrpc", .string "2.0"), ("result", result)]

def connectedTree : Value := answerTree 1 (.object [])

def lateTree : Value := answerTree 2 (.array [])

def signature : Value := .object [("signature", .string "q80=")]

def signedTree : Value := answerTree 3 signature

def agentCodecs : Codecs :=
  simpleCodecs ([connectedTree, lateTree, signedTree].map fun tree => (tree.toJson, tree))

def line (tree : Value) : String := tree.toJson ++ "\n"

def success (id : UInt64) (result : Value) : JsonRpcResponse := .success (.number (.posInt id)) result

theorem reads_connected :
    readResponseLine agentCodecs (line connectedTree) = some (success 1 (.object [])) := by
  rfl

theorem reads_late : readResponseLine agentCodecs (line lateTree) = some (success 2 (.array [])) := by
  rfl

theorem reads_signed : readResponseLine agentCodecs (line signedTree) = some (success 3 signature) := by
  rfl

/-- The list of identities comes after the time is up; the client has the
signature that it asks for next. -/
theorem late_run {codecs : Codecs} (npub : String) {connectText lateText signedText : String}
    {connected late signed : JsonRpcResponse} {keyBlob data payload : List UInt8} {flags : UInt32}
    (isConnected : readResponseLine codecs connectText = some connected) (accepted : connected.error = none)
    (isLate : readResponseLine codecs lateText = some late)
    (isSigned : readResponseLine codecs signedText = some signed) (nonempty : 1 ≤ payload.length)
    (small : payload.length ≤ maxPayload)
    (handles : handlePayload payload = .ok (.forwards (.signRequest keyBlob data flags))) :
    ∃ final, Reachable (Step codecs npub) .start final ∧
      final.clients.map Client.payloads = [[[11], payload]] ∧
      final.clients.map Client.answers =
        [[[sshAgentFailure], respond codecs payload (.answered 1 2 3 signedText signed)]] :=
  ⟨_, ⟨_,
    .cons (.accept _) <|
    .cons (@Step.readPayload _ _ _ 0 _ [11] _ rfl rfl (by decide) (by decide) rfl) <|
    .cons (@Step.enqueue _ _ _ 0 _ _ _ rfl rfl (by decide : 0 < 32)) <|
    .cons (@Step.openConnection _ _ _ true rfl) <|
    .cons (@Step.avatarAnswers _ _ _ _ connectText rfl) <|
    .cons (.connected rfl rfl isConnected accepted) <|
    .cons (.takeRequest rfl rfl) <|
    .cons (@Step.timeout _ _ _ 0 _ rfl rfl) <|
    .cons (@Step.avatarAnswers _ _ _ _ lateText rfl) <|
    .cons (.readAnswer rfl rfl isLate) <|
    .cons (@Step.writeAnswer _ _ _ 0 _ _ true rfl rfl) <|
    .cons (@Step.readPayload _ _ _ 0 _ payload _ rfl rfl nonempty small handles) <|
    .cons (@Step.enqueue _ _ _ 0 _ _ _ rfl rfl (by decide : 0 < 32)) <|
    .cons (.takeRequest rfl rfl) <|
    .cons (@Step.avatarAnswers _ _ _ _ signedText rfl) <|
    .cons (.readAnswer rfl rfl isSigned) <|
    .cons (@Step.receive _ _ _ 0 _ _ rfl rfl (List.mem_append_right _ List.mem_cons_self) rfl) <|
    .cons (@Step.writeAnswer _ _ _ 0 _ _ true rfl rfl) <|
    .nil _⟩, rfl, rfl⟩

end Sample

open Sample in
theorem late_run_answers : ∃ final, Reachable (Step agentCodecs "") .start final ∧
    final.clients.map Client.payloads = [[[11], shortSignRequest]] ∧
    final.clients.map Client.answers =
      [[[sshAgentFailure],
        respond agentCodecs shortSignRequest (.answered 1 2 3 (line signedTree) (success 3 signature))]] ∧
    Answers agentCodecs final := by
  have handles : handlePayload shortSignRequest = .ok (.forwards (.signRequest [0xAA] [] 2)) := by
    decide +kernel
  obtain ⟨final, reachable, payloads, answers⟩ :=
    late_run "" reads_connected rfl reads_late reads_signed (by decide) (by decide) handles
  exact ⟨final, reachable, payloads, answers, reachable_answers reachable⟩

end KeyMaster.SshSa

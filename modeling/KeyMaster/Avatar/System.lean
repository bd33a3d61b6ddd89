import KeyMaster.Avatar.LocalApi
import KeyMaster.Avatar.Turns

namespace KeyMaster

open Data

/-! The avatar as a whole: the event loop, the calls of the local API and the
listeners of the per-user sockets, interleaved at their critical sections.
-/

/-- The shared state, and what the handler of the current event has still to do. -/
structure AvatarState (C : Crates) where
  loop : LoopState C
  work : List (Action C)
  localApi : LocalApi C
  sockets : SocketDir

inductive Label (C : Crates) where
  | receive (event : Event C) (io : HandlerIo)
  | perform
  /-- A connection of a per-user listener, or of the default one, forwards a request. -/
  | call (callId : Nat) (listener : Option Nat) (serviceType : String) (request : JsonRpcRequest)
  | publish (callId : Nat) (eventId : C.EventId) (content : String)
  | sendFailed (callId : Nat)
  | register (callId : Nat)
  | timeout (callId : Nat)
  | forget (callId : Nat)
  | finish (callId : Nat)
  /-- A listener's task sees that it is shut down, and cleans up. -/
  | stopListener (turn : Nat)

variable {C : Crates} {config : Config C}

namespace AvatarState

def new : AvatarState C := ⟨.new, [], .new, .new⟩

/-- The label's step can be taken.  Request events are encrypted under fresh
nonces, so that no two share an id. -/
def Enabled (config : Config C) (state : AvatarState C) : Label C → Prop
  | .receive .. => state.work.isEmpty
  | .perform => ¬ state.work.isEmpty
  | .call callId listener _ _ =>
      state.localApi.phase callId = none ∧ (state.sockets.scope config listener).isSome
  | .publish callId eventId _ =>
      state.localApi.phase callId = some .sending ∧ eventId ∉ state.localApi.sentIds
  | .sendFailed callId =>
      -- The relay may have the event although `send_event` fails.
      state.localApi.phase callId = some .sending ∨ state.localApi.phase callId = some .published
  | .register callId => state.localApi.phase callId = some .published
  | .timeout callId => state.localApi.phase callId = some .waiting
  | .forget callId => state.localApi.phase callId = some .expired
  | .finish callId =>
      (state.localApi.phase callId).any fun phase =>
        match phase with
        | .received .. => true
        | _ => false
  | .stopListener turn =>
      ((state.sockets.listeners.lookup turn).any Listener.running) ∧
        state.loop.Stopped (.apiSocket turn)

instance (state : AvatarState C) (label : Label C) : Decidable (state.Enabled config label) := by
  cases label <;> unfold Enabled <;> infer_instance

/-- The state after the label's step.  `table` is the session table in the
order in which the step's lookups find it. -/
def effect (config : Config C) (table : SessionManager C) (state : AvatarState C) :
    Label C → AvatarState C
  | .receive event io =>
      let turn : Turn C := { event, io, table }
      { state with loop := state.loop.begin turn, work := state.loop.actions config turn }
  | .perform =>
      match state.work with
      | [] => state
      | action :: rest =>
          { loop := state.loop.perform action, work := rest,
            localApi := state.localApi.perform action, sockets := state.sockets.perform action }
  | .call callId listener serviceType request =>
      { state with
        localApi := state.localApi.start callId request
          (table.lookupChannel serviceType ((state.sockets.scope config listener).getD none)) }
  | .publish callId eventId content =>
      { state with localApi := state.localApi.publish callId eventId content }
  | .sendFailed callId =>
      { state with localApi := state.localApi.setPhase callId (.returned .sendFailed) }
  | .register callId => { state with localApi := state.localApi.register callId }
  | .timeout callId => { state with localApi := state.localApi.setPhase callId .expired }
  | .forget callId => { state with localApi := state.localApi.forget callId }
  | .finish callId => { state with localApi := state.localApi.finish callId }
  | .stopListener turn => { state with sockets := state.sockets.stop turn }

/-- One step of one task; the table may be iterated in any order. -/
def Step (config : Config C) (before : AvatarState C) (label : Label C) (after : AvatarState C) :
    Prop :=
  before.Enabled config label ∧
    ∃ table, before.loop.mgr.SameContents table ∧ after = before.effect config table label

/-- What the step of one call makes of the call and of the pending map. -/
inductive Advance (api : LocalApi C) :
    Label C → Nat → Call C → HashMap C.EventId Nat → Prop
  | call {callId : Nat} {listener : Option Nat} {serviceType : String} {request : JsonRpcRequest}
      (channel : Option (ChannelInfo C)) (unused : api.calls.lookup callId = none) :
      Advance api (.call callId listener serviceType request) callId
        { request, channel, sent := none,
          phase := if channel.isSome then .sending else .returned .noSession }
        api.pending
  | publish {callId : Nat} {call : Call C} {eventId : C.EventId} {content : String}
      (found : api.calls.lookup callId = some call) (sending : call.phase = .sending)
      (fresh : eventId ∉ api.sentIds) :
      Advance api (.publish callId eventId content) callId
        { call with
          sent := call.channel.map fun channel => serviceRequest channel eventId content
          phase := .published }
        api.pending
  | sendFailed {callId : Nat} {call : Call C} (found : api.calls.lookup callId = some call)
      (sending : call.phase = .sending ∨ call.phase = .published) :
      Advance api (.sendFailed callId) callId { call with phase := .returned .sendFailed }
        api.pending
  | register {callId : Nat} {call : Call C} {eventId : C.EventId}
      (found : api.calls.lookup callId = some call) (published : call.phase = .published)
      (sent : call.eventId = some eventId) :
      Advance api (.register callId) callId { call with phase := .waiting }
        (api.pending.insert eventId callId)
  | timeout {callId : Nat} {call : Call C} (found : api.calls.lookup callId = some call)
      (waiting : call.phase = .waiting) :
      Advance api (.timeout callId) callId { call with phase := .expired } api.pending
  | forget {callId : Nat} {call : Call C} {eventId : C.EventId}
      (found : api.calls.lookup callId = some call) (expired : call.phase = .expired)
      (sent : call.eventId = some eventId) :
      Advance api (.forget callId) callId { call with phase := .returned .timedOut }
        (api.pending.erase eventId)
  | finish {callId : Nat} {call : Call C} {event : Event C} {plaintext : String}
      (found : api.calls.lookup callId = some call)
      (received : call.phase = .received event plaintext) :
      Advance api (.finish callId) callId
        { call with phase := .returned (.answered event plaintext) } api.pending

/-- What a step does: the event loop's or a listener's own, or that of one call. -/
inductive Moves (config : Config C) (before : AvatarState C) : Label C → AvatarState C → Prop
  | receive {event : Event C} {io : HandlerIo} {table : SessionManager C}
      (idle : before.work = []) (order : before.loop.mgr.SameContents table) :
      Moves config before (.receive event io)
        { before with
          loop := before.loop.begin { event, io, table }
          work := before.loop.actions config { event, io, table } }
  | perform {action : Action C} {rest : List (Action C)} (next : before.work = action :: rest) :
      Moves config before .perform
        { loop := before.loop.perform action, work := rest,
          localApi := before.localApi.perform action, sockets := before.sockets.perform action }
  | stopListener {turn : Nat} {listener : Listener}
      (found : before.sockets.listeners.lookup turn = some listener)
      (running : listener.running = true) (stopped : before.loop.Stopped (.apiSocket turn)) :
      Moves config before (.stopListener turn)
        { before with sockets := before.sockets.stop turn }
  | forwarding {label : Label C} {callId : Nat} {call : Call C} {localApi : LocalApi C}
      (advance : Advance before.localApi label callId call localApi.pending)
      (calls : ∀ other, localApi.calls.lookup other =
        if other = callId then some call else before.localApi.calls.lookup other)
      (taken : localApi.taken = before.localApi.taken) :
      Moves config before label { before with localApi }
  | stuttering {label : Label C} : Moves config before label before

variable {before state after : AvatarState C} {label : Label C}

theorem Moves.update {callId : Nat} {call : Call C} {change : Call C → Call C}
    {pending : HashMap C.EventId Nat}
    (found : before.localApi.calls.lookup callId = some call)
    (advance : Advance before.localApi label callId (change call) pending) :
    Moves config before label
      { before with localApi := { before.localApi.update callId change with pending } } := by
  refine .forwarding advance ?_ rfl
  intro other
  refine (HashMap.lookup_modify_eq _ _ _ _).trans ?_
  rw [found, Option.map_some]

theorem Step.moves (step : Step config before label after) : Moves config before label after := by
  obtain ⟨enabled, table, order, rfl⟩ := step
  cases label with
  | receive event io => exact .receive (List.isEmpty_iff.mp enabled) order
  | perform =>
      cases next : before.work with
      | nil => exact absurd (List.isEmpty_iff.mpr next) enabled
      | cons action rest =>
          simp only [effect, next]
          exact .perform next
  | stopListener turn =>
      obtain ⟨running, stopped⟩ := enabled
      obtain ⟨listener, found, isRunning⟩ := (Option.any_eq_true _ _).mp running
      exact .stopListener found isRunning stopped
  | call callId listener serviceType request =>
      exact .forwarding (.call _ (Option.map_eq_none_iff.mp enabled.1))
        (fun other => HashMap.lookup_insert_eq _ _ _ _) rfl
  | publish callId eventId content =>
      obtain ⟨inPhase, fresh⟩ := enabled
      obtain ⟨call, found, sending⟩ := Option.map_eq_some_iff.mp inPhase
      exact .update found (.publish found sending fresh)
  | sendFailed callId =>
      have inPhase : ∃ call, before.localApi.calls.lookup callId = some call ∧
          (call.phase = .sending ∨ call.phase = .published) := by
        rcases enabled with inPhase | inPhase
        · obtain ⟨call, found, sending⟩ := Option.map_eq_some_iff.mp inPhase
          exact ⟨call, found, .inl sending⟩
        · obtain ⟨call, found, published⟩ := Option.map_eq_some_iff.mp inPhase
          exact ⟨call, found, .inr published⟩
      obtain ⟨call, found, sending⟩ := inPhase
      exact .update found (.sendFailed found sending)
  | timeout callId =>
      obtain ⟨call, found, waiting⟩ := Option.map_eq_some_iff.mp enabled
      exact .update found (.timeout found waiting)
  | register callId =>
      obtain ⟨call, found, published⟩ := Option.map_eq_some_iff.mp enabled
      cases sent : call.eventId with
      | none =>
          simp only [effect, LocalApi.register, found, Option.bind_some, sent]
          exact .stuttering
      | some eventId =>
          simp only [effect, LocalApi.register, found, Option.bind_some, sent]
          exact .update found (.register found published sent)
  | forget callId =>
      obtain ⟨call, found, expired⟩ := Option.map_eq_some_iff.mp enabled
      cases sent : call.eventId with
      | none =>
          simp only [effect, LocalApi.forget, found, Option.bind_some, sent]
          exact .stuttering
      | some eventId =>
          simp only [effect, LocalApi.forget, found, Option.bind_some, sent]
          exact .update found (.forget found expired sent)
  | finish callId =>
      obtain ⟨phase, inPhase, isReceived⟩ := (Option.any_eq_true _ _).mp enabled
      obtain ⟨call, found, rfl⟩ := Option.map_eq_some_iff.mp inPhase
      split at isReceived
      · rename_i event plaintext received
        refine .update found ?_
        simp only [received]
        exact .finish found received
      · cases isReceived

theorem Step.of_perform {action : Action C} {rest : List (Action C)}
    (step : Step config before .perform after) (next : before.work = action :: rest) :
    after =
      { loop := before.loop.perform action, work := rest,
        localApi := before.localApi.perform action, sockets := before.sockets.perform action } := by
  obtain ⟨_, table, _, rfl⟩ := step
  simp only [effect, next]

/-! ### The event loop within the avatar -/

/-- The loop handles one of its events: it has performed the first of the
handler's actions and has the rest before it. -/
structure Midst (config : Config C) (loop : LoopState C) (work : List (Action C))
    (start : LoopState C) (turn : Turn C) (performed : List (Action C)) : Prop where
  reachable : Reachable (LoopState.Step config) .new start
  order : start.mgr.SameContents turn.table
  actions : start.actions config turn = performed ++ work
  state : loop = (start.begin turn).run performed

theorem Midst.idle {loop start : LoopState C} {turn : Turn C} {performed : List (Action C)}
    (midst : Midst config loop [] start turn performed) :
    Reachable (LoopState.Step config) .new loop := by
  have whole := midst.actions
  rw [List.append_nil] at whole
  rw [midst.state, ← whole]
  exact midst.reachable.next ⟨midst.order, rfl⟩

/-- Interleaved with all other tasks, the loop runs through the states that its
events lead to one after another. -/
theorem Reachable.midst (reachable : Reachable (Step config) new state) :
    (state.loop = .new ∧ state.work = []) ∨
      ∃ start turn performed, Midst config state.loop state.work start turn performed := by
  refine Data.Reachable.invariant (fun state => (state.loop = .new ∧ state.work = []) ∨
    ∃ start turn performed, Midst config state.loop state.work start turn performed) ?_
    (.inl ⟨rfl, rfl⟩) reachable
  intro before label after step ih
  cases step.moves with
  | @receive event io table idle order =>
      have between : Reachable (LoopState.Step config) .new before.loop := by
        rcases ih with ⟨initial, _⟩ | ⟨_, _, _, midst⟩
        · rw [initial]
          exact ⟨[], .nil _⟩
        · rw [idle] at midst
          exact midst.idle
      exact .inr ⟨before.loop, ⟨event, io, table⟩, [], between, order, rfl, rfl⟩
  | @perform action rest next =>
      rcases ih with ⟨_, idle⟩ | ⟨start, turn, performed, midst⟩
      · rw [idle] at next
        cases next
      · refine .inr ⟨start, turn, performed ++ [action], midst.reachable, midst.order, ?_, ?_⟩
        · rw [midst.actions, next, List.append_assoc, List.singleton_append]
        · rw [LoopState.run_append, ← midst.state]
          rfl
  | stopListener => exact ih
  | forwarding => exact ih
  | stuttering => exact ih

/-- Whatever holds during every turn of the event loop holds of the loop's
state in every state of the avatar. -/
theorem Reachable.during (reachable : Reachable (Step config) new state) :
    state.loop = .new ∨ ∃ start turn, Reachable (LoopState.Step config) .new start ∧
      start.mgr.SameContents turn.table ∧ state.loop ∈ start.during config turn := by
  rcases Reachable.midst reachable with ⟨initial, _⟩ | ⟨start, turn, performed, midst⟩
  · exact .inl initial
  · refine .inr ⟨start, turn, midst.reachable, midst.order, ?_⟩
    rw [LoopState.during, midst.actions, midst.state, LoopState.mem_passed_append]
    exact .inl LoopState.run_mem_passed

theorem Reachable.valid (reachable : Reachable (Step config) new state) :
    state.loop.mgr.Valid := by
  rcases Reachable.during reachable with initial | ⟨start, turn, loopReachable, order, member⟩
  · rw [initial]
    exact SessionManager.valid_new
  · have table := order.valid (LoopState.Reachable.valid loopReachable)
    exact (LoopState.during_stage table member).valid table

/-! ### Runs in the order in which the table is held -/

def replayed (config : Config C) (state : AvatarState C) : List (Label C) → AvatarState C
  | [] => state
  | label :: rest => replayed config (state.effect config state.loop.mgr label) rest

def replay (config : Config C) (state : AvatarState C) :
    List (Label C) → List (Transition (AvatarState C) (Label C))
  | [] => []
  | label :: rest =>
      ⟨state, label, state.effect config state.loop.mgr label⟩ ::
        replay config (state.effect config state.loop.mgr label) rest

def allEnabled (config : Config C) (state : AvatarState C) : List (Label C) → Bool
  | [] => true
  | label :: rest =>
      decide (state.Enabled config label) &&
        allEnabled config (state.effect config state.loop.mgr label) rest

theorem replay_run {labels : List (Label C)} (enabled : allEnabled config state labels = true) :
    Run (Step config) state (replay config state labels) (replayed config state labels) := by
  induction labels generalizing state with
  | nil => exact .nil state
  | cons label rest ih =>
      simp only [allEnabled, Bool.and_eq_true, decide_eq_true_eq] at enabled
      exact .cons ⟨enabled.1, _, .refl _, rfl⟩ (ih enabled.2)

end AvatarState

/-! ### Local requests over the transparent crates -/

namespace Transparent

def localRequest : JsonRpcRequest := ⟨"2.0", "ssh.sign", .null, some (number 1)⟩

def reply {texts : List (String × Value)} (id author : Nat) (request text : String) :
    Event (crates texts) :=
  { event id author text with tags := [["e", request, "", "reply"]] }

end Transparent

end KeyMaster

import KeyMaster.Avatar.System

namespace KeyMaster

open Data

/-! How the calls of the local API, the pending map and the event loop fit together. -/

variable {C : Crates} {config : Config C}

/-! ### What the event loop has still to do -/

def Action.HandlesResponse : Action C → Prop
  | .takePending .. | .deliver .. => True
  | _ => False

/-- A response is handled on its own: its two actions are all that is left to
do, or the second of them. -/
inductive ResponseWork : List (Action C) → Prop
  | none {work : List (Action C)} (other : ∀ action ∈ work, ¬ action.HandlesResponse) :
      ResponseWork work
  | taking {event : Event C} {eventId : C.EventId} {plaintext : String}
      (reply : replyTo event = some eventId) :
      ResponseWork [.takePending event eventId, .deliver event plaintext]
  | delivering {event : Event C} {eventId : C.EventId} {plaintext : String}
      (reply : replyTo event = some eventId) : ResponseWork [.deliver event plaintext]

theorem not_handlesResponse_establishSession {io : HandlerIo} {turn : Nat} {event : Event C}
    {msg : JsonRpcMessage} {params : Value} {action : Action C}
    (member : action ∈ establishSession config io turn event msg params) :
    ¬ action.HandlesResponse := by
  rcases mem_establishSession member with rfl | ⟨channel, _, rfl⟩ | socket | response
  · exact not_false
  · exact not_false
  · obtain ⟨_, _, _, _, rfl | rfl | rfl | rfl | rfl⟩ := mem_createUserSocket socket <;> exact not_false
  · obtain ⟨sent, rfl⟩ := mem_sendResponse response
    exact not_false

theorem responseWork_actions (config : Config C) (before : LoopState C) (turn : Turn C) :
    ResponseWork (before.actions config turn) := by
  cases LoopState.handles config before turn with
  | creates creates =>
      rw [LoopState.actions_of_creates creates]
      exact .none fun _ => not_handlesResponse_establishSession
  | detaches detaches =>
      rw [LoopState.actions_of_detaches detaches]
      refine .none fun action member => ?_
      rcases List.mem_append.mp member with removal | response
      · obtain ⟨sessionId, _, rfl⟩ := Option.map_eq_some_iff.mp (Option.mem_toList.mp removal)
        exact not_false
      · obtain ⟨sent, rfl⟩ := mem_sendResponse response
        exact not_false
  | @responds plaintext _ actions =>
      rw [actions, handleResponse]
      cases reply : replyTo turn.event with
      | none => exact .none fun _ member => nomatch member
      | some eventId => exact .taking reply
  | answers actions =>
      refine .none fun action member => ?_
      obtain ⟨sent, rfl⟩ := actions action member
      exact not_false

theorem ResponseWork.rest {action : Action C} {rest : List (Action C)}
    (work : ResponseWork (action :: rest)) : ResponseWork rest := by
  cases work with
  | none other => exact .none fun action member => other action (List.mem_cons_of_mem _ member)
  | taking reply => exact .delivering reply
  | delivering => exact .none fun _ member => nomatch member

theorem ResponseWork.of_takePending {event : Event C} {eventId : C.EventId}
    {rest : List (Action C)} (work : ResponseWork (.takePending event eventId :: rest)) :
    replyTo event = some eventId ∧ ∃ plaintext, rest = [.deliver event plaintext] := by
  cases work with
  | none other => exact absurd trivial (other _ List.mem_cons_self)
  | taking reply => exact ⟨reply, _, rfl⟩

/-! ### The invariant -/

namespace LocalApi

variable {api : LocalApi C} {callId other : Nat} {call : Call C} {eventId : C.EventId}

theorem mem_sentIds (found : api.calls.lookup callId = some call)
    (sent : call.eventId = some eventId) : eventId ∈ api.sentIds :=
  List.mem_filterMap.mpr ⟨call, HashMap.mem_values.mpr ⟨callId, found⟩, sent⟩

theorem send_origin {event : Event C} {plaintext : String}
    (found : (api.send callId event plaintext).calls.lookup other = some call) :
    ∃ old, api.calls.lookup other = some old ∧
      ((call = old ∧ (old.phase = .waiting → other ≠ callId)) ∨
        (other = callId ∧ old.phase = .waiting ∧
          call = { old with phase := .received event plaintext })) := by
  have lookup := (HashMap.lookup_modify_eq _ _ _ _).symm.trans found
  split at lookup
  · rename_i same
    obtain ⟨old, was, rfl⟩ := Option.map_eq_some_iff.mp lookup
    refine ⟨old, same ▸ was, ?_⟩
    split
    · rename_i waiting
      exact .inr ⟨same, waiting, rfl⟩
    · rename_i notWaiting
      exact .inl ⟨rfl, fun waiting => absurd waiting notWaiting⟩
  · rename_i different
    exact ⟨call, lookup, .inl ⟨rfl, fun _ => different⟩⟩

theorem send_keeps (event : Event C) (plaintext : String)
    (found : api.calls.lookup other = some call) :
    ∃ new, (api.send callId event plaintext).calls.lookup other = some new ∧
      new.eventId = call.eventId := by
  have lookup := HashMap.lookup_modify_eq api.calls callId other fun call =>
    if call.phase = .waiting then { call with phase := .received event plaintext } else call
  split at lookup
  · rename_i same
    subst same
    rw [found, Option.map_some] at lookup
    refine ⟨_, lookup, ?_⟩
    split <;> rfl
  · exact ⟨call, lookup.trans found, rfl⟩

end LocalApi

namespace AvatarState

/-- Request events tell their calls apart, the pending map leads from an event
to the call that sent it, and each waiting call is either in the pending map or
about to be sent its response. -/
structure Coherent (state : AvatarState C) : Prop where
  work : ResponseWork state.work
  unsent : ∀ {callId call}, state.localApi.calls.lookup callId = some call →
    call.phase = .sending → call.eventId = none
  unique : ∀ {first second left right eventId}, state.localApi.calls.lookup first = some left →
    state.localApi.calls.lookup second = some right → left.eventId = some eventId →
    right.eventId = some eventId → first = second
  pending : ∀ {eventId callId}, state.localApi.pending.lookup eventId = some callId →
    ∃ call, state.localApi.calls.lookup callId = some call ∧ call.eventId = some eventId
  taken : ∀ {callId}, state.localApi.taken = some callId →
    ∃ call event plaintext eventId, state.localApi.calls.lookup callId = some call ∧
      state.work = [.deliver event plaintext] ∧ replyTo event = some eventId ∧
      call.eventId = some eventId
  waiting : ∀ {callId call}, state.localApi.calls.lookup callId = some call →
    call.phase = .waiting → state.localApi.taken = some callId ∨
      ∃ eventId, call.eventId = some eventId ∧
        state.localApi.pending.lookup eventId = some callId

theorem coherent_new : (new : AvatarState C).Coherent where
  work := .none fun _ member => nomatch member
  unsent found := nomatch found
  unique found := nomatch found
  pending found := nomatch found
  taken held := nomatch held
  waiting found := nomatch found

section Forwarding

variable {before : AvatarState C} {label : Label C} {callId other : Nat} {call old new : Call C}
  {pending : HashMap C.EventId Nat} {localApi : LocalApi C} {eventId : C.EventId}

theorem Coherent.keeps_eventId (coherent : before.Coherent)
    (advance : Advance before.localApi label callId call pending)
    (found : before.localApi.calls.lookup callId = some old) (sent : old.eventId = some eventId) :
    call.eventId = some eventId := by
  cases advance with
  | call _ unused => cases unused.symm.trans found
  | publish same sending =>
      cases same.symm.trans found
      cases (coherent.unsent found sending).symm.trans sent
  | sendFailed same | register same | timeout same | forget same | finish same =>
      cases same.symm.trans found
      exact sent

theorem Advance.eventId_origin (advance : Advance before.localApi label callId call pending)
    (sent : call.eventId = some eventId) :
    (∃ old, before.localApi.calls.lookup callId = some old ∧ old.eventId = some eventId) ∨
      eventId ∉ before.localApi.sentIds := by
  cases advance with
  | call => cases sent
  | publish found _ fresh =>
      obtain ⟨event, isEvent, rfl⟩ := Option.map_eq_some_iff.mp sent
      obtain ⟨channel, _, rfl⟩ := Option.map_eq_some_iff.mp isEvent
      exact .inr fresh
  | sendFailed found | register found | timeout found | forget found | finish found =>
      exact .inl ⟨_, found, sent⟩

theorem Advance.unsent (advance : Advance before.localApi label callId call pending)
    (sending : call.phase = .sending) : call.eventId = none := by
  cases advance with
  | call => rfl
  | publish | sendFailed | register | timeout | forget | finish => cases sending

theorem Advance.waiting (advance : Advance before.localApi label callId call pending)
    (waiting : call.phase = .waiting) :
    ∃ eventId, call.eventId = some eventId ∧ pending.lookup eventId = some callId := by
  cases advance with
  | call channel =>
      dsimp only at waiting
      split at waiting <;> cases waiting
  | register _ _ sent => exact ⟨_, sent, AList.lookup_insert _⟩
  | publish | sendFailed | timeout | forget | finish => cases waiting

theorem Advance.pending_origin (advance : Advance before.localApi label callId call pending)
    (entry : pending.lookup eventId = some other) :
    before.localApi.pending.lookup eventId = some other ∨
      (other = callId ∧ call.eventId = some eventId) := by
  cases advance with
  | register _ _ sent =>
      rw [HashMap.lookup_insert_eq] at entry
      split at entry
      · rename_i same
        cases entry
        exact .inr ⟨rfl, same ▸ sent⟩
      · exact .inl entry
  | forget =>
      rw [HashMap.lookup_erase_eq] at entry
      split at entry
      · cases entry
      · exact .inl entry
  | call | publish | sendFailed | timeout | finish => exact .inl entry

theorem Coherent.keeps_pending (coherent : before.Coherent)
    (advance : Advance before.localApi label callId call pending) (different : other ≠ callId)
    (entry : before.localApi.pending.lookup eventId = some other) :
    pending.lookup eventId = some other := by
  have apart : ∀ {caller : Call C} {sent : C.EventId},
      before.localApi.calls.lookup callId = some caller → caller.eventId = some sent →
      eventId ≠ sent := by
    rintro caller sent found isSent rfl
    obtain ⟨owner, foundOwner, sentOwner⟩ := coherent.pending entry
    exact different (coherent.unique foundOwner found sentOwner isSent)
  cases advance with
  | register found _ sent =>
      rw [HashMap.lookup_insert_eq, if_neg (apart found sent)]
      exact entry
  | forget found _ sent =>
      rw [HashMap.lookup_erase_eq, if_neg (apart found sent)]
      exact entry
  | call | publish | sendFailed | timeout | finish => exact entry

theorem Coherent.forwarding (coherent : before.Coherent)
    (advance : Advance before.localApi label callId call localApi.pending)
    (calls : ∀ other, localApi.calls.lookup other =
      if other = callId then some call else before.localApi.calls.lookup other)
    (taken : localApi.taken = before.localApi.taken) :
    ({ before with localApi } : AvatarState C).Coherent := by
  -- An event id of a call is the call's own from before, or fresh.
  have origin : ∀ {other new eventId}, localApi.calls.lookup other = some new →
      new.eventId = some eventId →
      (∃ old, before.localApi.calls.lookup other = some old ∧ old.eventId = some eventId) ∨
        (other = callId ∧ eventId ∉ before.localApi.sentIds) := by
    intro other new eventId found sent
    rw [calls] at found
    split at found
    · rename_i same
      cases found
      rcases advance.eventId_origin sent with old | fresh
      · exact .inl (same ▸ old)
      · exact .inr ⟨same, fresh⟩
    · exact .inl ⟨new, found, sent⟩
  have keeps : ∀ {other old eventId}, before.localApi.calls.lookup other = some old →
      old.eventId = some eventId →
      ∃ new, localApi.calls.lookup other = some new ∧ new.eventId = some eventId := by
    intro other old eventId found sent
    rw [calls]
    split
    · rename_i same
      exact ⟨call, rfl, coherent.keeps_eventId advance (same ▸ found) sent⟩
    · exact ⟨old, found, sent⟩
  constructor
  · exact coherent.work
  · intro other new found sending
    rw [calls] at found
    split at found
    · cases found
      exact advance.unsent sending
    · exact coherent.unsent found sending
  · intro first second left right eventId foundLeft foundRight sentLeft sentRight
    rcases origin foundLeft sentLeft with ⟨oldLeft, wasLeft, idLeft⟩ | ⟨isFirst, fresh⟩ <;>
      rcases origin foundRight sentRight with ⟨oldRight, wasRight, idRight⟩ | ⟨isSecond, freshRight⟩
    · exact coherent.unique wasLeft wasRight idLeft idRight
    · exact absurd (LocalApi.mem_sentIds wasLeft idLeft) freshRight
    · exact absurd (LocalApi.mem_sentIds wasRight idRight) fresh
    · exact isFirst.trans isSecond.symm
  · intro eventId other entry
    rcases advance.pending_origin entry with old | ⟨rfl, sent⟩
    · obtain ⟨owner, found, sent⟩ := coherent.pending old
      exact keeps found sent
    · exact ⟨call, by rw [calls, if_pos rfl], sent⟩
  · intro other held
    rw [taken] at held
    obtain ⟨old, event, plaintext, eventId, found, work, reply, sent⟩ := coherent.taken held
    obtain ⟨new, foundNew, sentNew⟩ := keeps found sent
    exact ⟨new, event, plaintext, eventId, foundNew, work, reply, sentNew⟩
  · intro other new found waiting
    rw [calls] at found
    split at found
    · rename_i same
      cases found
      rw [same]
      exact .inr (advance.waiting waiting)
    · rename_i different
      rcases coherent.waiting found waiting with held | ⟨eventId, sent, entry⟩
      · exact .inl (taken.trans held)
      · exact .inr ⟨eventId, sent, coherent.keeps_pending advance different entry⟩

end Forwarding

section Performing

variable {before : AvatarState C} {loop : LoopState C} {sockets : SocketDir}
  {action : Action C} {rest : List (Action C)}

theorem Coherent.not_taken (coherent : before.Coherent)
    (other : ∀ event plaintext, before.work ≠ [.deliver event plaintext]) :
    before.localApi.taken = none := by
  cases held : before.localApi.taken with
  | none => rfl
  | some callId =>
      obtain ⟨_, event, plaintext, _, _, work, _⟩ := coherent.taken held
      exact absurd work (other event plaintext)

theorem Coherent.perform_other (coherent : before.Coherent)
    (next : before.work = action :: rest) (other : ¬ action.HandlesResponse) :
    (⟨loop, rest, before.localApi.perform action, sockets⟩ : AvatarState C).Coherent := by
  have same : before.localApi.perform action = before.localApi := by
    cases action with
    | takePending | deliver => exact absurd trivial other
    | _ => rfl
  have notTaken : before.localApi.taken = none := by
    refine coherent.not_taken fun event plaintext work => ?_
    cases next.symm.trans work
    exact other trivial
  rw [same]
  exact
    { work := (next ▸ coherent.work).rest
      unsent := coherent.unsent
      unique := coherent.unique
      pending := coherent.pending
      taken := fun held => nomatch notTaken.symm.trans held
      waiting := coherent.waiting }

theorem Coherent.perform_takePending (coherent : before.Coherent) {event : Event C}
    {eventId : C.EventId} (next : before.work = .takePending event eventId :: rest) :
    (⟨loop, rest, before.localApi.perform (.takePending event eventId), sockets⟩ :
      AvatarState C).Coherent := by
  obtain ⟨reply, plaintext, rfl⟩ := (next ▸ coherent.work).of_takePending
  have notTaken : before.localApi.taken = none :=
    coherent.not_taken fun _ _ work => nomatch next.symm.trans work
  refine
    { work := .delivering reply
      unsent := coherent.unsent
      unique := coherent.unique
      pending := ?_
      taken := ?_
      waiting := ?_ }
  · intro other callId entry
    rw [LocalApi.perform, HashMap.lookup_erase_eq] at entry
    split at entry
    · cases entry
    · exact coherent.pending entry
  · intro callId held
    obtain ⟨call, found, sent⟩ := coherent.pending held
    exact ⟨call, event, plaintext, eventId, found, rfl, reply, sent⟩
  · intro callId call found waiting
    rcases coherent.waiting found waiting with held | ⟨sentId, sent, entry⟩
    · cases notTaken.symm.trans held
    · by_cases same : sentId = eventId
      · exact .inl (same ▸ entry)
      · refine .inr ⟨sentId, sent, ?_⟩
        rw [LocalApi.perform, HashMap.lookup_erase_eq, if_neg same]
        exact entry

theorem Coherent.perform_deliver (coherent : before.Coherent) {event : Event C}
    {plaintext : String} (next : before.work = .deliver event plaintext :: rest) :
    (⟨loop, rest, before.localApi.perform (.deliver event plaintext), sockets⟩ :
      AvatarState C).Coherent := by
  have work : ResponseWork rest := (next ▸ coherent.work).rest
  cases held : before.localApi.taken with
  | none =>
      simp only [LocalApi.perform, held]
      exact
        { work
          unsent := coherent.unsent
          unique := coherent.unique
          pending := coherent.pending
          taken := fun taken => nomatch held.symm.trans taken
          waiting := coherent.waiting }
  | some receiver =>
      simp only [LocalApi.perform, held]
      refine
        { work
          unsent := ?_
          unique := ?_
          pending := ?_
          taken := fun taken => nomatch taken
          waiting := ?_ }
      · intro other new found sending
        obtain ⟨old, was, ⟨rfl, _⟩ | ⟨_, _, rfl⟩⟩ := LocalApi.send_origin found
        · exact coherent.unsent was sending
        · cases sending
      · have sentBefore : ∀ {other new eventId},
            (before.localApi.send receiver event plaintext).calls.lookup other = some new →
            new.eventId = some eventId →
            ∃ old, before.localApi.calls.lookup other = some old ∧ old.eventId = some eventId := by
          intro other new eventId found sent
          obtain ⟨old, was, ⟨rfl, _⟩ | ⟨_, _, rfl⟩⟩ := LocalApi.send_origin found
          · exact ⟨new, was, sent⟩
          · exact ⟨old, was, sent⟩
        intro first second left right eventId foundLeft foundRight sentLeft sentRight
        obtain ⟨oldLeft, wasLeft, idLeft⟩ := sentBefore foundLeft sentLeft
        obtain ⟨oldRight, wasRight, idRight⟩ := sentBefore foundRight sentRight
        exact coherent.unique wasLeft wasRight idLeft idRight
      · intro eventId other entry
        obtain ⟨old, was, sent⟩ := coherent.pending entry
        obtain ⟨new, found, sameId⟩ := LocalApi.send_keeps event plaintext was
        exact ⟨new, found, sameId.trans sent⟩
      · intro other new found waiting
        obtain ⟨old, was, ⟨rfl, different⟩ | ⟨_, _, rfl⟩⟩ := LocalApi.send_origin found
        · rcases coherent.waiting was waiting with taken | pending
          · exact absurd (Option.some.inj (taken.symm.trans held)) (different waiting)
          · exact .inr pending
        · cases waiting

end Performing

variable {before state after : AvatarState C} {label : Label C}

theorem Step.coherent (step : Step config before label after) (coherent : before.Coherent) :
    after.Coherent := by
  cases step.moves with
  | receive idle order =>
      have notTaken : before.localApi.taken = none :=
        coherent.not_taken fun _ _ work => nomatch idle.symm.trans work
      exact
        { work := responseWork_actions config before.loop _
          unsent := coherent.unsent
          unique := coherent.unique
          pending := coherent.pending
          taken := fun held => nomatch notTaken.symm.trans held
          waiting := coherent.waiting }
  | @perform action rest next =>
      cases action with
      | takePending => exact coherent.perform_takePending next
      | deliver => exact coherent.perform_deliver next
      | _ => exact coherent.perform_other next not_false
  | stopListener =>
      exact
        { work := coherent.work
          unsent := coherent.unsent
          unique := coherent.unique
          pending := coherent.pending
          taken := coherent.taken
          waiting := coherent.waiting }
  | forwarding advance calls taken => exact coherent.forwarding advance calls taken
  | stuttering => exact coherent

theorem Reachable.coherent (reachable : Reachable (Step config) new state) : state.Coherent :=
  Data.Reachable.invariant Coherent (fun _ _ _ step => step.coherent) coherent_new reachable

end AvatarState

end KeyMaster

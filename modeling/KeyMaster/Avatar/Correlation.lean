import KeyMaster.Avatar.Authenticity
import KeyMaster.Avatar.Delivery

namespace KeyMaster

open Data

/-! The pending map matches each response with the call that sent its request. -/

variable {C : Crates} {config : Config C}

/-! ### Plaintexts -/

theorem decryptEvent_of_response {mgr : SessionManager C} {event : Event C} {plaintext : String}
    (incoming : readEvent config mgr event = .response plaintext) :
    decryptEvent config mgr event = some plaintext := by
  unfold readEvent at incoming
  split at incoming
  · cases incoming
  · rename_i text decrypted
    split at incoming
    · cases incoming
    · split at incoming
      · cases incoming
        exact decrypted
      · split at incoming
        · cases incoming
        · split at incoming
          · cases incoming
          · split at incoming <;> cases incoming

theorem decryptEvent_of_actions {before : LoopState C} {turn : Turn C} {event : Event C}
    {plaintext : String} (member : Action.deliver event plaintext ∈ before.actions config turn) :
    decryptEvent config turn.table event = some plaintext := by
  cases LoopState.handles config before turn with
  | creates creates =>
      rw [LoopState.actions_of_creates creates] at member
      exact absurd trivial (not_handlesResponse_establishSession member)
  | detaches detaches =>
      rw [LoopState.actions_of_detaches detaches] at member
      rcases List.mem_append.mp member with removal | response
      · obtain ⟨sessionId, _, same⟩ := Option.map_eq_some_iff.mp (Option.mem_toList.mp removal)
        cases same
      · obtain ⟨sent, same⟩ := mem_sendResponse response
        cases same
  | answers actions =>
      obtain ⟨sent, same⟩ := actions _ member
      cases same
  | responds incoming actions =>
      rw [actions, handleResponse] at member
      split at member
      · simp only [List.mem_cons, reduceCtorEq, Action.deliver.injEq, List.not_mem_nil, or_false,
          false_or] at member
        obtain ⟨rfl, rfl⟩ := member
        exact decryptEvent_of_response incoming
      · cases member

/-- Before a response is delivered, nothing but its own actions is done. -/
theorem ResponseWork.handlesResponse {action : Action C} {rest : List (Action C)} {event : Event C}
    {plaintext : String} (work : ResponseWork (action :: rest))
    (member : Action.deliver event plaintext ∈ rest) : action.HandlesResponse := by
  cases work with
  | none other => exact absurd trivial (other _ (List.mem_cons_of_mem _ member))
  | taking | delivering => trivial

namespace AvatarState

variable {before after final : AvatarState C} {label : Label C} {callId other : Nat}
  {call : Call C} {event : Event C} {eventId : C.EventId} {plaintext : String}
  {trace : List (Transition (AvatarState C) (Label C))}

/-! ### The invariant -/

/-- The entries of the pending map are those of calls that wait or have just
timed out; what is to be delivered is the plaintext of the event that is being
handled, and what a call has got is a response to its own request. -/
structure Correlated (config : Config C) (state : AvatarState C) : Prop where
  entry : ∀ {eventId callId call}, state.localApi.pending.lookup eventId = some callId →
    state.localApi.calls.lookup callId = some call →
    call.phase = .waiting ∨ call.phase = .expired
  takenOut : ∀ {eventId callId}, state.localApi.taken = some callId →
    state.localApi.pending.lookup eventId ≠ some callId
  taken : ∀ {callId call}, state.localApi.taken = some callId →
    state.localApi.calls.lookup callId = some call →
    call.phase = .waiting ∨ call.phase = .expired ∨ call.phase = .returned .timedOut
  plaintext : ∀ {event plaintext}, Action.deliver event plaintext ∈ state.work →
    decryptEvent config state.loop.mgr event = some plaintext
  answer : ∀ {callId call event plaintext}, state.localApi.calls.lookup callId = some call →
    call.CompletedWith event plaintext →
    ∃ eventId, call.eventId = some eventId ∧ replyTo event = some eventId

theorem correlated_new : (new : AvatarState C).Correlated config where
  entry found := nomatch found
  takenOut held := nomatch held
  taken held := nomatch held
  plaintext member := nomatch member
  answer found := nomatch found

section Forwarding

variable {old : Call C} {pending : HashMap C.EventId Nat}

theorem Correlated.entry_of_advance (correlated : before.Correlated config)
    (coherent : before.Coherent) (advance : Advance before.localApi label callId call pending)
    (entry : pending.lookup eventId = some callId) :
    call.phase = .waiting ∨ call.phase = .expired := by
  have impossible : ∀ {old : Call C}, before.localApi.calls.lookup callId = some old →
      before.localApi.pending.lookup eventId = some callId → old.phase ≠ .waiting →
      old.phase ≠ .expired → False := fun found entry notWaiting notExpired =>
    (correlated.entry entry found).elim notWaiting notExpired
  cases advance with
  | register => exact .inl rfl
  | timeout => exact .inr rfl
  | call _ unused =>
      obtain ⟨caller, found, _⟩ := coherent.pending entry
      cases unused.symm.trans found
  | publish found phase => exact (impossible found entry (by simp [phase]) (by simp [phase])).elim
  | finish found phase => exact (impossible found entry (by simp [phase]) (by simp [phase])).elim
  | sendFailed found phase =>
      rcases phase with phase | phase <;>
        exact (impossible found entry (by simp [phase]) (by simp [phase])).elim
  | forget found _ sent =>
      rw [HashMap.lookup_erase_eq] at entry
      split at entry
      · cases entry
      · rename_i different
        obtain ⟨caller, foundCaller, sentCaller⟩ := coherent.pending entry
        cases found.symm.trans foundCaller
        cases sent.symm.trans sentCaller
        exact absurd rfl different

/-- A call whose sender was taken out can only time out by itself. -/
theorem Advance.of_taken (advance : Advance before.localApi label callId call pending)
    (found : before.localApi.calls.lookup callId = some old)
    (phase : old.phase = .waiting ∨ old.phase = .expired ∨ old.phase = .returned .timedOut) :
    (call.phase = .waiting ∨ call.phase = .expired ∨ call.phase = .returned .timedOut) ∧
      (pending = before.localApi.pending ∨
        ∃ eventId, pending = before.localApi.pending.erase eventId) := by
  cases advance with
  | timeout => exact ⟨.inr (.inl rfl), .inl rfl⟩
  | forget => exact ⟨.inr (.inr rfl), .inr ⟨_, rfl⟩⟩
  | call _ unused => cases unused.symm.trans found
  | publish same here | register same here | finish same here =>
      cases same.symm.trans found
      simp [here] at phase
  | sendFailed same here =>
      cases same.symm.trans found
      rcases here with here | here <;> simp [here] at phase

theorem Correlated.forwarding (correlated : before.Correlated config) (coherent : before.Coherent)
    {localApi : LocalApi C}
    (advance : Advance before.localApi label callId call localApi.pending)
    (calls : ∀ other, localApi.calls.lookup other =
      if other = callId then some call else before.localApi.calls.lookup other)
    (taken : localApi.taken = before.localApi.taken) :
    ({ before with localApi } : AvatarState C).Correlated config := by
  refine ⟨?_, ?_, ?_, correlated.plaintext, ?_⟩
  · intro eventId other new entry found
    rw [calls] at found
    split at found
    · rename_i same
      cases found
      subst same
      exact correlated.entry_of_advance coherent advance entry
    · rename_i different
      rcases advance.pending_origin entry with old | ⟨same, _⟩
      · exact correlated.entry old found
      · exact absurd same different
  · intro eventId other held entry
    have heldBefore := taken.symm.trans held
    rcases advance.pending_origin entry with old | ⟨rfl, _⟩
    · exact correlated.takenOut heldBefore old
    · obtain ⟨old, _, _, _, found, _⟩ := coherent.taken heldBefore
      obtain ⟨_, same | ⟨erased, same⟩⟩ :=
        advance.of_taken found (correlated.taken heldBefore found)
      · exact correlated.takenOut heldBefore (same ▸ entry)
      · have kept := same ▸ entry
        rw [HashMap.lookup_erase_eq] at kept
        split at kept
        · cases kept
        · exact correlated.takenOut heldBefore kept
  · intro other new held found
    have heldBefore := taken.symm.trans held
    rw [calls] at found
    split at found
    · rename_i same
      cases found
      subst same
      obtain ⟨old, _, _, _, was, _⟩ := coherent.taken heldBefore
      exact (advance.of_taken was (correlated.taken heldBefore was)).1
    · exact correlated.taken heldBefore found
  · intro other new event plaintext found completed
    rw [calls] at found
    split at found
    · cases found
      obtain ⟨old, was, completedBefore, _⟩ := advance.completed completed
      obtain ⟨eventId, sent, reply⟩ := correlated.answer was completedBefore
      exact ⟨eventId, coherent.keeps_eventId advance was sent, reply⟩
    · exact correlated.answer found completed

end Forwarding

section Performing

variable {loop : LoopState C} {sockets : SocketDir} {rest : List (Action C)}

theorem Correlated.perform_takePending (correlated : before.Correlated config)
    (coherent : before.Coherent) (next : before.work = .takePending event eventId :: rest)
    (sameTable : loop.mgr = before.loop.mgr) :
    (⟨loop, rest, before.localApi.perform (.takePending event eventId), sockets⟩ :
      AvatarState C).Correlated config := by
  refine ⟨?_, ?_, ?_, ?_, correlated.answer⟩
  · intro other callId call entry found
    rw [LocalApi.perform, HashMap.lookup_erase_eq] at entry
    split at entry
    · cases entry
    · exact correlated.entry entry found
  · intro other callId held entry
    rw [LocalApi.perform, HashMap.lookup_erase_eq] at entry
    split at entry
    · cases entry
    · rename_i different
      obtain ⟨call, found, sent⟩ := coherent.pending entry
      obtain ⟨same, foundSame, sentSame⟩ := coherent.pending held
      cases found.symm.trans foundSame
      cases sent.symm.trans sentSame
      exact different rfl
  · intro callId call held found
    exact (correlated.entry held found).imp_right .inl
  · intro event plaintext member
    rw [sameTable]
    exact correlated.plaintext (next ▸ List.mem_cons_of_mem _ member)

theorem Correlated.perform_deliver (correlated : before.Correlated config)
    (coherent : before.Coherent) (next : before.work = .deliver event plaintext :: rest)
    (sameTable : loop.mgr = before.loop.mgr) :
    (⟨loop, rest, before.localApi.perform (.deliver event plaintext), sockets⟩ :
      AvatarState C).Correlated config := by
  have texts : ∀ {event plaintext}, Action.deliver event plaintext ∈ rest →
      decryptEvent config loop.mgr event = some plaintext := by
    intro event plaintext member
    rw [sameTable]
    exact correlated.plaintext (next ▸ List.mem_cons_of_mem _ member)
  cases held : before.localApi.taken with
  | none =>
      simp only [LocalApi.perform, held]
      exact ⟨correlated.entry, correlated.takenOut, correlated.taken, texts, correlated.answer⟩
  | some receiver =>
      simp only [LocalApi.perform, held]
      refine ⟨?_, ?_, ?_, texts, ?_⟩
      · intro eventId callId call entry found
        obtain ⟨old, was, ⟨rfl, _⟩ | ⟨rfl, _, _⟩⟩ := LocalApi.send_origin found
        · exact correlated.entry entry was
        · exact absurd entry (correlated.takenOut held)
      · intro eventId callId taken
        cases taken
      · intro callId call taken
        cases taken
      · intro callId call answer text found completed
        obtain ⟨old, was, ⟨rfl, _⟩ | ⟨rfl, _, rfl⟩⟩ := LocalApi.send_origin found
        · exact correlated.answer was completed
        · rcases completed with received | returned
          · cases received
            obtain ⟨caller, _, _, eventId, foundCaller, work, reply, sent⟩ := coherent.taken held
            cases was.symm.trans foundCaller
            cases next.symm.trans work
            exact ⟨eventId, sent, reply⟩
          · cases returned

end Performing

theorem Step.correlated (step : Step config before label after) (coherent : before.Coherent)
    (correlated : before.Correlated config) : after.Correlated config := by
  cases step.moves with
  | receive =>
      exact ⟨correlated.entry, correlated.takenOut, correlated.taken, decryptEvent_of_actions,
        correlated.answer⟩
  | stopListener | stuttering =>
      exact ⟨correlated.entry, correlated.takenOut, correlated.taken, correlated.plaintext,
        correlated.answer⟩
  | forwarding advance calls taken => exact correlated.forwarding coherent advance calls taken
  | @perform action rest next =>
      cases action with
      | takePending => exact correlated.perform_takePending coherent next rfl
      | deliver => exact correlated.perform_deliver coherent next rfl
      | _ =>
          refine ⟨correlated.entry, correlated.takenOut, correlated.taken, ?_, correlated.answer⟩
          exact fun member => ((next ▸ coherent.work).handlesResponse member).elim

theorem Reachable.correlated (reachable : Reachable (Step config) new after) :
    after.Correlated config :=
  (Data.Reachable.invariant (fun state => state.Coherent ∧ state.Correlated config)
    (fun _ _ _ step ih => ⟨step.coherent ih.1, step.correlated ih.1 ih.2⟩)
    ⟨coherent_new, correlated_new⟩ reachable).2

/-! ### Receiving a response -/

def Receives (transition : Transition (AvatarState C) (Label C)) (callId : Nat) (event : Event C)
    (plaintext : String) : Prop :=
  transition.before.localApi.phase callId ≠ some (.received event plaintext) ∧
    transition.after.localApi.phase callId = some (.received event plaintext)

theorem Advance.not_received {api : LocalApi C} {pending : HashMap C.EventId Nat}
    (advance : Advance api label callId call pending) : call.phase ≠ .received event plaintext := by
  cases advance with
  | call channel => cases channel <;> simp
  | publish | sendFailed | register | timeout | forget | finish => simp

/-- A response is received when it is delivered, by a call that waits for it. -/
theorem Receives.delivers (step : Step config before label after)
    (receives : Receives ⟨before, label, after⟩ callId event plaintext) :
    before.localApi.phase callId = some .waiting ∧
      Action.deliver event plaintext ∈ before.work := by
  obtain ⟨notYet, now⟩ := receives
  dsimp only at notYet now
  cases step.moves with
  | receive | stopListener | stuttering => exact absurd now notYet
  | forwarding advance calls =>
      obtain ⟨new, found, phase⟩ := LocalApi.phase_eq_some.mp now
      rw [calls] at found
      split at found
      · cases found
        exact absurd phase advance.not_received
      · exact absurd (LocalApi.phase_eq_some.mpr ⟨new, found, phase⟩) notYet
  | @perform action rest next =>
      cases action with
      | deliver =>
          cases held : before.localApi.taken with
          | none =>
              simp only [LocalApi.perform, held] at now
              exact absurd now notYet
          | some receiver =>
              simp only [LocalApi.perform, held] at now
              obtain ⟨new, found, phase⟩ := LocalApi.phase_eq_some.mp now
              obtain ⟨old, was, ⟨rfl, _⟩ | ⟨_, waiting, rfl⟩⟩ := LocalApi.send_origin found
              · exact absurd (LocalApi.phase_eq_some.mpr ⟨new, was, phase⟩) notYet
              · cases phase
                exact ⟨LocalApi.phase_eq_some.mpr ⟨old, was, waiting⟩, next ▸ List.mem_cons_self⟩
      | _ => exact absurd now notYet

def Completed (state : AvatarState C) (callId : Nat) (event : Event C) (plaintext : String) :
    Prop :=
  state.localApi.phase callId = some (.received event plaintext) ∨
    state.localApi.phase callId = some (.returned (.answered event plaintext))

theorem Step.completed (step : Step config before label after)
    (completed : before.Completed callId event plaintext) :
    after.Completed callId event plaintext :=
  completed.elim step.received fun phase => .inr (step.returned phase)

theorem Run.completed {state : AvatarState C} (run : Run (Step config) state trace final)
    (completed : state.Completed callId event plaintext) :
    ∀ transition ∈ trace, transition.before.Completed callId event plaintext :=
  (Data.Run.invariant_along (fun state => state.Completed callId event plaintext) (fun _ => True)
    (fun _ step _ ih => step.completed ih) run completed fun _ _ => trivial).2

theorem Completed.not_waiting (completed : before.Completed callId event plaintext) :
    before.localApi.phase callId ≠ some .waiting := by
  intro waiting
  rcases completed with phase | phase <;> cases waiting.symm.trans phase

/-- A response completes the call that sent the request it names, and no other. -/
theorem Completed.unique (coherent : after.Coherent) (correlated : after.Correlated config)
    {text : String} (left : after.Completed callId event plaintext)
    (right : after.Completed other event text) : callId = other := by
  have named : ∀ {callId text}, after.Completed callId event text →
      ∃ call eventId, after.localApi.calls.lookup callId = some call ∧
        call.eventId = some eventId ∧ replyTo event = some eventId := by
    intro callId text completed
    rcases completed with phase | phase
    · obtain ⟨call, found, received⟩ := LocalApi.phase_eq_some.mp phase
      obtain ⟨eventId, sent, reply⟩ := correlated.answer found (.inl received)
      exact ⟨call, eventId, found, sent, reply⟩
    · obtain ⟨call, found, returned⟩ := LocalApi.phase_eq_some.mp phase
      obtain ⟨eventId, sent, reply⟩ := correlated.answer found (.inr returned)
      exact ⟨call, eventId, found, sent, reply⟩
  obtain ⟨leftCall, leftId, foundLeft, sentLeft, replyLeft⟩ := named left
  obtain ⟨rightCall, rightId, foundRight, sentRight, replyRight⟩ := named right
  cases replyLeft.symm.trans replyRight
  exact coherent.unique foundLeft foundRight sentLeft sentRight

/-! ### Frame -/

/-- An entry changes only when its own call registers or forgets it, or when a
response to its own request is looked up. -/
theorem Step.pending_frame (step : Step config before label after)
    (changed : after.localApi.pending.lookup eventId ≠ before.localApi.pending.lookup eventId) :
    (∃ callId call, (label = .register callId ∨ label = .forget callId) ∧
        before.localApi.calls.lookup callId = some call ∧ call.eventId = some eventId) ∨
      (label = .perform ∧ ∃ event rest, before.work = .takePending event eventId :: rest) := by
  have byCall : ∀ {callId call pending}, Advance before.localApi label callId call pending →
      pending.lookup eventId ≠ before.localApi.pending.lookup eventId →
      ∃ callId call, (label = .register callId ∨ label = .forget callId) ∧
        before.localApi.calls.lookup callId = some call ∧ call.eventId = some eventId := by
    intro callId call pending advance changed
    cases advance with
    | register found _ sent =>
        rw [HashMap.lookup_insert_eq] at changed
        split at changed
        · rename_i same
          exact ⟨callId, _, .inl rfl, found, same ▸ sent⟩
        · exact absurd rfl changed
    | forget found _ sent =>
        rw [HashMap.lookup_erase_eq] at changed
        split at changed
        · rename_i same
          exact ⟨callId, _, .inr rfl, found, same ▸ sent⟩
        · exact absurd rfl changed
    | call | publish | sendFailed | timeout | finish => exact absurd rfl changed
  cases step.moves with
  | receive | stopListener | stuttering => exact absurd rfl changed
  | forwarding advance => exact .inl (byCall advance changed)
  | @perform action rest next =>
      cases action with
      | takePending event taken =>
          rw [LocalApi.perform, HashMap.lookup_erase_eq] at changed
          split at changed
          · rename_i same
            subst same
            exact .inr ⟨rfl, event, rest, next⟩
          · exact absurd rfl changed
      | deliver =>
          cases held : before.localApi.taken <;> simp [LocalApi.perform, held, LocalApi.send,
            LocalApi.update] at changed
      | _ => exact absurd rfl changed

/-! ### Runs -/

/-- What the pending map guarantees over a run. -/
structure PendingCorrelation (config : Config C)
    (trace : List (Transition (AvatarState C) (Label C))) : Prop where
  /-- A call gets what the event decrypts to by the session table of its turn. -/
  own : ∀ transition ∈ trace, ∀ callId event plaintext,
    Receives transition callId event plaintext →
      decryptEvent config transition.before.loop.mgr event = some plaintext ∧
        ∃ call eventId, transition.after.localApi.calls.lookup callId = some call ∧
          call.eventId = some eventId ∧ replyTo event = some eventId
  once : ∀ earlier transition later, trace = earlier ++ transition :: later →
    ∀ callId event plaintext, Receives transition callId event plaintext →
      ∀ next ∈ later, ∀ other answer text, Receives next other answer text →
        other ≠ callId ∧ answer ≠ event
  frame : ∀ transition ∈ trace, ∀ eventId,
    transition.after.localApi.pending.lookup eventId ≠
        transition.before.localApi.pending.lookup eventId →
      (∃ callId call,
          (transition.label = .register callId ∨ transition.label = .forget callId) ∧
          transition.before.localApi.calls.lookup callId = some call ∧
          call.eventId = some eventId) ∨
        (transition.label = .perform ∧
          ∃ event rest, transition.before.work = .takePending event eventId :: rest)
  /-- Registering a call replaces no other sender, which would drop its channel. -/
  undropped : ∀ transition ∈ trace, ∀ callId call eventId,
    transition.label = .register callId →
      transition.before.localApi.calls.lookup callId = some call → call.eventId = some eventId →
      transition.before.localApi.pending.lookup eventId = none
  returned : ∀ transition ∈ trace, ∀ callId call outcome eventId,
    transition.after.localApi.calls.lookup callId = some call → call.phase = .returned outcome →
      call.eventId = some eventId → transition.after.localApi.pending.lookup eventId = none
  keys : ∀ transition ∈ trace, ∀ eventId callId,
    transition.after.localApi.pending.lookup eventId = some callId →
      ∃ call, transition.after.localApi.calls.lookup callId = some call ∧
        call.eventId = some eventId ∧ (call.phase = .waiting ∨ call.phase = .expired)

theorem Correlated.keys {state : AvatarState C} (correlated : state.Correlated config)
    (coherent : state.Coherent) (entry : state.localApi.pending.lookup eventId = some callId) :
    ∃ call, state.localApi.calls.lookup callId = some call ∧ call.eventId = some eventId ∧
      (call.phase = .waiting ∨ call.phase = .expired) := by
  obtain ⟨call, found, sent⟩ := coherent.pending entry
  exact ⟨call, found, sent, correlated.entry entry found⟩

theorem Correlated.absent {state : AvatarState C} (correlated : state.Correlated config)
    (coherent : state.Coherent) (found : state.localApi.calls.lookup callId = some call)
    (sent : call.eventId = some eventId) (notWaiting : call.phase ≠ .waiting)
    (notExpired : call.phase ≠ .expired) : state.localApi.pending.lookup eventId = none := by
  cases entry : state.localApi.pending.lookup eventId with
  | none => rfl
  | some owner =>
      obtain ⟨caller, foundOwner, sentOwner, phase⟩ := correlated.keys coherent entry
      cases coherent.unique found foundOwner sent sentOwner
      cases found.symm.trans foundOwner
      exact (phase.elim notWaiting notExpired).elim

theorem run_pendingCorrelation (run : Run (Step config) new trace final) :
    PendingCorrelation config trace := by
  have reached : ∀ transition ∈ trace, transition.after.Coherent ∧
      transition.after.Correlated config := by
    intro transition member
    have after := (run.reachable_before member).next (run.step_of_mem member)
    exact ⟨Reachable.coherent after, Reachable.correlated after⟩
  have own : ∀ transition ∈ trace, ∀ callId event plaintext,
      Receives transition callId event plaintext →
        decryptEvent config transition.before.loop.mgr event = some plaintext ∧
          ∃ call eventId, transition.after.localApi.calls.lookup callId = some call ∧
            call.eventId = some eventId ∧ replyTo event = some eventId := by
    intro transition member callId event plaintext receives
    obtain ⟨call, found, phase⟩ := LocalApi.phase_eq_some.mp receives.2
    obtain ⟨eventId, sent, reply⟩ := (reached transition member).2.answer found (.inl phase)
    have delivers := (receives.delivers (run.step_of_mem member)).2
    exact ⟨(Reachable.correlated (run.reachable_before member)).plaintext delivers, call, eventId,
      found, sent, reply⟩
  refine ⟨own, ?_, ?_, ?_, ?_, ?_⟩
  · rintro earlier transition later rfl callId event plaintext receives next member other answer
      text nextReceives
    obtain ⟨middle, _, rest⟩ := run.unappend
    cases rest with
    | cons taken tail =>
        have nextStep := tail.step_of_mem member
        have held := Run.completed tail (.inl receives.2) next member
        have different : other ≠ callId := by
          rintro rfl
          exact held.not_waiting (nextReceives.delivers nextStep).1
        refine ⟨different, ?_⟩
        rintro rfl
        obtain ⟨coherent, correlated⟩ := reached next
          (List.mem_append_right _ (List.mem_cons_of_mem _ member))
        exact different (Completed.unique coherent correlated (.inl nextReceives.2)
          (nextStep.completed held))
  · exact fun transition member eventId => (run.step_of_mem member).pending_frame
  · intro transition member callId call eventId isRegister found sent
    have before := run.reachable_before member
    have step := run.step_of_mem member
    have published : transition.before.localApi.phase callId = some .published := by
      have enabled := step.1
      rw [isRegister] at enabled
      exact enabled
    obtain ⟨same, foundSame, phase⟩ := LocalApi.phase_eq_some.mp published
    cases found.symm.trans foundSame
    exact (Reachable.correlated before).absent (Reachable.coherent before) found sent
      (by simp [phase]) (by simp [phase])
  · intro transition member callId call outcome eventId found phase sent
    obtain ⟨coherent, correlated⟩ := reached transition member
    exact correlated.absent coherent found sent (by simp [phase]) (by simp [phase])
  · intro transition member eventId callId entry
    obtain ⟨coherent, correlated⟩ := reached transition member
    exact correlated.keys coherent entry

end AvatarState

namespace Transparent

def answeredLabels : List (Label (crates answerTexts)) :=
  [.receive (event 10 2 "attach") io, .perform, .perform, .perform,
   .call 0 none "ssh" localRequest, .publish 0 20 "", .register 0,
   .call 1 none "ssh" localRequest, .publish 1 21 "", .register 1,
   .receive (reply 22 2 "21" "answer") io, .perform, .perform, .finish 1, .timeout 0, .forget 0]

end Transparent

open AvatarState Transparent in
theorem answered_run_pendingCorrelation :
    PendingCorrelation (avatar answerTexts) (replay (avatar answerTexts) new answeredLabels) :=
  run_pendingCorrelation (replay_run (by decide +kernel))

end KeyMaster

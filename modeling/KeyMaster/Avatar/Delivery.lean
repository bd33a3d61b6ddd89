import KeyMaster.Avatar.PendingCalls

namespace KeyMaster

open Data

/-! Whether a response that is handled in time reaches the call that waits for it. -/

variable {C : Crates} {config : Config C}

namespace LocalApi

variable {api : LocalApi C} {callId other : Nat} {call : Call C} {action : Action C}

theorem phase_eq_some {phase : Phase C} :
    api.phase callId = some phase ↔
      ∃ call, api.calls.lookup callId = some call ∧ call.phase = phase :=
  Option.map_eq_some_iff

theorem phase_of_lookup (found : api.calls.lookup callId = some call) :
    api.phase callId = some call.phase := by
  rw [phase, found, Option.map_some]

theorem lookup_setPhase (found : api.calls.lookup callId = some call) (phase : Phase C) :
    (api.setPhase callId phase).calls.lookup callId = some { call with phase } := by
  refine (HashMap.lookup_modify_eq _ _ _ _).trans ?_
  rw [if_pos rfl, found, Option.map_some]

theorem lookup_perform (found : api.calls.lookup callId = some call)
    (settled : call.phase ≠ .waiting) :
    (api.perform action).calls.lookup callId = some call := by
  cases action with
  | deliver event plaintext =>
      cases held : api.taken with
      | none =>
          simp only [perform, held]
          exact found
      | some receiver =>
          simp only [perform, held]
          refine (HashMap.lookup_modify_eq _ _ _ _).trans ?_
          split
          · rename_i same
            rw [← same, found, Option.map_some, if_neg settled]
          · exact found
  | _ => exact found

end LocalApi

namespace AvatarState

variable {before state after final : AvatarState C} {label : Label C} {callId : Nat}
  {call : Call C} {event : Event C} {eventId : C.EventId} {plaintext : String}
  {trace : List (Transition (AvatarState C) (Label C))}

def CanReturn (config : Config C) (state : AvatarState C) (callId : Nat) (event : Event C)
    (plaintext : String) : Prop :=
  ∃ more last, Run (Step config) state more last ∧
    last.localApi.phase callId = some (.returned (.answered event plaintext))

/-- However the tasks are scheduled from here on, the call returns the response
and nothing else, as long as its timer does not fire before the response is
handed over: it can always still return it, and a call returns only once. -/
def Returns (config : Config C) (state : AvatarState C) (callId : Nat) (event : Event C)
    (plaintext : String) : Prop :=
  ∀ trace final, Run (Step config) state trace final →
    (∀ transition ∈ trace, transition.label = .timeout callId →
      Action.deliver event plaintext ∉ transition.before.work) →
    CanReturn config final callId event plaintext

section Advance

variable {api : LocalApi C} {old : Call C} {pending : HashMap C.EventId Nat}

theorem Advance.not_returned (advance : Advance api label callId call pending)
    (found : api.calls.lookup callId = some old) (outcome : Outcome C) :
    old.phase ≠ .returned outcome := by
  intro phase
  cases advance with
  | call _ unused => cases unused.symm.trans found
  | publish same here | register same here | timeout same here | forget same here
  | finish same here =>
      cases same.symm.trans found
      cases here.symm.trans phase
  | sendFailed same here =>
      cases same.symm.trans found
      rcases here with here | here <;> cases here.symm.trans phase

theorem Advance.of_waiting (advance : Advance api label callId call pending)
    (found : api.calls.lookup callId = some old) (phase : old.phase = .waiting) :
    label = .timeout callId := by
  cases advance with
  | call _ unused => cases unused.symm.trans found
  | timeout => rfl
  | publish same here | register same here | forget same here | finish same here =>
      cases same.symm.trans found
      cases here.symm.trans phase
  | sendFailed same here =>
      cases same.symm.trans found
      rcases here with here | here <;> cases here.symm.trans phase

theorem Advance.of_received (advance : Advance api label callId call pending)
    (found : api.calls.lookup callId = some old) (phase : old.phase = .received event plaintext) :
    call.phase = .returned (.answered event plaintext) := by
  cases advance with
  | call _ unused => cases unused.symm.trans found
  | finish same here =>
      cases same.symm.trans found
      cases here.symm.trans phase
      rfl
  | publish same here | register same here | timeout same here | forget same here =>
      cases same.symm.trans found
      cases here.symm.trans phase
  | sendFailed same here =>
      cases same.symm.trans found
      rcases here with here | here <;> cases here.symm.trans phase

end Advance

/-! ### A returned call -/

theorem Step.returned (step : Step config before label after) {outcome : Outcome C}
    (returned : before.localApi.phase callId = some (.returned outcome)) :
    after.localApi.phase callId = some (.returned outcome) := by
  obtain ⟨call, found, phase⟩ := LocalApi.phase_eq_some.mp returned
  cases step.moves with
  | receive | stopListener | stuttering => exact returned
  | perform =>
      have settled : call.phase ≠ .waiting := by
        rw [phase]
        exact nofun
      exact LocalApi.phase_eq_some.mpr ⟨call, LocalApi.lookup_perform found settled, phase⟩
  | forwarding advance calls =>
      refine LocalApi.phase_eq_some.mpr ⟨call, ?_, phase⟩
      rw [calls, if_neg]
      · exact found
      · rintro rfl
        exact advance.not_returned found outcome phase

theorem Run.returned (run : Run (Step config) state trace final) {outcome : Outcome C}
    (returned : state.localApi.phase callId = some (.returned outcome)) :
    final.localApi.phase callId = some (.returned outcome) :=
  (Data.Run.invariant_along (fun state => state.localApi.phase callId = some (.returned outcome))
    (fun _ => True) (fun _ step _ => step.returned) run returned fun _ _ => trivial).1

/-! ### A waiting call -/

/-- How far the response has come on its way to the call. -/
inductive Delivering (state : AvatarState C) (callId : Nat) (eventId : C.EventId)
    (event : Event C) (plaintext : String) : Prop
  | looking (work : state.work = [.takePending event eventId, .deliver event plaintext])
      (entry : state.localApi.pending.lookup eventId = some callId)
      (waiting : state.localApi.phase callId = some .waiting)
  | sending (work : state.work = [.deliver event plaintext])
      (taken : state.localApi.taken = some callId)
      (waiting : state.localApi.phase callId = some .waiting)
  | received (phase : state.localApi.phase callId = some (.received event plaintext))
  | returned (phase : state.localApi.phase callId = some (.returned (.answered event plaintext)))

theorem Advance.caller_ne {api : LocalApi C} {caller : Nat} {new : Call C}
    {pending : HashMap C.EventId Nat} (advance : Advance api label caller new pending)
    (waiting : api.phase callId = some .waiting) (quiet : label ≠ .timeout callId) :
    callId ≠ caller := by
  rintro rfl
  obtain ⟨call, found, phase⟩ := LocalApi.phase_eq_some.mp waiting
  exact quiet (advance.of_waiting found phase)

theorem Step.received (step : Step config before label after)
    (phase : before.localApi.phase callId = some (.received event plaintext)) :
    after.localApi.phase callId = some (.received event plaintext) ∨
      after.localApi.phase callId = some (.returned (.answered event plaintext)) := by
  obtain ⟨call, found, received⟩ := LocalApi.phase_eq_some.mp phase
  cases step.moves with
  | receive | stopListener | stuttering => exact .inl phase
  | perform =>
      have settled : call.phase ≠ .waiting := by simp [received]
      exact .inl (LocalApi.phase_eq_some.mpr
        ⟨call, LocalApi.lookup_perform found settled, received⟩)
  | @forwarding _ caller new _ advance calls =>
      have inCalls := calls callId
      split at inCalls
      · rename_i same
        subst same
        exact .inr (LocalApi.phase_eq_some.mpr
          ⟨new, inCalls, advance.of_received found received⟩)
      · exact .inl (LocalApi.phase_eq_some.mpr ⟨call, inCalls.trans found, received⟩)

theorem Step.delivering (step : Step config before label after) (coherent : before.Coherent)
    (delivering : before.Delivering callId eventId event plaintext)
    (inTime : label = .timeout callId → Action.deliver event plaintext ∉ before.work) :
    after.Delivering callId eventId event plaintext := by
  cases delivering with
  | returned phase => exact .returned (step.returned phase)
  | received phase =>
      rcases step.received phase with received | returned
      · exact .received received
      · exact .returned returned
  | looking work entry waiting =>
      have quiet : label ≠ .timeout callId := fun fires =>
        inTime fires (work ▸ List.mem_cons_of_mem _ List.mem_cons_self)
      cases step.moves with
      | receive idle => cases idle.symm.trans work
      | stopListener | stuttering => exact .looking work entry waiting
      | perform next =>
          cases next.symm.trans work
          exact .sending rfl entry waiting
      | forwarding advance calls =>
          have different := advance.caller_ne waiting quiet
          have phase := congrArg (Option.map Call.phase) (calls callId)
          rw [if_neg different] at phase
          exact .looking work (coherent.keeps_pending advance different entry) (phase.trans waiting)
  | sending work taken waiting =>
      have quiet : label ≠ .timeout callId := fun fires =>
        inTime fires (work ▸ List.mem_cons_self)
      cases step.moves with
      | receive idle => cases idle.symm.trans work
      | stopListener | stuttering => exact .sending work taken waiting
      | perform next =>
          cases next.symm.trans work
          obtain ⟨call, found, phase⟩ := LocalApi.phase_eq_some.mp waiting
          refine .received (LocalApi.phase_eq_some.mpr
            ⟨{ call with phase := .received event plaintext }, ?_, rfl⟩)
          simp only [LocalApi.perform, taken]
          refine (HashMap.lookup_modify_eq _ _ _ _).trans ?_
          rw [if_pos rfl, found, Option.map_some, if_pos phase]
      | forwarding advance calls same =>
          have different := advance.caller_ne waiting quiet
          have phase := congrArg (Option.map Call.phase) (calls callId)
          rw [if_neg different] at phase
          exact .sending work (same.trans taken) (phase.trans waiting)

/-- A response on its way arrives, however the tasks are scheduled. -/
theorem Run.delivering (run : Run (Step config) state trace final) (coherent : state.Coherent)
    (delivering : state.Delivering callId eventId event plaintext)
    (inTime : ∀ transition ∈ trace, transition.label = .timeout callId →
      Action.deliver event plaintext ∉ transition.before.work) :
    final.Coherent ∧ final.Delivering callId eventId event plaintext :=
  (Data.Run.invariant_along
    (fun state => state.Coherent ∧ state.Delivering callId eventId event plaintext)
    (fun transition => transition.label = .timeout callId →
      Action.deliver event plaintext ∉ transition.before.work)
    (fun _ step inTime ih => ⟨step.coherent ih.1, step.delivering ih.1 ih.2 inTime⟩)
    run ⟨coherent, delivering⟩ inTime).1

/-! ### The rest of a call -/

theorem step_perform (config : Config C) {action : Action C} {rest : List (Action C)}
    (next : state.work = action :: rest) : ∃ after, Step config state .perform after := by
  refine ⟨_, ?_, state.loop.mgr, .refl _, rfl⟩
  rw [Enabled, next]
  exact nofun

theorem CanReturn.of_step (step : Step config state label after)
    (can : CanReturn config after callId event plaintext) :
    CanReturn config state callId event plaintext := by
  obtain ⟨more, last, run, returned⟩ := can
  exact ⟨_, last, .cons step run, returned⟩

theorem canReturn_of_received
    (received : state.localApi.phase callId = some (.received event plaintext)) :
    CanReturn config state callId event plaintext := by
  have step : Step config state (.finish callId)
      (state.effect config state.loop.mgr (.finish callId)) := by
    refine ⟨?_, _, .refl _, rfl⟩
    rw [Enabled, received]
    rfl
  refine .of_step step ⟨[], _, .nil _, ?_⟩
  obtain ⟨call, found, phase⟩ := LocalApi.phase_eq_some.mp received
  refine LocalApi.phase_eq_some.mpr ⟨{ call with phase := .returned (.answered event plaintext) }, ?_, rfl⟩
  refine (HashMap.lookup_modify_eq _ _ _ _).trans ?_
  rw [if_pos rfl, found, Option.map_some]
  simp only [phase]

theorem canReturn_of_sending (coherent : state.Coherent)
    (delivering : state.Delivering callId eventId event plaintext)
    (work : state.work = [.deliver event plaintext]) :
    CanReturn config state callId event plaintext := by
  obtain ⟨after, step⟩ := step_perform config work
  refine .of_step step ?_
  have done : after.work = [] := by rw [step.of_perform work]
  cases step.delivering coherent delivering nofun with
  | looking left => cases done.symm.trans left
  | sending left => cases done.symm.trans left
  | received phase => exact canReturn_of_received phase
  | returned phase => exact ⟨[], after, .nil _, phase⟩

theorem Delivering.canReturn (coherent : state.Coherent)
    (delivering : state.Delivering callId eventId event plaintext) :
    CanReturn config state callId event plaintext := by
  cases delivering with
  | returned phase => exact ⟨[], state, .nil _, phase⟩
  | received phase => exact canReturn_of_received phase
  | sending work taken waiting =>
      have sending : state.Delivering callId eventId event plaintext := .sending work taken waiting
      exact canReturn_of_sending coherent sending work
  | looking work entry waiting =>
      obtain ⟨after, step⟩ := step_perform config work
      refine .of_step step (canReturn_of_sending (step.coherent coherent)
        (step.delivering coherent (.looking work entry waiting) nofun) ?_)
      rw [step.of_perform work]

/-! ### A call that has not registered yet -/

theorem step_register (config : Config C) (found : state.localApi.calls.lookup callId = some call)
    (published : call.phase = .published) (sent : call.eventId = some eventId) :
    ∃ after, Step config state (.register callId) after ∧ after.work = state.work ∧
      after.localApi.calls.lookup callId = some { call with phase := .waiting } := by
  refine ⟨_, ⟨?_, state.loop.mgr, .refl _, rfl⟩, rfl, ?_⟩
  · rw [Enabled, LocalApi.phase_of_lookup found, published]
  · simp only [effect, LocalApi.register, found, Option.bind_some, sent]
    exact LocalApi.lookup_setPhase found .waiting

theorem step_timeout (config : Config C) (found : state.localApi.calls.lookup callId = some call)
    (waiting : call.phase = .waiting) :
    ∃ after, Step config state (.timeout callId) after ∧
      after.localApi.calls.lookup callId = some { call with phase := .expired } := by
  refine ⟨_, ⟨?_, state.loop.mgr, .refl _, rfl⟩, LocalApi.lookup_setPhase found .expired⟩
  rw [Enabled, LocalApi.phase_of_lookup found, waiting]

theorem step_forget (config : Config C) (found : state.localApi.calls.lookup callId = some call)
    (expired : call.phase = .expired) (sent : call.eventId = some eventId) :
    ∃ after, Step config state (.forget callId) after ∧
      after.localApi.calls.lookup callId = some { call with phase := .returned .timedOut } := by
  refine ⟨_, ⟨?_, state.loop.mgr, .refl _, rfl⟩, ?_⟩
  · rw [Enabled, LocalApi.phase_of_lookup found, expired]
  · simp only [effect, LocalApi.forget, found, Option.bind_some, sent]
    exact LocalApi.lookup_setPhase found (.returned .timedOut)

/-- If the event loop handles the response before the call has its sender in
the pending map, the call may time out. -/
theorem not_returns_of_published
    (work : state.work = [.takePending event eventId, .deliver event plaintext])
    (found : state.localApi.calls.lookup callId = some call) (sent : call.eventId = some eventId)
    (published : call.phase = .published) : ¬ Returns config state callId event plaintext := by
  intro returns
  have settled : call.phase ≠ .waiting := by
    rw [published]
    exact nofun
  obtain ⟨looked, look⟩ := step_perform config work
  have afterLook := look.of_perform work
  have foundLooked : looked.localApi.calls.lookup callId = some call := by
    rw [afterLook]
    exact LocalApi.lookup_perform found settled
  have workLooked : looked.work = [.deliver event plaintext] := by rw [afterLook]
  obtain ⟨handled, hand⟩ := step_perform config workLooked
  have afterHand := hand.of_perform workLooked
  have foundHandled : handled.localApi.calls.lookup callId = some call := by
    rw [afterHand]
    exact LocalApi.lookup_perform foundLooked settled
  have idle : handled.work = [] := by rw [afterHand]
  obtain ⟨registered, register, stillIdle, foundRegistered⟩ :=
    step_register config foundHandled published sent
  obtain ⟨expired, timeout, foundExpired⟩ := step_timeout config foundRegistered rfl
  obtain ⟨last, forget, foundLast⟩ := step_forget config foundExpired rfl sent
  have run : Run (Step config) state _ last :=
    .cons look (.cons hand (.cons register (.cons timeout (.single forget))))
  obtain ⟨more, final, tail, returned⟩ := returns _ last run (by
    -- only the timeout is restricted, and by then no work is left
    simp only [List.forall_mem_cons, reduceCtorEq, false_implies, true_and, List.not_mem_nil]
    rw [stillIdle, idle]
    simp)
  have timedOut : last.localApi.phase callId = some (.returned .timedOut) :=
    LocalApi.phase_of_lookup foundLast
  cases (Run.returned tail timedOut).symm.trans returned

/-- A response that is looked up before its request has timed out is returned
exactly when the call has entered its sender into the pending map by then. -/
theorem returns_iff_waiting (coherent : state.Coherent)
    (work : state.work = [.takePending event eventId, .deliver event plaintext])
    (found : state.localApi.calls.lookup callId = some call) (sent : call.eventId = some eventId)
    (inTime : call.phase = .published ∨ call.phase = .waiting) :
    Returns config state callId event plaintext ↔ call.phase = .waiting := by
  constructor
  · intro returns
    rcases inTime with published | waiting
    · exact absurd returns (not_returns_of_published work found sent published)
    · exact waiting
  · intro waiting trace final run inTime
    have entry : state.localApi.pending.lookup eventId = some callId := by
      rcases coherent.waiting found waiting with held | ⟨sentId, isSent, entry⟩
      · cases (coherent.not_taken fun _ _ other => nomatch work.symm.trans other).symm.trans held
      · cases sent.symm.trans isSent
        exact entry
    have looking : state.Delivering callId eventId event plaintext :=
      .looking work entry ((LocalApi.phase_of_lookup found).trans (congrArg some waiting))
    obtain ⟨finalCoherent, delivering⟩ := Run.delivering run coherent looking inTime
    exact delivering.canReturn finalCoherent

/-! ### Runs -/

/-- If the step is the lookup of a response to a request that was published
and whose timer has not fired, the response is returned. -/
def LosesNoResponse (config : Config C) (transition : Transition (AvatarState C) (Label C)) :
    Prop :=
  ∀ event eventId plaintext callId call,
    transition.label = .perform →
    transition.before.work = [.takePending event eventId, .deliver event plaintext] →
    transition.before.localApi.calls.lookup callId = some call → call.eventId = some eventId →
    call.phase = .published ∨ call.phase = .waiting →
    Returns config transition.before callId event plaintext

/-- If the step is the lookup of a response, the call that published the
request is not between publishing it and entering its sender. -/
def LooksUpRegistered (transition : Transition (AvatarState C) (Label C)) : Prop :=
  ∀ event eventId plaintext callId call,
    transition.label = .perform →
    transition.before.work = [.takePending event eventId, .deliver event plaintext] →
    transition.before.localApi.calls.lookup callId = some call → call.eventId = some eventId →
    call.phase ≠ .published

/-- No response of a run is lost exactly when none is looked up between the
publication of its request and the entry of the sender. -/
theorem run_losesNoResponse_iff (run : Run (Step config) new trace final) :
    (∀ transition ∈ trace, LosesNoResponse config transition) ↔
      ∀ transition ∈ trace, LooksUpRegistered transition := by
  refine forall₂_congr fun transition member => ?_
  have coherent := Reachable.coherent (run.reachable_before member)
  constructor
  · intro holds event eventId plaintext callId call isPerform work found sent published
    exact not_returns_of_published work found sent published
      (holds event eventId plaintext callId call isPerform work found sent (.inl published))
  · intro registered event eventId plaintext callId call isPerform work found sent inTime
    refine (returns_iff_waiting coherent work found sent inTime).mpr ?_
    exact inTime.resolve_left
      (registered event eventId plaintext callId call isPerform work found sent)

end AvatarState

/-! ### A response that comes too early

KeyMaster `2` answers a request before the call has entered its sender.
-/

namespace Transparent

open AvatarState

def answerTexts : List (String × Value) :=
  [("attach", request "attach" [("services", .array [.string "ssh"])]),
   ("answer", .object [("jsonrpc", .string "2.0"), ("result", .string "signature"), ("id", number 1)])]

def earlyLabels : List (Label (crates answerTexts)) :=
  [.receive (event 10 2 "attach") io, .perform, .perform, .perform,
   .call 0 none "ssh" localRequest, .publish 0 20 "",
   .receive (reply 21 2 "20" "answer") io]

def earlyState : AvatarState (crates answerTexts) :=
  replayed (avatar answerTexts) new earlyLabels

end Transparent

namespace AvatarState

open Transparent

theorem early_run : Run (Step (avatar answerTexts)) new
    (replay (avatar answerTexts) new earlyLabels) earlyState :=
  replay_run (by decide +kernel)

theorem early_work : earlyState.work =
    [.takePending (reply 21 2 "20" "answer") (20 : Nat),
      .deliver (reply 21 2 "20" "answer") "answer"] := rfl

theorem early_response_lost : ∃ trace final, Run (Step (avatar answerTexts)) new trace final ∧
    ¬ ∀ transition ∈ trace, LosesNoResponse (avatar answerTexts) transition := by
  obtain ⟨after, look⟩ := step_perform (avatar answerTexts) early_work
  refine ⟨_, after, early_run.append (.single look), fun holds => ?_⟩
  obtain ⟨call, found⟩ : ∃ call, earlyState.localApi.calls.lookup 0 = some call :=
    Option.isSome_iff_exists.mp (by decide +kernel)
  have phase : earlyState.localApi.phase 0 = some .published := by decide +kernel
  have sent : (earlyState.localApi.calls.lookup 0).bind Call.eventId = some (20 : Nat) := by
    decide +kernel
  rw [LocalApi.phase_of_lookup found] at phase
  rw [found, Option.bind_some] at sent
  have published := Option.some.inj phase
  exact not_returns_of_published early_work found sent published
    (holds _ (List.mem_append_right _ List.mem_cons_self) _ _ _ 0 call rfl early_work found sent
      (.inl published))

theorem early_run_losesNoResponse_iff :
    (∀ transition ∈ replay (avatar answerTexts) new earlyLabels,
        LosesNoResponse (avatar answerTexts) transition) ↔
      ∀ transition ∈ replay (avatar answerTexts) new earlyLabels, LooksUpRegistered transition :=
  run_losesNoResponse_iff early_run

end AvatarState

end KeyMaster

import KeyMaster.Avatar.PendingCalls

namespace KeyMaster

open Data

/-! Whose responses complete the calls of the local API. -/

variable {C : Crates} {config : Config C}

/-- The event's author is the KeyMaster at the other end of the call's channel. -/
def Call.Authentic (call : Call C) (event : Event C) : Prop :=
  ∃ channel, call.channel = some channel ∧
    (event.pubkey = channel.kmServicePubkey ∨ event.pubkey = channel.kmRealmPubkey)

theorem Call.Authentic.of_channel {call other : Call C} {event : Event C}
    (same : call.channel = other.channel) (authentic : call.Authentic event) :
    other.Authentic event := by
  obtain ⟨channel, isChannel, author⟩ := authentic
  exact ⟨channel, same ▸ isChannel, author⟩

def Call.CompletedWith (call : Call C) (event : Event C) (plaintext : String) : Prop :=
  call.phase = .received event plaintext ∨ call.phase = .returned (.answered event plaintext)

namespace AvatarState

variable {before state after : AvatarState C} {label : Label C}

/-- The event loop is about to look up the request that the event replies to,
and will find the call that sent it. -/
def Finds (state : AvatarState C) (event : Event C) (eventId : C.EventId) (callId : Nat) : Prop :=
  (∃ rest, state.work = .takePending event eventId :: rest) ∧
    state.localApi.pending.lookup eventId = some callId

/-- The next response that the event loop looks up is that of another party
than the KeyMaster of the channel that the request was sent on. -/
def FindsForeign (state : AvatarState C) : Prop :=
  ∃ event eventId callId call, state.Finds event eventId callId ∧
    state.localApi.calls.lookup callId = some call ∧ ¬ call.Authentic event

def Authentic (state : AvatarState C) : Prop :=
  ∀ callId call event plaintext, state.localApi.calls.lookup callId = some call →
    call.CompletedWith event plaintext → call.Authentic event

/-- Neither does the step complete a call with the response of another party,
nor does such a response remove the call's entry from the pending map. -/
def KeepsAuthentic (transition : Transition (AvatarState C) (Label C)) : Prop :=
  transition.after.Authentic ∧
    ∀ event eventId callId call, transition.label = .perform →
      transition.before.Finds event eventId callId →
      transition.before.localApi.calls.lookup callId = some call → ¬ call.Authentic event →
      transition.after.localApi.pending.lookup eventId = some callId

def TakenAuthentic (state : AvatarState C) : Prop :=
  ∀ callId call event plaintext, state.localApi.taken = some callId →
    state.localApi.calls.lookup callId = some call → state.work = [.deliver event plaintext] →
    call.Authentic event

theorem Advance.completed {callId : Nat} {call : Call C} {pending : HashMap C.EventId Nat}
    {event : Event C} {plaintext : String}
    (advance : Advance before.localApi label callId call pending)
    (completed : call.CompletedWith event plaintext) :
    ∃ old, before.localApi.calls.lookup callId = some old ∧ old.CompletedWith event plaintext ∧
      old.channel = call.channel := by
  cases advance with
  | call channel =>
      rcases completed with received | returned
      · dsimp only at received
        split at received <;> cases received
      · dsimp only at returned
        split at returned <;> cases returned
  | finish found received =>
      rcases completed with again | returned
      · cases again
      · cases returned
        exact ⟨_, found, .inl received, rfl⟩
  | publish | sendFailed | register | timeout | forget =>
      rcases completed with received | returned
      · cases received
      · cases returned

theorem Advance.channel {callId : Nat} {call old : Call C} {pending : HashMap C.EventId Nat}
    (advance : Advance before.localApi label callId call pending)
    (found : before.localApi.calls.lookup callId = some old) : call.channel = old.channel := by
  cases advance with
  | call _ unused => cases unused.symm.trans found
  | publish same | sendFailed same | register same | timeout same | forget same | finish same =>
      cases same.symm.trans found
      rfl

theorem Step.authentic (step : Step config before label after) (coherent : before.Coherent)
    (authentic : before.Authentic) (taken : before.TakenAuthentic) : after.Authentic := by
  cases step.moves with
  | receive | stopListener | stuttering => exact authentic
  | forwarding advance calls =>
      intro callId call event plaintext found completed
      rw [calls] at found
      split at found
      · cases found
        obtain ⟨old, was, completedBefore, sameChannel⟩ := advance.completed completed
        exact .of_channel sameChannel (authentic _ old event plaintext was completedBefore)
      · exact authentic callId call event plaintext found completed
  | @perform action rest next =>
      cases action with
      | deliver event plaintext =>
          intro callId call answer text found completed
          cases held : before.localApi.taken with
          | none =>
              simp only [LocalApi.perform, held] at found
              exact authentic callId call answer text found completed
          | some receiver =>
              simp only [LocalApi.perform, held] at found
              obtain ⟨old, was, ⟨rfl, _⟩ | ⟨rfl, _, rfl⟩⟩ := LocalApi.send_origin found
              · exact authentic callId call answer text was completed
              · obtain ⟨_, sent, _, _, _, work, _⟩ := coherent.taken held
                rcases completed with received | returned
                · cases received
                  rw [next] at work
                  cases work
                  exact .of_channel rfl (taken _ old event plaintext held was next)
                · cases returned
      | _ => exact authentic

theorem Step.takenAuthentic (step : Step config before label after) (coherent : before.Coherent)
    (taken : before.TakenAuthentic) (own : label = .perform → ¬ before.FindsForeign) :
    after.TakenAuthentic := by
  cases step.moves with
  | stopListener | stuttering => exact taken
  | receive idle =>
      intro callId _ _ _ held
      have silent : ∀ event plaintext, before.work ≠ [.deliver event plaintext] := by
        intro event plaintext work
        cases idle.symm.trans work
      cases (coherent.not_taken silent).symm.trans held
  | forwarding advance calls same =>
      intro callId call event plaintext held found work
      obtain ⟨old, _, _, _, was, _⟩ := coherent.taken (same.symm.trans held)
      rw [calls] at found
      split at found
      · rename_i isCaller
        cases found
        subst isCaller
        exact .of_channel (advance.channel was).symm
          (taken _ old event plaintext (same.symm.trans held) was work)
      · exact taken callId call event plaintext (same.symm.trans held) found work
  | @perform action rest next =>
      cases action with
      | takePending event eventId =>
          intro callId call answer plaintext held found work
          obtain ⟨_, text, rest⟩ := (next ▸ coherent.work).of_takePending
          cases rest.symm.trans work
          by_contra foreign
          exact own rfl ⟨event, eventId, callId, call, ⟨⟨_, next⟩, held⟩, found, foreign⟩
      | deliver event plaintext =>
          intro callId _ _ _ held
          cases before : before.localApi.taken with
          | none =>
              simp only [LocalApi.perform, before] at held
              cases held
          | some receiver =>
              simp only [LocalApi.perform, before] at held
              cases held
      | _ =>
          intro callId _ _ _ held
          have silent : ∀ event plaintext, before.work ≠ [.deliver event plaintext] := by
            intro event plaintext work
            cases next.symm.trans work
          cases (coherent.not_taken silent).symm.trans held

/-- Throughout a run no other party than a request's own KeyMaster completes
its call or takes away its pending entry, exactly when the event loop never
finds a foreign response. -/
theorem run_keepsAuthentic_iff {trace : List (Transition (AvatarState C) (Label C))}
    {final : AvatarState C} (run : Run (Step config) new trace final) :
    (∀ transition ∈ trace, KeepsAuthentic transition) ↔
      ∀ transition ∈ trace, transition.label = .perform → ¬ transition.before.FindsForeign := by
  have found : ∀ transition : Transition (AvatarState C) (Label C),
      Step config transition.before transition.label transition.after →
      KeepsAuthentic transition →
      transition.label = .perform → ¬ transition.before.FindsForeign := by
    rintro ⟨before, label, after⟩ step ⟨_, kept⟩ isPerform
    rintro ⟨event, eventId, callId, call, finds, found, foreign⟩
    have entry := kept event eventId callId call isPerform finds found foreign
    obtain ⟨⟨rest, work⟩, _⟩ := finds
    dsimp only at isPerform entry work step
    subst isPerform
    rw [step.of_perform work] at entry
    simp [LocalApi.perform] at entry
  refine Run.holds_iff_meets Coherent (fun state => state.Authentic ∧ state.TakenAuthentic)
    (fun _ _ _ step => step.coherent) ?_ ?_ run coherent_new ?_
  · intro transition step coherent good holds
    exact ⟨holds.1, step.takenAuthentic coherent good.2 (found transition step holds)⟩
  · intro transition step coherent good
    refine ⟨found transition step, fun own => ⟨step.authentic coherent good.1 good.2, ?_⟩⟩
    intro event eventId callId call isPerform finds inCalls foreign
    exact absurd ⟨event, eventId, callId, call, finds, inCalls, foreign⟩ (own isPerform)
  · constructor
    · intro callId call event plaintext found
      cases found
    · intro callId call event plaintext held
      cases held

end AvatarState

/-! ### A forged response

Party `9`, which has no session, answers a request that was sent to KeyMaster `2`.
-/

namespace Transparent

open AvatarState

def forgedTexts : List (String × Value) :=
  [("attach", request "attach" [("services", .array [.string "ssh"])]),
   ("answer", .object [("jsonrpc", .string "2.0"), ("result", .string "forged"), ("id", number 1)])]

def forgedLabels : List (Label (crates forgedTexts)) :=
  [.receive (event 10 2 "attach") io, .perform, .perform, .perform,
   .call 0 none "ssh" localRequest, .publish 0 20 "", .register 0,
   .receive (reply 21 9 "20" "answer") io, .perform, .perform, .finish 0]

def forgedState : AvatarState (crates forgedTexts) :=
  replayed (avatar forgedTexts) new forgedLabels

end Transparent

namespace AvatarState

open Transparent

theorem forged_run : Run (Step (avatar forgedTexts)) new
    (replay (avatar forgedTexts) new forgedLabels) forgedState :=
  replay_run (by decide +kernel)

/-- The forged response is returned to the local connection. -/
theorem forged_response_completes :
    Reachable (Step (avatar forgedTexts)) new forgedState ∧ ¬ forgedState.Authentic := by
  refine ⟨⟨_, forged_run⟩, fun authentic => ?_⟩
  obtain ⟨call, found⟩ : ∃ call, forgedState.localApi.calls.lookup 0 = some call :=
    Option.isSome_iff_exists.mp (by decide +kernel)
  have phase : forgedState.localApi.phase 0 =
      some (.returned (.answered (reply 21 9 "20" "answer") "answer")) := by decide +kernel
  have peers : ((forgedState.localApi.calls.lookup 0).bind Call.channel).map
      (fun channel => (channel.kmServicePubkey, channel.kmRealmPubkey)) = some (2, 2) := by
    decide +kernel
  rw [LocalApi.phase, found, Option.map_some] at phase
  rw [found, Option.bind_some] at peers
  obtain ⟨channel, isChannel, author⟩ :=
    authentic 0 call _ _ found (.inr (Option.some.inj phase))
  rw [isChannel, Option.map_some] at peers
  obtain ⟨service, realm⟩ := Prod.mk.inj (Option.some.inj peers)
  rcases author with same | same
  · cases same.trans service
  · cases same.trans realm

theorem forged_run_keepsAuthentic_iff :
    (∀ transition ∈ replay (avatar forgedTexts) new forgedLabels, KeepsAuthentic transition) ↔
      ∀ transition ∈ replay (avatar forgedTexts) new forgedLabels,
        transition.label = .perform → ¬ transition.before.FindsForeign :=
  run_keepsAuthentic_iff forged_run

end AvatarState

end KeyMaster

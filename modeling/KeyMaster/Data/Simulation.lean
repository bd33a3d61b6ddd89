import KeyMaster.Data.Runs

namespace KeyMaster.Data

/-! Runs seen at a coarser grain, and runs that come to rest. -/

variable {σ ε τ η : Type} {step : σ → ε → σ → Prop} {spec : τ → η → τ → Prop} {start : σ}

/-- A system implements another one through a view of its states: what a step
does not hide is a step there. -/
def Implements (step : σ → ε → σ → Prop) (start : σ) (spec : τ → η → τ → Prop) (view : σ → τ) : Prop :=
  ∀ before label after, Reachable step start before → step before label after →
    view after = view before ∨ ∃ seen, spec (view before) seen (view after)

theorem Implements.reachable {view : σ → τ} (implements : Implements step start spec view) {state : σ}
    (reachable : Reachable step start state) : Reachable spec (view start) (view state) := by
  obtain ⟨trace, run⟩ := reachable
  refine run.snoc_induction (motive := fun _ state => Reachable spec (view start) (view state))
    ⟨[], .nil _⟩ ?_
  intro trace before label after soFar seen taken
  rcases implements before label after ⟨trace, soFar⟩ taken with hidden | ⟨label, shown⟩
  · rwa [hidden]
  · exact seen.next shown

/-- If what is left to do can always be lessened by a step of a kind, then steps
of the kind lead to where nothing is left, and are no more than there was to do. -/
theorem exists_run_to_rest (Inv : σ → Prop) (Kind : σ → ε → Prop) (left : σ → Nat)
    (lessens : ∀ state, Inv state → left state ≠ 0 →
      ∃ label after, Kind state label ∧ step state label after ∧ Inv after ∧ left after < left state)
    (holds : Inv start) :
    ∃ trace final, Run step start trace final ∧
      (∀ transition ∈ trace, Kind transition.before transition.label) ∧
      Inv final ∧ left final = 0 ∧ trace.length ≤ left start := by
  generalize bound : left start = count
  induction count using Nat.strongRecOn generalizing start with
  | ind count ih =>
      by_cases done : count = 0
      · exact ⟨[], start, .nil _, by simp, holds, by rw [bound, done], Nat.zero_le _⟩
      · obtain ⟨label, after, kind, taken, kept, less⟩ := lessens start holds (by omega)
        obtain ⟨trace, final, run, kinds, last, rest, short⟩ := ih (left after) (by omega) kept rfl
        refine ⟨⟨start, label, after⟩ :: trace, final, .cons taken run, ?_, last, rest, ?_⟩
        · simpa using ⟨kind, kinds⟩
        · rw [List.length_cons]
          omega

/-- A part of the state that some transitions change, by a function of it and of
their inputs, and all others leave alone, is what those inputs make of it. -/
theorem Run.view_eq_foldl {α ι : Type} (view : σ → α) {own : Transition σ ε → Bool}
    {input : Transition σ ε → ι} {update : α → ι → α} {trace : List (Transition σ ε)} {final : σ}
    (run : Run step start trace final)
    (isLocal : ∀ transition ∈ trace, view transition.after =
      if own transition then update (view transition.before) (input transition)
      else view transition.before) :
    view final = ((trace.filter own).map input).foldl update (view start) := by
  induction run with
  | nil => rfl
  | cons taken tail ih =>
      rw [List.forall_mem_cons] at isLocal
      rw [ih isLocal.2, List.filter_cons, isLocal.1]
      split <;> rfl

/-! ### Machines with outputs -/

section Machine

variable {ι ο : Type} {act : σ → ι → ο × σ} {ideal : τ → ι → ο × τ}

/-- What a machine puts out for its inputs, one after another. -/
def outputs (act : σ → ι → ο × σ) : σ → List ι → List ο
  | _, [] => []
  | state, input :: rest => (act state input).1 :: outputs act (act state input).2 rest

/-- Machines that answer alike in related states, and stay related, put out the same. -/
theorem outputs_eq (related : τ → σ → Prop)
    (agrees : ∀ high low, related high low → ∀ input, (act low input).1 = (ideal high input).1 ∧
      related (ideal high input).2 (act low input).2)
    {high : τ} {low : σ} (holds : related high low) (inputs : List ι) :
    outputs act low inputs = outputs ideal high inputs := by
  induction inputs generalizing high low with
  | nil => rfl
  | cons input rest ih =>
      obtain ⟨same, next⟩ := agrees high low holds input
      rw [outputs, outputs, same, ih next]

end Machine

end KeyMaster.Data

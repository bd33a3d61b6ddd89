import Mathlib.Logic.Basic

namespace KeyMaster.Data

/-! Runs of a labelled transition system and the rules for reasoning about them. -/

structure Transition (σ ε : Type) where
  before : σ
  label : ε
  after : σ

/-- A finite run: every transition is a step and starts where its predecessor ended. -/
inductive Run {σ ε : Type} (step : σ → ε → σ → Prop) : σ → List (Transition σ ε) → σ → Prop
  | nil (state : σ) : Run step state [] state
  | cons {before after final : σ} {label : ε} {rest : List (Transition σ ε)}
      (taken : step before label after) (tail : Run step after rest final) :
      Run step before (⟨before, label, after⟩ :: rest) final

def Reachable {σ ε : Type} (step : σ → ε → σ → Prop) (start state : σ) : Prop :=
  ∃ trace, Run step start trace state

variable {σ ε : Type} {step : σ → ε → σ → Prop} {start middle final : σ}
  {trace more : List (Transition σ ε)}

theorem Run.single {before after : σ} {label : ε} (taken : step before label after) :
    Run step before [⟨before, label, after⟩] after :=
  .cons taken (.nil after)

theorem Run.append (first : Run step start trace middle) (second : Run step middle more final) :
    Run step start (trace ++ more) final := by
  induction first with
  | nil => exact second
  | cons taken _ ih => exact .cons taken (ih second)

theorem Run.unappend (run : Run step start (trace ++ more) final) :
    ∃ middle, Run step start trace middle ∧ Run step middle more final := by
  induction trace generalizing start with
  | nil => exact ⟨start, .nil start, run⟩
  | cons transition rest ih =>
      cases run with
      | cons taken tail =>
          obtain ⟨middle, first, second⟩ := ih tail
          exact ⟨middle, .cons taken first, second⟩

/-- Induction on a run from its end: what holds of the empty run and is kept by
one more transition holds of the run. -/
theorem Run.snoc_induction {motive : List (Transition σ ε) → σ → Prop} (nil : motive [] start)
    (snoc : ∀ trace before label after, Run step start trace before → motive trace before →
      step before label after → motive (trace ++ [⟨before, label, after⟩]) after)
    (run : Run step start trace final) : motive trace final := by
  have extend : ∀ {state rest last}, Run step state rest last →
      ∀ done, Run step start done state → motive done state → motive (done ++ rest) last := by
    intro state rest last tail
    induction tail with
    | nil => intro done _ holds; rwa [List.append_nil]
    | cons taken _ ih =>
        intro done ran holds
        have next := ih _ (ran.append (.single taken)) (snoc done _ _ _ ran holds taken)
        rwa [List.append_assoc] at next
  exact extend run [] (.nil start) nil

theorem Run.split (run : Run step start trace final) {transition : Transition σ ε}
    (member : transition ∈ trace) :
    ∃ earlier later, trace = earlier ++ transition :: later ∧
      Run step start earlier transition.before ∧
      step transition.before transition.label transition.after ∧
      Run step transition.after later final := by
  induction run with
  | nil => cases member
  | cons taken tail ih =>
      rcases List.mem_cons.mp member with rfl | inTail
      · exact ⟨[], _, rfl, .nil _, taken, tail⟩
      · obtain ⟨earlier, later, split, before, stepTaken, after⟩ := ih inTail
        exact ⟨_ :: earlier, later, by rw [split]; rfl, .cons taken before, stepTaken, after⟩

/-- The invariant rule, for runs whose transitions all meet a condition. -/
theorem Run.invariant_along (Inv : σ → Prop) (Meets : Transition σ ε → Prop)
    (preserved : ∀ transition, step transition.before transition.label transition.after →
      Meets transition → Inv transition.before → Inv transition.after)
    (run : Run step start trace final) (initial : Inv start)
    (meets : ∀ transition ∈ trace, Meets transition) :
    Inv final ∧ ∀ transition ∈ trace, Inv transition.before := by
  induction run with
  | nil => exact ⟨initial, by simp⟩
  | cons taken _ ih =>
      have next := preserved _ taken (meets _ List.mem_cons_self) initial
      obtain ⟨last, inner⟩ := ih next fun transition member =>
        meets transition (List.mem_cons_of_mem _ member)
      refine ⟨last, ?_⟩
      intro transition member
      rcases List.mem_cons.mp member with rfl | inTail
      · exact initial
      · exact inner transition inTail

theorem Run.step_of_mem (run : Run step start trace final) {transition : Transition σ ε}
    (member : transition ∈ trace) :
    step transition.before transition.label transition.after := by
  obtain ⟨_, _, _, _, taken, _⟩ := run.split member
  exact taken

/-- What every step preserves holds in every reachable state. -/
theorem Reachable.invariant (Inv : σ → Prop)
    (preserved : ∀ before label after, step before label after → Inv before → Inv after)
    (initial : Inv start) {state : σ} (reachable : Reachable step start state) : Inv state := by
  obtain ⟨trace, run⟩ := reachable
  exact (Run.invariant_along Inv (fun _ => True)
    (fun transition taken _ => preserved _ _ _ taken) run initial (fun _ _ => trivial)).1

theorem Run.reachable_before (run : Run step start trace final) {transition : Transition σ ε}
    (member : transition ∈ trace) : Reachable step start transition.before := by
  obtain ⟨earlier, _, _, before, _, _⟩ := run.split member
  exact ⟨earlier, before⟩

theorem Reachable.next {state after : σ} {label : ε} (reachable : Reachable step start state)
    (taken : step state label after) : Reachable step start after := by
  obtain ⟨trace, run⟩ := reachable
  exact ⟨_, run.append (.single taken)⟩

theorem Reachable.run {state : σ} (reachable : Reachable step start state)
    (run : Run step state trace final) : Reachable step start final := by
  obtain ⟨earlier, before⟩ := reachable
  exact ⟨_, before.append run⟩

/-- A property holds of every transition of a run exactly when every transition
meets the condition that decides it, provided a transition from a good state
has the property exactly when it meets the condition, and then ends in a good
state. -/
theorem Run.holds_iff_meets (Inv Good : σ → Prop) {Holds Meets : Transition σ ε → Prop}
    (preserved : ∀ before label after, step before label after → Inv before → Inv after)
    (carries : ∀ transition, step transition.before transition.label transition.after →
      Inv transition.before → Good transition.before → Holds transition → Good transition.after)
    (decides : ∀ transition, step transition.before transition.label transition.after →
      Inv transition.before → Good transition.before → (Holds transition ↔ Meets transition))
    (run : Run step start trace final) (initial : Inv start) (good : Good start) :
    (∀ transition ∈ trace, Holds transition) ↔ ∀ transition ∈ trace, Meets transition := by
  induction run with
  | nil => simp
  | cons taken _ ih =>
      have next := preserved _ _ _ taken initial
      have first := decides ⟨_, _, _⟩ taken initial good
      have later := fun holds => ih next (carries ⟨_, _, _⟩ taken initial good holds)
      simp only [List.forall_mem_cons]
      constructor
      · rintro ⟨head, tail⟩
        exact ⟨first.mp head, (later head).mp tail⟩
      · rintro ⟨head, tail⟩
        exact ⟨first.mpr head, (later (first.mpr head)).mpr tail⟩

end KeyMaster.Data

import Mathlib.Order.WellFounded
import Mathlib.Data.Prod.Lex

/-!
Labelled machines: a step is a partial function of the state and the action.
The rules below package the two inductions a development repeats, over the
steps of a run and over a rank that every step lowers.
-/

namespace Council.Machines

universe u v w z
variable {State : Type u} {Action : Type v}

/-- `Reaches step allowed start state`: a run from `start` whose every step
meets `allowed` ends in `state`. -/
inductive Reaches (step : State → Action → Option State) (allowed : State → Action → Prop)
    (start : State) : State → Prop where
  | refl : Reaches step allowed start start
  | next {state after : State} {action : Action}
      (earlier : Reaches step allowed start state) (meets : allowed state action)
      (taken : step state action = some after) :
      Reaches step allowed start after

/-- Every step is allowed. -/
def always : State → Action → Prop := fun _ _ => True

section Runs
variable {step : State → Action → Option State} {allowed : State → Action → Prop}
  {start : State}

theorem Reaches.invariant {state : State} (reached : Reaches step allowed start state)
    (Holds : State → Prop) (first : Holds start)
    (preserved : ∀ before action after, Reaches step allowed start before →
      allowed before action → step before action = some after →
      Holds before → Holds after) :
    Holds state := by
  induction reached with
  | refl => exact first
  | next earlier meets taken ih => exact preserved _ _ _ earlier meets taken ih

theorem Reaches.trans {middle state : State} (first : Reaches step allowed start middle)
    (second : Reaches step allowed middle state) : Reaches step allowed start state := by
  induction second with
  | refl => exact first
  | next earlier meets taken ih => exact .next ih meets taken

theorem Reaches.weaken {wider : State → Action → Prop} {state : State}
    (reached : Reaches step allowed start state)
    (implies : ∀ before action, allowed before action → wider before action) :
    Reaches step wider start state := by
  induction reached with
  | refl => exact .refl
  | next earlier meets taken ih => exact .next ih (implies _ _ meets) taken

/-- A view of a machine whose steps leave the view alone or are steps of another
machine: what is reached is seen as reached there. -/
theorem Reaches.project {Other : Type w} {Move : Type z} {other : Other → Move → Option Other}
    {permits : Other → Move → Prop} (view : State → Other) {state : State}
    (reached : Reaches step allowed start state)
    (follows : ∀ before action after, Reaches step allowed start before →
      allowed before action → step before action = some after →
      view after = view before ∨
        ∃ move, permits (view before) move ∧ other (view before) move = some (view after)) :
    Reaches other permits (view start) (view state) := by
  induction reached with
  | refl => exact .refl
  | next earlier meets taken ih =>
      rcases follows _ _ _ earlier meets taken with same | ⟨move, permitted, moved⟩
      · rw [same]
        exact ih
      · exact .next ih permitted moved

/-- Runs a list of actions, stopping at the first that is not allowed or not
enabled. -/
def perform (step : State → Action → Option State) (allowed : State → Action → Prop)
    [∀ state action, Decidable (allowed state action)] : State → List Action → Option State
  | state, [] => some state
  | state, action :: rest =>
      if allowed state action then
        (step state action).bind fun after => perform step allowed after rest
      else none

section Perform
variable [∀ state action, Decidable (allowed state action)]

theorem perform_cons {action : Action} {rest : List Action} {before state : State}
    (performed : perform step allowed before (action :: rest) = some state) :
    ∃ after, step before action = some after ∧ perform step allowed after rest = some state := by
  rw [perform] at performed
  split at performed
  · exact Option.bind_eq_some_iff.mp performed
  · cases performed

theorem perform_append {first second : List Action} {before state : State}
    (performed : perform step allowed before (first ++ second) = some state) :
    ∃ middle, perform step allowed before first = some middle ∧
      perform step allowed middle second = some state := by
  induction first generalizing before with
  | nil => exact ⟨before, rfl, performed⟩
  | cons action rest ih =>
      rw [List.cons_append, perform] at performed
      split at performed
      · rename_i meets
        obtain ⟨after, taken, later⟩ := Option.bind_eq_some_iff.mp performed
        obtain ⟨middle, sooner, last⟩ := ih later
        exact ⟨middle, by rw [perform, if_pos meets, taken]; exact sooner, last⟩
      · cases performed

theorem perform_join {first second : List Action} {before middle state : State}
    (one : perform step allowed before first = some middle)
    (other : perform step allowed middle second = some state) :
    perform step allowed before (first ++ second) = some state := by
  induction first generalizing before with
  | nil =>
      cases one
      exact other
  | cons action rest ih =>
      rw [perform] at one
      split at one
      next meets =>
        obtain ⟨after, taken, later⟩ := Option.bind_eq_some_iff.mp one
        rw [List.cons_append, perform, if_pos meets, taken]
        exact ih later
      · cases one

end Perform

theorem perform_reaches [∀ state action, Decidable (allowed state action)]
    (actions : List Action) (from_ state : State)
    (performed : perform step allowed from_ actions = some state) :
    Reaches step allowed from_ state := by
  induction actions generalizing from_ with
  | nil =>
      cases performed
      exact .refl
  | cons action rest ih =>
      rw [perform] at performed
      split at performed
      · rename_i meets
        cases taken : step from_ action with
        | none => simp [taken] at performed
        | some after =>
            rw [taken] at performed
            exact (Reaches.next .refl meets taken).trans (ih after performed)
      · cases performed

end Runs

instance (state : State) (action : Action) : Decidable (always state action) :=
  .isTrue trivial

section Ranks
variable {step : State → Action → Option State}
variable {Rank : Type w} [WellFoundedRelation Rank] (rank : State → Rank)

/-- `after` follows `before` by some step. -/
def Follows (step : State → Action → Option State) (after before : State) : Prop :=
  ∃ action, step before action = some after

theorem acc_of_rank {Holds : State → Prop}
    (preserved : ∀ before action after, Holds before → step before action = some after →
      Holds after)
    (falls : ∀ before action after, Holds before → step before action = some after →
      WellFoundedRelation.rel (rank after) (rank before))
    (state : State) (holds : Holds state) : Acc (Follows step) state := by
  have ranked : ∀ value : Rank, Acc WellFoundedRelation.rel value → ∀ state,
      rank state = value → Holds state → Acc (Follows step) state := by
    intro value finite
    induction finite with
    | intro value _ ih =>
        intro state same holds
        refine .intro state fun after follows => ?_
        obtain ⟨action, taken⟩ := follows
        subst same
        exact ih _ (falls _ _ _ holds taken) after rfl (preserved _ _ _ holds taken)
  exact ranked _ (WellFoundedRelation.wf.apply _) state rfl holds

theorem no_endless_run (states : Nat → State) (actions : Nat → Action)
    (finite : Acc (Follows step) (states 0)) :
    ¬ ∀ index, step (states index) (actions index) = some (states (index + 1)) := by
  intro endless
  have ends : ∀ state, Acc (Follows step) state → ∀ index, states index = state → False := by
    intro state accessible
    induction accessible with
    | intro state _ ih =>
        intro index here
        subst here
        exact ih (states (index + 1)) ⟨actions index, endless index⟩ (index + 1) rfl
  exact ends _ finite 0 rfl

/-- Where a useful step is enabled until the machine is done, useful steps
alone take it there. -/
theorem completes {Useful : Action → Prop} {Done : State → Prop} (Holds : State → Prop)
    (preserved : ∀ before action after, Holds before → Useful action →
      step before action = some after → Holds after)
    (progress : ∀ state, Holds state → ¬ Done state →
      ∃ action after, Useful action ∧ step state action = some after)
    (state : State) (finite : Acc (Follows step) state) (holds : Holds state) :
    ∃ final, Reaches step (fun _ action => Useful action) state final ∧ Done final := by
  induction finite with
  | intro state _ ih =>
      by_cases done : Done state
      · exact ⟨state, .refl, done⟩
      · obtain ⟨action, after, useful, taken⟩ := progress state holds done
        obtain ⟨final, later, ended⟩ :=
          ih after ⟨action, taken⟩ (preserved _ _ _ holds useful taken)
        exact ⟨final, (Reaches.next .refl useful taken).trans later, ended⟩

end Ranks

end Council.Machines

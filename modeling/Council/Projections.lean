import Mathlib.Data.List.Basic

/-!
A shared state seen by one of its users. Where calls outside a class leave a
view of the state alone, and calls in it act on the view only, the answers to
the class and the view at the end depend on the class's own calls.
-/

namespace Council.Projections

universe u v w x
variable {State : Type u} {Call : Type v} {Answer : Type w} {View : Type x}

/-- A history: each call with its answer, and the state at the end. -/
def history (respond : State → Call → Answer × State) :
    State → List Call → List (Call × Answer) × State
  | state, [] => ([], state)
  | state, call :: rest =>
      let answered := respond state call
      let later := history respond answered.2 rest
      ((call, answered.1) :: later.1, later.2)

/-- What a class of calls sees of the state, and all it sees. -/
structure Sees (respond : State → Call → Answer × State) (mine : Call → Bool)
    (view : State → View) : Prop where
  alone : ∀ state call, mine call = false → view (respond state call).2 = view state
  acts : ∀ state other call, mine call = true → view state = view other →
    (respond state call).1 = (respond other call).1 ∧
      view (respond state call).2 = view (respond other call).2

section Histories

variable {respond : State → Call → Answer × State} {mine : Call → Bool}
  {view : State → View}

theorem history_filter (sees : Sees respond mine view) (calls : List Call)
    (state other : State) (same : view state = view other) :
    (history respond state calls).1.filter (fun entry => mine entry.1) =
        (history respond other (calls.filter mine)).1 ∧
      view (history respond state calls).2 =
        view (history respond other (calls.filter mine)).2 := by
  induction calls generalizing state other with
  | nil => exact ⟨rfl, same⟩
  | cons call rest ih =>
      cases isMine : mine call with
      | false =>
          have kept := (sees.alone state call isMine).trans same
          have later := ih (respond state call).2 other kept
          simp only [history, List.filter_cons, isMine]
          exact later
      | true =>
          have step := sees.acts state other call isMine same
          have later := ih (respond state call).2 (respond other call).2 step.2
          simp only [history, List.filter_cons, isMine, if_true]
          exact ⟨List.cons_eq_cons.mpr ⟨Prod.ext rfl step.1, later.1⟩, later.2⟩

theorem histories_agree (sees : Sees respond mine view) (calls others : List Call)
    (state other : State) (same : view state = view other)
    (sameCalls : calls.filter mine = others.filter mine) :
    (history respond state calls).1.filter (fun entry => mine entry.1) =
        (history respond other others).1.filter (fun entry => mine entry.1) ∧
      view (history respond state calls).2 = view (history respond other others).2 := by
  have first := history_filter sees calls state other same
  have second := history_filter sees others other other rfl
  rw [sameCalls] at first
  exact ⟨first.1.trans second.1.symm, first.2.trans second.2.symm⟩

end Histories

end Council.Projections

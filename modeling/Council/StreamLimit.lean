import Council.Unwinding
import Mathlib.Data.Fintype.Card

/-!
How many provider streams of one debate are in flight. Uncancelled, each has a
goroutine that reads it, and the errgroup holds at most `limit` of those;
cancelled, the number only falls as long as no stream starts.
-/

namespace Council.StreamLimit

open Council.Machines
open Council.Provider
open Council.Orchestration
open Council.DebateShape
open Council.Unwinding

variable {count : Nat} {debate : Debate count} {state before after : State count}
  {action : Action count}

/-- The calls whose stream has started and not ended. -/
def inFlight (debate : Debate count) (state : State count) : Finset (Call count) :=
  (roster debate).filter fun call => (state.calls call).source.inFlight = true

theorem running_current (shape : Shape debate state) {call : Call count}
    (running : (state.calls call).pc.running = true) :
    (∃ round next seat, state.main = .spawning round next ∧ call = ⟨round, some seat⟩) ∨
      state.main = .moderating ∧ call = ⟨debate.rounds + 1, none⟩ := by
  have fits := shape.staged call
  have busy : (state.calls call).pc ≠ .idle ∧ (state.calls call).pc ≠ .finished := by
    constructor
    · intro idle
      rw [idle] at running
      cases running
    · intro finished
      rw [finished] at running
      cases running
  obtain ⟨own, speaker⟩ := call
  cases at_ : state.main with
  | spawning round next =>
      rw [at_] at fits
      cases speaker with
      | none => exact absurd fits busy.1
      | some seat =>
          simp only [stage] at fits
          split at fits
          · exact absurd fits busy.1
          · split at fits
            · rename_i here
              exact .inl ⟨round, next, seat, rfl, by rw [here]⟩
            · exact absurd fits busy.2
  | announcing round =>
      rw [at_] at fits
      exact ((settled_of_announcing fits).elim busy.1 busy.2).elim
  | moderating =>
      by_cases here : (⟨own, speaker⟩ : Call count) = ⟨debate.rounds + 1, none⟩
      · exact .inr ⟨rfl, here⟩
      · rw [at_, stage_last _ here] at fits
        exact ((settled_of_announcing fits).elim busy.1 busy.2).elim
  | returning =>
      rw [at_] at fits
      exact (fits.elim busy.1 busy.2).elim
  | closed =>
      rw [at_] at fits
      exact (fits.elim busy.1 busy.2).elim

/-- Any stream this step asks for is refused. -/
def Refused (debate : Debate count) (state : State count) (action : Action count) : Prop :=
  ∀ call, action = .stream call .start →
    ∃ reason, debate.provider call (debate.request state.transcript call) = .error reason

/-- `out` is closed, and no stream is in flight. -/
def Settled (debate : Debate count) (state : State count) : Prop :=
  state.main = .closed ∧ inFlight debate state = ∅

end Council.StreamLimit

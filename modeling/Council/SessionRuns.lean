import Council.HandleSession

/-!
What holds of every session, whatever its client does: a debate that runs is
that of a valid ask, its state is one `Run` reaches by itself, and the handler
has one in its loop and none before it.
-/

namespace Council.SessionRuns

open Council.Machines
open Council.ServerProtocol
open Council.Orchestration
open Council.DebateShape
open Council.HandleSession

variable {count : Nat}

section Offers
variable {debate : Debate count} {state after : State count}
  {action : Orchestration.Action count}

theorem offered_events (taken : Orchestration.step debate state action = some after) :
    after.events = state.events ++ (offered state action).toList := by
  cases Orchestration.moves_of_step debate state after action taken with
  | another at_ left => simp [offered, at_, State.events]
  | last at_ over_ => simp [offered, at_, State.events]
  | @stream call action stream events advanced =>
      cases advanced with
      | sent emits => simp [offered, emits, State.events]
      | _ => simp [offered, State.events]
  | _ => simp [offered, State.events]

theorem reachable_cancel (reachable : Reachable debate state) :
    Reachable debate (cancel (debate, state)).2 := by
  obtain ⟨start, reached⟩ := reachable
  by_cases done : state.cancelled = true
  · refine ⟨start, ?_⟩
    have same : (cancel (debate, state)).2 = state := by
      simp only [cancel, ← done]
    rwa [same]
  · have cancels : Orchestration.step debate state .cancel =
        some (cancel (debate, state)).2 := by
      simp [Orchestration.step, done, cancel]
    exact ⟨start, .next reached trivial cancels⟩

theorem reachable_step (reachable : Reachable debate state)
    (taken : Orchestration.step debate state action = some after) : Reachable debate after := by
  obtain ⟨start, reached⟩ := reachable
  exact ⟨start, .next reached trivial taken⟩

end Offers

/-- The debate is that of a valid ask, and its state one `Run` reaches. -/
def Running (handler : Handler count) (run : Debate count × State count) : Prop :=
  (∃ message : ClientMessage, message.validate = none ∧ run.1 = handler.debate message) ∧
    Reachable run.1 run.2

/-- The handler is at the head of its loop or at the write in it. -/
def InLoop : Phase → Prop
  | .looping => True
  | .writing _ _ => True
  | _ => False

/-- The ask has not been accepted yet. -/
def Early : Phase → Prop
  | .accepting => True
  | .reading => True
  | .validating _ => True
  | .refusing => True
  | _ => False

structure Sound (handler : Handler count) (session : Session count) : Prop where
  runs : ∀ run, session.run = some run → Running handler run
  looping : InLoop session.phase → session.run.isSome
  early : Early session.phase → session.run = none

theorem running_cancel {handler : Handler count} {run : Debate count × State count}
    (running : Running handler run) : Running handler (cancel run) :=
  ⟨running.1, reachable_cancel running.2⟩

theorem sound_step {handler : Handler count} {session after : Session count}
    {action : HandleSession.Action count}
    (taken : HandleSession.step handler session action = some after)
    (sound : Sound handler session) : Sound handler after := by
  have runs := sound.runs
  have looping := sound.looping
  have early := sound.early
  cases HandleSession.moves_of_step handler session after action taken with
  | send frame present => exact ⟨runs, looping, early⟩
  | leave present => exact ⟨runs, looping, early⟩
  | accept at_ succeeds =>
      rw [at_] at early
      refine ⟨runs, fun inside => ?_, fun _ => early trivial⟩
      cases succeeds <;> cases inside
  | read at_ first =>
      rw [at_] at early
      exact ⟨runs, fun inside => inside.elim, fun _ => early trivial⟩
  | garbled at_ first => exact ⟨runs, fun inside => inside.elim, fun before => before.elim⟩
  | interrupt at_ gone => exact ⟨runs, fun inside => inside.elim, fun before => before.elim⟩
  | invalid at_ wrong =>
      rw [at_] at early
      exact ⟨runs, fun inside => inside.elim, fun _ => early trivial⟩
  | @valid message at_ accepted =>
      refine ⟨fun run starts => ?_, fun _ => rfl, fun before => before.elim⟩
      cases starts
      exact ⟨⟨message, accepted, rfl⟩, false, .refl⟩
  | refuse at_ succeeds => exact ⟨runs, fun inside => inside.elim, fun before => before.elim⟩
  | inner here kept advanced silent =>
      have running := runs _ here
      refine ⟨fun run now => ?_, fun _ => rfl, fun before => ?_⟩
      · cases now
        exact ⟨running.1, reachable_step running.2 advanced⟩
      · rw [early before] at here
        cases here
  | receive at_ here kept advanced offers =>
      have running := runs _ here
      refine ⟨fun run now => ?_, fun _ => rfl, fun before => before.elim⟩
      cases now
      exact ⟨running.1, reachable_step running.2 advanced⟩
  | drained at_ here closed =>
      refine ⟨fun run now => ?_, fun inside => inside.elim, fun before => before.elim⟩
      cases now
      exact running_cancel (runs _ here)
  | wrote at_ took =>
      rw [at_] at looping
      exact ⟨runs, fun _ => looping trivial, fun before => before.elim⟩
  | failed at_ =>
      refine ⟨fun run now => ?_, fun inside => inside.elim, fun before => before.elim⟩
      obtain ⟨old, here, same⟩ := Option.map_eq_some_iff.mp now
      subst same
      exact running_cancel (runs old here)
  | disconnect here cause fresh =>
      refine ⟨fun run now => ?_, fun _ => rfl, fun before => ?_⟩
      · cases now
        exact running_cancel (runs _ here)
      · rw [early before] at here
        cases here

theorem sound_initial (handler : Handler count) : Sound handler {} :=
  ⟨fun _ starts => (by cases starts), fun inside => inside.elim, fun _ => rfl⟩

theorem sound_reachable {handler : Handler count} {session : Session count}
    (reached : Reaches (HandleSession.step handler) always {} session) : Sound handler session :=
  reached.invariant (Sound handler) (sound_initial handler)
    fun _ _ _ _ _ taken sound => sound_step taken sound

section Debates
variable (handler : Handler count) {message : ClientMessage}

theorem debate_rounds (valid : message.validate = none) :
    2 ≤ (handler.debate message).rounds ∧ (handler.debate message).rounds ≤ 8 := by
  simp only [Handler.debate]
  split
  · simp [DefaultRounds]
  · rename_i given
    rcases validate_rounds message valid with absent | ⟨low, high, _⟩
    · exact absurd absent given
    · omega

end Debates

end Council.SessionRuns

import Mathlib.Logic.Function.Basic
import Council.Protocol
import Council.CappedAppend

/-!
The pure reducer of `frontend/src/state/debateReducer.ts`. The transcript is a
partial map from persona and round to text; a persona without any cell and a
persona with an empty record are the same here, as they are for every reader
of the transcript.
-/

namespace Council.DebateReducer
open Protocol CappedAppend

inductive DebatePhase where
  | idle
  | connecting
  | debating
  | moderating
  | done
  | stopped
  | error
  deriving DecidableEq, Repr

inductive WsStatus where
  | idle
  | connecting
  | opened
  | closed
  | error
  deriving DecidableEq, Repr

structure DebateError where
  persona : Option PersonaId
  message : Text
  deriving DecidableEq, Repr

abbrev Transcript := PersonaId → Nat → Option Text

structure DebateState where
  phase : DebatePhase
  currentRound : Nat
  transcript : Transcript
  activeSpeakers : List PersonaId
  verdict : Text
  errors : List DebateError

/-- A wire event or a control signal. -/
inductive DebateInput where
  | event (event : DebateEvent)
  | status (status : WsStatus)
  | transport (message : Text)
  | cancel
  deriving DecidableEq, Repr

def MAX_ERRORS : Nat := 50
def MAX_CELL_CHARS : Nat := 200000

def initialState : DebateState where
  phase := .idle
  currentRound := 0
  transcript := fun _ _ => none
  activeSpeakers := []
  verdict := []
  errors := []

def TERMINAL : DebatePhase → Bool
  | .done => true
  | .stopped => true
  | .error => true
  | _ => false

def withActive (active : List PersonaId) (persona : PersonaId) : List PersonaId :=
  if persona ∈ active then active else active ++ [persona]

def withoutActive (active : List PersonaId) (persona : PersonaId) : List PersonaId :=
  active.filter (· ≠ persona)

def withError (errors : List DebateError) (error : DebateError) : List DebateError :=
  let next := errors ++ [error]
  if next.length > MAX_ERRORS then next.drop (next.length - MAX_ERRORS) else next

/-- `transcript[persona][round]`, an absent cell read as `""`. -/
def cell (transcript : Transcript) (persona : PersonaId) (round : Nat) : Text :=
  (transcript persona round).getD []

def appendDelta (transcript : Transcript) (persona : PersonaId) (round : Nat)
    (delta : Text) : Transcript :=
  let combined := cell transcript persona round ++ delta
  Function.update transcript persona
    (Function.update (transcript persona) round (some (clip MAX_CELL_CHARS combined)))

def reduceStatus (state : DebateState) : WsStatus → DebateState
  | .connecting => { initialState with phase := .connecting }
  | .closed =>
      if TERMINAL state.phase then state
      else
        { state with
          phase := .error
          activeSpeakers := []
          errors := withError state.errors
            ⟨none, units "connection closed before a verdict"⟩ }
  | _ => state

def reduceEvent (state : DebateState) : DebateEvent → DebateState
  | .token persona round delta =>
      { state with
        phase := if persona = MODERATOR_ID then .moderating else .debating
        currentRound := round
        transcript := appendDelta state.transcript persona round delta
        activeSpeakers := withActive state.activeSpeakers persona }
  | .personaDone persona _ =>
      { state with activeSpeakers := withoutActive state.activeSpeakers persona }
  | .roundComplete round => { state with currentRound := round }
  | .verdict verdict =>
      { state with
        phase := .done
        verdict := verdict
        activeSpeakers := withoutActive state.activeSpeakers MODERATOR_ID }
  | .error event =>
      { state with
        phase := if event.terminal then .error else state.phase
        activeSpeakers :=
          match event.persona with
          | none => []
          | some persona =>
              if persona = MODERATOR_ID then []
              else withoutActive state.activeSpeakers persona
        errors := withError state.errors
          ⟨event.persona,
            if event.error = [] then units "an error occurred" else event.error⟩ }

def debateReducer (state : DebateState) : DebateInput → DebateState
  | .event event => reduceEvent state event
  | .status status => reduceStatus state status
  | .transport message =>
      { state with errors := withError state.errors ⟨none, message⟩ }
  | .cancel =>
      if TERMINAL state.phase then state
      else { state with phase := .stopped, activeSpeakers := [] }

def reduceAll (state : DebateState) (inputs : List DebateInput) : DebateState :=
  inputs.foldl debateReducer state

@[simp]
theorem reduce_all_nil (state : DebateState) : reduceAll state [] = state := rfl

@[simp]
theorem reduce_all_cons (state : DebateState) (input : DebateInput)
    (rest : List DebateInput) :
    reduceAll state (input :: rest) = reduceAll (debateReducer state input) rest := rfl

theorem reduce_all_append (state : DebateState) (first second : List DebateInput) :
    reduceAll state (first ++ second) = reduceAll (reduceAll state first) second :=
  List.foldl_append

theorem append_delta_cell (transcript : Transcript) (persona : PersonaId) (round : Nat)
    (delta : Text) :
    cell (appendDelta transcript persona round delta) persona round =
      appendCapped MAX_CELL_CHARS (cell transcript persona round) delta := by
  rw [cell, appendDelta, Function.update_self, Function.update_self, clip_eq_take]
  rfl

theorem append_delta_other (transcript : Transcript) (persona other : PersonaId)
    (round otherRound : Nat) (delta : Text)
    (apart : ¬ (other = persona ∧ otherRound = round)) :
    appendDelta transcript persona round delta other otherRound =
      transcript other otherRound := by
  unfold appendDelta
  by_cases same : other = persona
  · subst other
    have apartRound : otherRound ≠ round := fun equal => apart ⟨rfl, equal⟩
    rw [Function.update_self, Function.update_of_ne apartRound]
  · rw [Function.update_of_ne same]

theorem append_delta_append (transcript : Transcript) (persona : PersonaId) (round : Nat)
    (first second : Text) :
    appendDelta (appendDelta transcript persona round first) persona round second =
      appendDelta transcript persona round (first ++ second) := by
  have capped := append_capped_append MAX_CELL_CHARS (cell transcript persona round) first second
  simp only [appendCapped] at capped
  simp only [appendDelta, cell, Function.update_idem, Function.update_self, Option.getD_some,
    clip_eq_take] at capped ⊢
  rw [capped]

theorem with_active_again (active : List PersonaId) (persona : PersonaId) :
    withActive (withActive active persona) persona = withActive active persona := by
  unfold withActive
  by_cases speaking : persona ∈ active
  · simp [speaking]
  · simp [speaking]

end Council.DebateReducer

import Mathlib.Data.Finset.Max
import Mathlib.Data.Finset.Lattice.Fold
import Mathlib.Order.Lattice.Nat
import Mathlib.Algebra.Order.Ring.Rat
import Council.DebateReducer

/-!
The three views the 3D stage derives from the debate state
(`frontend/src/three`): the robots, the speech bubbles and the camera. The keys
of a persona's rounds are carried next to the state, since its transcript is a
function here. Seat positions are computed with sines and cosines in the source
and are a parameter; the other numbers are exact.
-/

namespace Council.StageViews
open Protocol DebateReducer

def PERSONA_IDS : List PersonaId := [.skeptic, .optimist, .expert, .contrarian, .moderator]

/-- `Object.keys` of every persona's rounds. -/
structure Keyed (state : DebateState) where
  keys : PersonaId → Finset Nat
  exact : ∀ persona round, round ∈ keys persona ↔ (state.transcript persona round).isSome = true

inductive RobotStatus where
  | idle
  | thinking
  | talking
  | done
  deriving DecidableEq, Repr

structure RobotVisualState where
  id : PersonaId
  status : RobotStatus
  speaking : Bool
  dimmed : Bool
  round : Nat
  deriving DecidableEq, Repr

def VERDICT_PHASES : DebatePhase → Bool
  | .moderating => true
  | .done => true
  | _ => false

def hasSpokenIn (state : DebateState) (id : PersonaId) (round : Nat) : Bool :=
  (state.transcript id round).isSome

def hasSpokenEver {state : DebateState} (keyed : Keyed state) (id : PersonaId) : Bool :=
  (keyed.keys id).card > 0

def panelistStatus (state : DebateState) (keyed : Keyed state) (id : PersonaId) : RobotStatus :=
  match state.phase with
  | .idle => .idle
  | .connecting => .idle
  | .debating =>
      if id ∈ state.activeSpeakers then .talking
      else if hasSpokenIn state id state.currentRound then .done else .thinking
  | .moderating => if hasSpokenEver keyed id then .done else .idle
  | .done => if hasSpokenEver keyed id then .done else .idle
  | .stopped => if hasSpokenEver keyed id then .done else .idle
  | .error => if hasSpokenEver keyed id then .done else .idle

def moderatorStatus (state : DebateState) (keyed : Keyed state) : RobotStatus :=
  if state.phase = .moderating then .talking
  else if state.phase = .done then .done
  else if state.phase = .stopped ∨ state.phase = .error then
    if hasSpokenEver keyed MODERATOR_ID then .done else .idle
  else .idle

def robotOf (state : DebateState) (keyed : Keyed state) (id : PersonaId) : RobotVisualState :=
  let status :=
    if id = MODERATOR_ID then moderatorStatus state keyed else panelistStatus state keyed id
  { id := id
    status := status
    speaking := status = .talking
    dimmed := VERDICT_PHASES state.phase && id ≠ MODERATOR_ID
    round := state.currentRound }

def robotVisualState (state : DebateState) (keyed : Keyed state) : List RobotVisualState :=
  PERSONA_IDS.map (robotOf state keyed)

structure PersonaMeta where
  displayName : String
  role : String
  deriving DecidableEq, Repr

def personaMeta : PersonaId → PersonaMeta
  | .skeptic => ⟨"The Skeptic", "Stress-tests the claim"⟩
  | .optimist => ⟨"The Optimist", "Argues the upside"⟩
  | .expert => ⟨"Domain Expert", "Brings the evidence"⟩
  | .contrarian => ⟨"The Contrarian", "Reframes the problem"⟩
  | .moderator => ⟨"The Moderator", "Synthesizes the verdict"⟩

inductive BubbleMode where
  | nameplate
  | streaming
  | settled
  | verdict
  deriving DecidableEq, Repr

structure PersonaBubble where
  id : PersonaId
  displayName : String
  role : String
  text : Text
  mode : BubbleMode
  streaming : Bool
  dimmed : Bool
  deriving DecidableEq, Repr

/-- The text of the largest round key; without keys there is none. -/
def latestRoundText (state : DebateState) (keyed : Keyed state) (id : PersonaId) : Text :=
  cell state.transcript id ((keyed.keys id).sup fun round => round)

def panelistBubble (state : DebateState) (keyed : Keyed state) (visual : RobotVisualState) :
    PersonaBubble :=
  let base (text : Text) (mode : BubbleMode) (streaming : Bool) : PersonaBubble :=
    { id := visual.id
      displayName := (personaMeta visual.id).displayName
      role := (personaMeta visual.id).role
      text := text
      mode := mode
      streaming := streaming
      dimmed := visual.dimmed }
  if VERDICT_PHASES state.phase then base [] .nameplate false
  else
    match visual.status with
    | .talking => base (latestRoundText state keyed visual.id) .streaming true
    | .done => base (latestRoundText state keyed visual.id) .settled false
    | .idle => base [] .nameplate false
    | .thinking => base [] .nameplate false

def moderatorBubble (state : DebateState) (keyed : Keyed state) (visual : RobotVisualState) :
    PersonaBubble :=
  let base (text : Text) (mode : BubbleMode) (streaming : Bool) : PersonaBubble :=
    { id := MODERATOR_ID
      displayName := (personaMeta MODERATOR_ID).displayName
      role := (personaMeta MODERATOR_ID).role
      text := text
      mode := mode
      streaming := streaming
      dimmed := visual.dimmed }
  if state.phase = .moderating then base (latestRoundText state keyed MODERATOR_ID) .verdict true
  else if state.phase = .done then base state.verdict .verdict false
  else base [] .nameplate false

def bubbleOf (state : DebateState) (keyed : Keyed state) (id : PersonaId) : PersonaBubble :=
  if id = MODERATOR_ID then moderatorBubble state keyed (robotOf state keyed id)
  else panelistBubble state keyed (robotOf state keyed id)

def personaBubbles (state : DebateState) (keyed : Keyed state) : List PersonaBubble :=
  PERSONA_IDS.map (bubbleOf state keyed)

structure CameraTarget where
  lookAt : Rat × Rat × Rat
  distance : Rat
  deriving DecidableEq, Repr

def HEAD_LABEL_HEIGHT : Rat := 5 / 2
def COUNCIL_LOOK : Rat × Rat × Rat := (0, 9 / 10, 0)
def COUNCIL_DISTANCE : Rat := 42 / 5
def FOCUS_HEIGHT : Rat := HEAD_LABEL_HEIGHT - 9 / 10
def FOCUS_DISTANCE : Rat := 31 / 5

def councilShot : CameraTarget := { lookAt := COUNCIL_LOOK, distance := COUNCIL_DISTANCE }

section Camera
variable (position : PersonaId → Rat × Rat × Rat)

def focusSeat (id : PersonaId) : CameraTarget where
  lookAt := ((position id).1, FOCUS_HEIGHT, (position id).2.2)
  distance := FOCUS_DISTANCE

def cameraTargetFor (state : DebateState) : CameraTarget :=
  if VERDICT_PHASES state.phase then focusSeat position MODERATOR_ID
  else if state.phase = .debating then
    match state.activeSpeakers with
    | [speaker] => focusSeat position speaker
    | _ => councilShot
  else councilShot

end Camera

/-- What one speaker at a time means for a state: the views use the phase, the
roster, the largest round and the current round, and these fit together. -/
structure OnStage (state : DebateState) : Prop where
  moderating : state.phase = .moderating ↔ MODERATOR_ID ∈ state.activeSpeakers
  debating : ∀ speaker ∈ state.activeSpeakers, speaker ≠ MODERATOR_ID → state.phase = .debating
  single : state.activeSpeakers.length ≤ 1
  heard : ∀ speaker ∈ state.activeSpeakers,
    (state.transcript speaker state.currentRound).isSome = true
  latest : ∀ speaker ∈ state.activeSpeakers, ∀ round,
    (state.transcript speaker round).isSome = true → round ≤ state.currentRound
  begun : state.phase = .debating → 1 ≤ state.currentRound

/-- The three views name the same speaker. -/
structure ViewsAgree (position : PersonaId → Rat × Rat × Rat) (state : DebateState) : Prop where
  keyed : Nonempty (Keyed state)
  moderating : state.phase = .moderating ↔ MODERATOR_ID ∈ state.activeSpeakers
  talking : ∀ keyed : Keyed state,
    ((robotVisualState state keyed).filter fun robot => robot.status = .talking).map (·.id) =
      state.activeSpeakers
  streaming : ∀ keyed : Keyed state,
    ((personaBubbles state keyed).filter (·.streaming)).map (·.id) = state.activeSpeakers
  single : state.activeSpeakers.length ≤ 1
  framed : ∀ speaker ∈ state.activeSpeakers,
    cameraTargetFor position state = focusSeat position speaker
  text : ∀ keyed : Keyed state, ∀ speaker ∈ state.activeSpeakers,
    ∀ bubble ∈ personaBubbles state keyed, bubble.id = speaker →
      state.transcript speaker state.currentRound = some bubble.text
  resting : state.activeSpeakers = [] →
    cameraTargetFor position state =
      if state.phase = .done then focusSeat position MODERATOR_ID else councilShot
  begun : state.phase = .debating → 1 ≤ state.currentRound

section Views
variable {state : DebateState} (keyed : Keyed state)

theorem panelist_talking_iff (id : PersonaId) :
    panelistStatus state keyed id = .talking ↔
      state.phase = .debating ∧ id ∈ state.activeSpeakers := by
  unfold panelistStatus
  cases state.phase with
  | debating =>
      by_cases speaking : id ∈ state.activeSpeakers
      · simp [speaking]
      · cases hasSpokenIn state id state.currentRound <;> simp [speaking]
  | moderating => cases hasSpokenEver keyed id <;> simp
  | done => cases hasSpokenEver keyed id <;> simp
  | stopped => cases hasSpokenEver keyed id <;> simp
  | error => cases hasSpokenEver keyed id <;> simp
  | idle => simp
  | connecting => simp

theorem moderator_talking_iff :
    moderatorStatus state keyed = .talking ↔ state.phase = .moderating := by
  unfold moderatorStatus
  cases state.phase <;> cases hasSpokenEver keyed MODERATOR_ID <;> simp

theorem robot_talking_iff (onStage : OnStage state) (id : PersonaId) :
    (robotOf state keyed id).status = .talking ↔ id ∈ state.activeSpeakers := by
  by_cases moderator : id = MODERATOR_ID
  · subst moderator
    simp only [robotOf, if_true, moderator_talking_iff, onStage.moderating]
  · simp only [robotOf, moderator, if_false, panelist_talking_iff]
    exact ⟨fun both => both.2, fun speaking => ⟨onStage.debating id speaking moderator, speaking⟩⟩

theorem bubble_streaming_iff (onStage : OnStage state) (id : PersonaId) :
    (bubbleOf state keyed id).streaming = true ↔ id ∈ state.activeSpeakers := by
  rw [← robot_talking_iff keyed onStage]
  by_cases moderator : id = MODERATOR_ID
  · subst moderator
    simp only [robotOf, bubbleOf, if_true, moderator_talking_iff, moderatorBubble]
    cases state.phase <;> simp
  · simp only [bubbleOf, moderator, if_false, panelistBubble]
    by_cases closing : VERDICT_PHASES state.phase = true
    · -- a panelist talks in the debate only
      have silent : (robotOf state keyed id).status ≠ .talking := by
        simp only [robotOf, moderator, if_false, ne_eq, panelist_talking_iff]
        rintro ⟨debating, -⟩
        rw [debating] at closing
        cases closing
      simp [closing, silent]
    · simp only [closing]
      cases (robotOf state keyed id).status <;> simp

theorem bubble_id (id : PersonaId) : (bubbleOf state keyed id).id = id := by
  by_cases moderator : id = MODERATOR_ID
  · subst moderator
    simp only [bubbleOf, moderatorBubble, if_true]
    split
    · rfl
    · split <;> rfl
  · simp only [bubbleOf, moderator, if_false, panelistBubble]
    split
    · rfl
    · split <;> rfl

theorem latest_text (onStage : OnStage state) (id : PersonaId)
    (speaking : id ∈ state.activeSpeakers) :
    state.transcript id state.currentRound = some (latestRoundText state keyed id) := by
  have heard := onStage.heard id speaking
  have largest : (keyed.keys id).sup (fun round => round) = state.currentRound := by
    apply Nat.le_antisymm
    · exact Finset.sup_le fun round key =>
        onStage.latest id speaking round ((keyed.exact id round).mp key)
    · exact Finset.le_sup (f := fun round => round)
        ((keyed.exact id state.currentRound).mpr heard)
  obtain ⟨text, known⟩ := Option.isSome_iff_exists.mp heard
  rw [latestRoundText, largest, cell, known, Option.getD_some]

theorem bubble_text (id : PersonaId) (onStage : OnStage state)
    (speaking : id ∈ state.activeSpeakers) :
    (bubbleOf state keyed id).text = latestRoundText state keyed id := by
  by_cases moderator : id = MODERATOR_ID
  · subst moderator
    simp [bubbleOf, moderatorBubble, onStage.moderating.mpr speaking]
  · have talking := (robot_talking_iff keyed onStage id).mpr speaking
    have debating := onStage.debating id speaking moderator
    have open_ : VERDICT_PHASES state.phase = false := by
      rw [debating]
      rfl
    simp only [bubbleOf, moderator, if_false, panelistBubble, talking, open_]
    rfl

theorem filter_roster (onStage : OnStage state) :
    PERSONA_IDS.filter (fun id => decide (id ∈ state.activeSpeakers)) =
      state.activeSpeakers := by
  have single := onStage.single
  cases roster : state.activeSpeakers with
  | nil => rfl
  | cons speaker rest =>
      rw [roster, List.length_cons] at single
      have alone : rest = [] := List.length_eq_zero_iff.mp (by omega)
      subst alone
      cases speaker <;> decide

theorem camera_speaking (position : PersonaId → Rat × Rat × Rat) (onStage : OnStage state)
    (id : PersonaId) (speaking : id ∈ state.activeSpeakers) :
    cameraTargetFor position state = focusSeat position id := by
  have single := onStage.single
  have roster : state.activeSpeakers = [id] := by
    cases known : state.activeSpeakers with
    | nil =>
        rw [known] at speaking
        cases speaking
    | cons speaker rest =>
        rw [known, List.length_cons] at single
        have alone : rest = [] := List.length_eq_zero_iff.mp (by omega)
        rw [known, alone, List.mem_singleton] at speaking
        rw [alone, speaking]
  by_cases moderator : id = MODERATOR_ID
  · subst moderator
    simp [cameraTargetFor, onStage.moderating.mpr speaking, VERDICT_PHASES]
  · simp [cameraTargetFor, onStage.debating id speaking moderator, VERDICT_PHASES, roster]

theorem camera_resting (position : PersonaId → Rat × Rat × Rat) (onStage : OnStage state)
    (empty : state.activeSpeakers = []) :
    cameraTargetFor position state =
      if state.phase = .done then focusSeat position MODERATOR_ID else councilShot := by
  have silent : state.phase ≠ .moderating := by
    intro moderating
    have speaking := onStage.moderating.mp moderating
    rw [empty] at speaking
    cases speaking
  unfold cameraTargetFor
  rw [empty]
  cases phase : state.phase with
  | moderating => exact absurd phase silent
  | _ => simp [VERDICT_PHASES]

end Views

theorem views_agree (position : PersonaId → Rat × Rat × Rat) {state : DebateState}
    (keyed : Nonempty (Keyed state)) (onStage : OnStage state) : ViewsAgree position state where
  keyed := keyed
  moderating := onStage.moderating
  talking := by
    intro keyed
    rw [robotVisualState, List.filter_map, List.map_map]
    have same : ∀ id ∈ PERSONA_IDS, decide ((robotOf state keyed id).status = .talking) =
        decide (id ∈ state.activeSpeakers) := by
      intro id _
      exact decide_eq_decide.mpr (robot_talking_iff keyed onStage id)
    have named : (fun robot : RobotVisualState => robot.id) ∘ robotOf state keyed = id := rfl
    rw [named, List.map_id, Function.comp_def, List.filter_congr same, filter_roster onStage]
  streaming := by
    intro keyed
    rw [personaBubbles, List.filter_map, List.map_map]
    have same : ∀ id ∈ PERSONA_IDS, (bubbleOf state keyed id).streaming =
        decide (id ∈ state.activeSpeakers) := by
      intro id _
      rw [Bool.eq_iff_iff, bubble_streaming_iff keyed onStage, decide_eq_true_eq]
    have named : (fun bubble : PersonaBubble => bubble.id) ∘ bubbleOf state keyed = id :=
      funext (bubble_id keyed)
    rw [named, List.map_id, Function.comp_def, List.filter_congr same, filter_roster onStage]
  single := onStage.single
  framed := camera_speaking position onStage
  text := by
    intro keyed speaker speaking bubble member same
    obtain ⟨id, _, rfl⟩ := List.mem_map.mp member
    rw [bubble_id] at same
    subst same
    rw [bubble_text keyed id onStage speaking]
    exact latest_text keyed onStage id speaking
  resting := camera_resting position onStage
  begun := onStage.begun

end Council.StageViews

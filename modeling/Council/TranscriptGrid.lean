import Council.ReadAsSaid
import Council.StageAgreement
import Council.UseSmoothText

/-!
The transcript as text: the four columns of `TranscriptGrid` with the blocks
`PersonaColumn` puts in them, one for each round. The columns are read off the
keys of the transcript and the round that is being told, so that every cell has
its block is a matter of every state the reducer reaches. A `RoundBlock` shows
what `useSmoothText` has revealed of its text.
-/

namespace Council.TranscriptGrid

open Council.Machines
open Council.Protocol
open Council.DebateReducer
open Council.DebatePlayer
open Council.PlayerRuns
open Council.Playbill
open Council.TurnOrder
open Council.Spoken
open Council.UseDebate
open Council.SessionPhases
open Council.StageViews
open Council.StageAgreement
open Council.Screen
open Council.Broadcast
open Council.EventText
open Council.EventAgreement
open Council.WholeSystem
open Council.AskWire
open Council.AskText
open Council.ReadAsSaid

/-- The props of a `RoundBlock`. -/
structure RoundBlock where
  round : Nat
  text : Text
  streaming : Bool
  deriving DecidableEq

inductive ColumnStatus where
  | idle
  | streaming
  | done
  deriving DecidableEq, Repr

/-- What a `PersonaColumn` renders. -/
structure PersonaColumn where
  id : PersonaId
  displayName : String
  role : String
  status : ColumnStatus
  rounds : List RoundBlock
  /-- The line in place of the rounds. -/
  awaiting : Bool
  errors : List Text
  deriving DecidableEq

section Columns
variable (state : DebateState) (keyed : Keyed state)

def panelMaxRound : Nat :=
  let fromText := (PANELISTS.map fun id => (keyed.keys id).sup fun round => round).foldr max 0
  if state.phase = .debating then max fromText state.currentRound else fromText

def isActive (id : PersonaId) : Bool := id ∈ state.activeSpeakers

def shownRounds (id : PersonaId) : List Nat :=
  (List.range' 1 (panelMaxRound state keyed)).filter fun round =>
    (state.transcript id round).isSome || (isActive state id && round == state.currentRound)

def roundBlock (id : PersonaId) (round : Nat) : RoundBlock where
  round := round
  text := cell state.transcript id round
  streaming := isActive state id && round == state.currentRound

def personaColumn (id : PersonaId) : PersonaColumn where
  id := id
  displayName := (personaMeta id).displayName
  role := (personaMeta id).role
  status :=
    if isActive state id then .streaming
    else if hasSpokenEver keyed id then .done else .idle
  rounds := (shownRounds state keyed id).map (roundBlock state id)
  awaiting := (shownRounds state keyed id).isEmpty
  errors := (state.errors.filter fun error => error.persona = some id).map (·.message)

def transcriptGrid : List PersonaColumn := PANELISTS.map (personaColumn state keyed)

end Columns

/-- The `useSmoothText` of a block on the page, last rendered with its props. -/
structure Reveals (catchUp : Nat → Nat) (block : RoundBlock) (smooth : UseSmoothText.SmoothText) :
    Prop where
  reached : ∃ target animate,
    Reaches (UseSmoothText.step catchUp) always (.mount target animate) smooth
  present : smooth.mounted = true
  target : smooth.target = block.text
  animate : smooth.animate = block.streaming

/-- Panelists speak in rounds counted from one. -/
def Numbered (state : DebateState) : Prop :=
  ∀ seat round, (state.transcript (panelist seat) round).isSome = true → 1 ≤ round

section Numbers

theorem numbered_initial : Numbered initialState := fun _ _ known => nomatch known

theorem numbered_reduce {state : DebateState} (input : DebateInput) (numbered : Numbered state)
    (later : ∀ seat round delta,
      input = .event (.token (panelist seat) round delta) → 1 ≤ round) :
    Numbered (debateReducer state input) := by
  intro seat round known
  cases input with
  | event event =>
      cases event with
      | token persona other delta =>
          rcases append_delta_some known with ⟨who, same⟩ | old
          · rw [same]
            exact later seat other delta (by rw [who])
          · exact numbered seat round old
      | personaDone persona other => exact numbered seat round known
      | roundComplete other => exact numbered seat round known
      | verdict verdict => exact numbered seat round known
      | error error => exact numbered seat round known
  | status status =>
      cases status with
      | connecting => cases known
      | closed =>
          simp only [debateReducer, reduceStatus] at known
          split at known
          · exact numbered seat round known
          · exact numbered seat round known
      | _ => exact numbered seat round known
  | transport => exact numbered seat round known
  | cancel =>
      simp only [debateReducer] at known
      split at known
      · exact numbered seat round known
      · exact numbered seat round known

theorem numbered_reduce_all {state : DebateState} (inputs : List DebateInput)
    (numbered : Numbered state)
    (later : ∀ seat round delta,
      .event (.token (panelist seat) round delta) ∈ inputs → 1 ≤ round) :
    Numbered (reduceAll state inputs) := by
  induction inputs generalizing state with
  | nil => exact numbered
  | cons input rest ih =>
      apply ih
      · apply numbered_reduce input numbered
        rintro seat round delta rfl
        exact later seat round delta List.mem_cons_self
      · intro seat round delta member
        exact later seat round delta (List.mem_cons_of_mem input member)

theorem rendered_numbered {seat : Seat} {round : Nat} {delta : Text} (place : Nat)
    (turns : List Shown)
    (member : .event (.token (panelist seat) round delta) ∈ renderTurns place turns) :
    1 ≤ round := by
  induction turns generalizing place with
  | nil => cases member
  | cons shown rest ih =>
      rcases List.mem_append.mp member with here | there
      · rcases List.mem_append.mp here with told | after
        · rcases List.mem_map.mp told with ⟨chunk, _, same⟩
          simp only [DebateInput.event.injEq, DebateEvent.token.injEq] at same
          rw [← same.2.1]
          exact Nat.le_add_left 1 _
        · simp only [afterTurn, List.mem_append, List.mem_singleton, List.mem_map] at after
          rcases after with (done | complete) | ⟨error, _, same⟩
          · cases done
          · split at complete
            · cases List.mem_singleton.mp complete
            · cases complete
          · cases same
      · exact ih (place + 1) there

theorem played_numbered {first player : Player} {arrived : List Arrival} {log : List DebateInput}
    (played : Played anyArrival (reset first) arrived log player) {seat : Seat} {round : Nat}
    {delta : Text} (member : .event (.token (panelist seat) round delta) ∈ log) : 1 ≤ round := by
  rcases (sound_invariant _).played played with ⟨script, stage, _, _, faithful⟩
  rcases stage_prefix stage faithful.failures fun finale same => (faithful.ending finale same).1
    with ⟨whole, complete, begun⟩
  have told := begun.subset member
  rcases complete.ending with ⟨finale, closing, ends⟩
  rw [Script.render, closing] at told
  rcases List.mem_append.mp told with turn | last
  · exact rendered_numbered 0 whole.turns turn
  · rcases List.mem_append.mp last with spoken | ending
    · rcases List.mem_map.mp spoken with ⟨chunk, _, same⟩
      simp only [DebateInput.event.injEq, DebateEvent.token.injEq] at same
      exact absurd same.1.symm (panelist_ne_moderator seat)
    · rw [← List.mem_singleton.mp ending] at ends
      cases ends

end Numbers

/-- What holds of the hook after every call: nobody's cell is out of the
columns, and who speaks does so last. -/
structure Staged (hook : Hook) : Prop where
  kept : Kept hook
  onStage : OnStage hook.state
  numbered : Numbered hook.state
  keyed : Nonempty (Keyed hook.state)

section Hooks
variable {parse : Text → Except Text DebateEvent} {hook : Hook}

theorem staged_create (reducedMotion : Bool) : Staged (createHook reducedMotion) :=
  ⟨kept_create reducedMotion, on_stage_initial, numbered_initial, keyed_initial⟩

theorem step_numbered (staged : Staged hook) (op : HookOp) (accepted : op.accepted = true)
    {seat : Seat} {round : Nat} {delta : Text}
    (member : .event (.token (panelist seat) round delta) ∈ (hookStep parse hook op).2) :
    1 ≤ round := by
  by_cases asked : op.isAsk = true
  · cases op with
    | ask question rounds =>
        rcases accepted_built question rounds accepted with ⟨message, built⟩
        rw [hookStep, ask_accepted hook question rounds message built] at member
        cases List.mem_singleton.mp member
    | _ => cases asked
  · by_cases stopped : op = .stop
    · subst stopped
      cases List.mem_singleton.mp member
    · have effect := hook_step_effect parse hook op (by simpa using asked) stopped
      cases staged.kept.situation with
      | quiet deaf unarmed blocked _ =>
          rw [(deaf_effect deaf unarmed blocked effect).silent] at member
          cases member
      | session first arrived log played rested view gone =>
          rcases effect_called effect with nothing | ⟨call, called⟩
          · rw [nothing] at member
            cases member
          · rw [called.dispatched] at member
            have later := played.apply call called.inSession fun _ _ => trivial
            exact played_numbered later (List.mem_append_right log
              (List.mem_filter.mpr ⟨member, rfl⟩))

theorem staged_step (staged : Staged hook) (op : HookOp) (accepted : op.accepted = true) :
    Staged (hookStep parse hook op).1 := by
  have along := hook_step_on_stage parse staged.kept staged.onStage op accepted
  have state := hook_step_state parse hook op
  refine ⟨kept_step parse staged.kept op accepted, ?_, ?_, ?_⟩
  · rw [state]
    exact (along_beginning along (List.prefix_refl _)).2
  · rw [state]
    apply numbered_reduce_all _ staged.numbered
    intro seat round delta member
    exact step_numbered staged op accepted member
  · rw [state]
    exact keyed_reduce_all staged.keyed _

theorem staged_run (staged : Staged hook) (ops : List HookOp)
    (accepted : ∀ op ∈ ops, op.accepted = true) : Staged (runHook parse hook ops).1 := by
  induction ops generalizing hook with
  | nil => exact staged
  | cons op rest ih =>
      apply ih (staged_step staged op (accepted op List.mem_cons_self))
      exact fun other member => accepted other (List.mem_cons_of_mem op member)

end Hooks

section Shown
variable {state : DebateState} (keyed : Keyed state)

theorem round_within (seat : Seat) (round : Nat)
    (known : (state.transcript (panelist seat) round).isSome = true) :
    round ≤ panelMaxRound state keyed := by
  have key := (keyed.exact (panelist seat) round).mpr known
  have top : round ≤ (keyed.keys (panelist seat)).sup fun round => round :=
    Finset.le_sup (f := fun round => round) key
  have listed : panelist seat ∈ PANELISTS := List.get_mem _ _
  have covered : round ≤ (PANELISTS.map fun id =>
      (keyed.keys id).sup fun round => round).foldr max 0 :=
    List.le_max_of_le' 0 (List.mem_map.mpr ⟨_, listed, rfl⟩) top
  unfold panelMaxRound
  dsimp only
  split
  · exact covered.trans (Nat.le_max_left _ _)
  · exact covered

theorem mem_shown_rounds (onStage : OnStage state) (numbered : Numbered state) (seat : Seat)
    (round : Nat) : round ∈ shownRounds state keyed (panelist seat) ↔
      (state.transcript (panelist seat) round).isSome = true := by
  rw [shownRounds, List.mem_filter, List.mem_range'_1, Bool.or_eq_true, Bool.and_eq_true,
    beq_iff_eq]
  constructor
  · rintro ⟨_, known | ⟨active, rfl⟩⟩
    · exact known
    · exact onStage.heard _ (by simpa [isActive] using active)
  · intro known
    have top := round_within keyed seat round known
    have least := numbered seat round known
    exact ⟨⟨least, by omega⟩, .inl known⟩

theorem shown_rounds_sorted (id : PersonaId) :
    (shownRounds state keyed id).Pairwise (· < ·) :=
  List.Pairwise.filter _ List.pairwise_lt_range'

theorem shown_rounds_speaking (onStage : OnStage state) (numbered : Numbered state) (seat : Seat)
    (speaking : panelist seat ∈ state.activeSpeakers) :
    ∃ front, shownRounds state keyed (panelist seat) = front ++ [state.currentRound] ∧
      ∀ round ∈ front, round < state.currentRound := by
  have here := (mem_shown_rounds keyed onStage numbered seat state.currentRound).mpr
    (onStage.heard _ speaking)
  rcases List.append_of_mem here with ⟨front, later, split⟩
  have sorted := shown_rounds_sorted keyed (panelist seat)
  rw [split] at sorted
  have before := (List.pairwise_append.mp sorted).2.2
  have after := (List.pairwise_cons.mp (List.pairwise_append.mp sorted).2.1).1
  have none_ : later = [] := by
    rw [List.eq_nil_iff_forall_not_mem]
    intro round member
    have known := (mem_shown_rounds keyed onStage numbered seat round).mp (by
      rw [split]
      exact List.mem_append_right _ (List.mem_cons_of_mem _ member))
    exact absurd (onStage.latest _ speaking round known) (Nat.not_le.mpr (after round member))
  rw [none_] at split before
  exact ⟨front, split, fun round member => before round member _ List.mem_cons_self⟩

theorem block_iff (onStage : OnStage state) (numbered : Numbered state) (seat : Seat) (round : Nat)
    (text : Text) :
    (∃ block ∈ (personaColumn state keyed (panelist seat)).rounds,
      block.round = round ∧ block.text = text) ↔
        state.transcript (panelist seat) round = some text := by
  have shown := mem_shown_rounds keyed onStage numbered seat
  constructor
  · rintro ⟨block, member, rfl, rfl⟩
    rcases List.mem_map.mp member with ⟨other, listed, rfl⟩
    rcases Option.isSome_iff_exists.mp ((shown other).mp listed) with ⟨words, known⟩
    change state.transcript (panelist seat) other = some (cell state.transcript _ other)
    rw [cell, known, Option.getD_some]
  · intro known
    have listed := (shown round).mpr (Option.isSome_iff_exists.mpr ⟨text, known⟩)
    refine ⟨roundBlock state (panelist seat) round, List.mem_map.mpr ⟨round, listed, rfl⟩, rfl, ?_⟩
    change cell state.transcript (panelist seat) round = text
    rw [cell, known, Option.getD_some]

theorem rounds_sorted (id : PersonaId) :
    (personaColumn state keyed id).rounds.Pairwise fun one other => one.round < other.round :=
  List.pairwise_map.mpr (shown_rounds_sorted keyed id)

theorem streaming_rounds (onStage : OnStage state) (numbered : Numbered state) (seat : Seat) :
    ((personaColumn state keyed (panelist seat)).rounds.filter (·.streaming)).map (·.round) =
      if panelist seat ∈ state.activeSpeakers then [state.currentRound] else [] := by
  rw [personaColumn, List.filter_map, List.map_map]
  have named : (fun block : RoundBlock => block.round) ∘ roundBlock state (panelist seat) = id :=
    rfl
  rw [named, List.map_id]
  by_cases speaking : panelist seat ∈ state.activeSpeakers
  · rw [if_pos speaking]
    rcases shown_rounds_speaking keyed onStage numbered seat speaking with ⟨front, split, before⟩
    have quiet : front.filter ((fun block : RoundBlock => block.streaming) ∘
        roundBlock state (panelist seat)) = [] := by
      apply List.filter_eq_nil_iff.mpr
      intro round member
      simp [roundBlock, Nat.ne_of_lt (before round member)]
    rw [split, List.filter_append, quiet]
    simp [roundBlock, isActive, speaking]
  · rw [if_neg speaking]
    apply List.filter_eq_nil_iff.mpr
    intro round _
    simp [roundBlock, isActive, speaking]

theorem grid_streams (onStage : OnStage state) (numbered : Numbered state) :
    ((transcriptGrid state keyed).flatMap fun column =>
      (column.rounds.filter (·.streaming)).map fun block => (column.id, block.round)) =
        (state.activeSpeakers.filter (· ≠ MODERATOR_ID)).map fun id =>
          (id, state.currentRound) := by
  have column : ∀ seat, ((personaColumn state keyed (panelist seat)).rounds.filter
      (·.streaming)).map (fun block => (panelist seat, block.round)) =
        if panelist seat ∈ state.activeSpeakers then [(panelist seat, state.currentRound)]
        else [] := by
    intro seat
    have streams := congrArg (List.map fun round => (panelist seat, round))
      (streaming_rounds keyed onStage numbered seat)
    rw [List.map_map] at streams
    refine streams.trans ?_
    split <;> rfl
  have seats : PANELISTS = (List.finRange 4).map panelist := by decide
  rw [transcriptGrid, seats, List.map_map, List.flatMap_map]
  refine (congrArg List.flatten (List.map_congr_left fun seat _ => column seat)).trans ?_
  -- nobody or one speaker
  have single := onStage.single
  cases roster : state.activeSpeakers with
  | nil => rfl
  | cons speaker rest =>
      rw [roster, List.length_cons] at single
      have alone : rest = [] := List.length_eq_zero_iff.mp (by omega)
      subst alone
      cases speaker <;> rfl

theorem streams_at_most_one (onStage : OnStage state) (numbered : Numbered state) :
    ((transcriptGrid state keyed).flatMap fun column =>
      column.rounds.filter (·.streaming)).length ≤ 1 := by
  have streams := congrArg List.length (grid_streams keyed onStage numbered)
  have few := (List.length_filter_le (· ≠ MODERATOR_ID) state.activeSpeakers).trans onStage.single
  simp only [List.length_flatMap, List.length_map] at streams few ⊢
  rw [streams]
  exact few

/-- A block shows a beginning of its text, and once its effect has run all of it,
unless it streams. -/
theorem revealed_text {catchUp : Nat → Nat} {block : RoundBlock}
    {smooth : UseSmoothText.SmoothText} (reveals : Reveals catchUp block smooth) :
    smooth.shown <+: block.text ∧
      (smooth.pending = false → block.streaming = false → smooth.shown = block.text) := by
  rcases reveals.reached with ⟨target, animate, reached⟩
  have tidy := UseSmoothText.tidy_reachable reached
  rw [← reveals.target, ← reveals.animate]
  constructor
  · exact List.take_prefix _ _
  · intro settled still
    exact UseSmoothText.whole_of_idle tidy reveals.present settled
      (UseSmoothText.idle_of_still tidy settled still)

theorem column_status (onStage : OnStage state) (numbered : Numbered state) (seat : Seat) :
    let column := personaColumn state keyed (panelist seat)
    (column.status = .streaming ↔ ∃ block ∈ column.rounds, block.streaming = true) ∧
      (column.status = .idle ↔ column.awaiting = true) := by
  have streams := streaming_rounds keyed onStage numbered seat
  have shown := mem_shown_rounds keyed onStage numbered seat
  by_cases speaking : panelist seat ∈ state.activeSpeakers
  · have active : isActive state (panelist seat) = true := by simpa [isActive] using speaking
    rw [if_pos speaking] at streams
    have here := (shown state.currentRound).mpr (onStage.heard _ speaking)
    refine ⟨⟨fun _ => ?_, fun _ => ?_⟩, ⟨fun idle => ?_, fun awaiting => ?_⟩⟩
    · refine ⟨_, List.mem_map_of_mem here, ?_⟩
      simp [roundBlock, active]
    · simp [personaColumn, active]
    · simp [personaColumn, active] at idle
    · have empty : shownRounds state keyed (panelist seat) = [] := List.isEmpty_iff.mp awaiting
      rw [empty] at here
      cases here
  · have active : isActive state (panelist seat) = false := by simpa [isActive] using speaking
    rw [if_neg speaking, List.map_eq_nil_iff, List.filter_eq_nil_iff] at streams
    have spoken : hasSpokenEver keyed (panelist seat) = false ↔
        shownRounds state keyed (panelist seat) = [] := by
      rw [hasSpokenEver, decide_eq_false_iff_not, Nat.not_lt, Nat.le_zero, Finset.card_eq_zero,
        Finset.eq_empty_iff_forall_notMem, List.eq_nil_iff_forall_not_mem]
      exact forall_congr' fun round => not_congr ((keyed.exact _ round).trans (shown round).symm)
    constructor
    · constructor
      · intro streaming
        cases ever : hasSpokenEver keyed (panelist seat) <;>
          simp [personaColumn, active, ever] at streaming
      · rintro ⟨block, member, streaming⟩
        exact absurd streaming (streams block member)
    · change _ ↔ (shownRounds state keyed (panelist seat)).isEmpty = true
      rw [List.isEmpty_iff, ← spoken]
      cases ever : hasSpokenEver keyed (panelist seat) <;> simp [personaColumn, active, ever]

end Shown

/-- In every state of the hook, whatever the server sends: each panelist's
column has a block for each round with text, given all of it and in order, and
no other; a block shows a beginning of its text, and all of it once its effect
has run, unless it streams; at most one block of the grid streams, that of the
panelist who speaks in the round being told; and the columns' dots say so. -/
theorem transcript_grid_exact (parse : Text → Except Text DebateEvent) (reducedMotion : Bool)
    (ops : List HookOp) (accepted : ∀ op ∈ ops, op.accepted = true) :
    let state := (runHook parse (createHook reducedMotion) ops).1.state
    Nonempty (Keyed state) ∧ ∀ keyed : Keyed state,
      (∀ seat,
        let column := personaColumn state keyed (panelist seat)
        (∀ round text, (∃ block ∈ column.rounds, block.round = round ∧ block.text = text) ↔
          state.transcript (panelist seat) round = some text) ∧
        (column.rounds.Pairwise fun one other => one.round < other.round) ∧
        (∀ block ∈ column.rounds, ∀ catchUp smooth, Reveals catchUp block smooth →
          smooth.shown <+: block.text ∧
            (smooth.pending = false → block.streaming = false → smooth.shown = block.text)) ∧
        (column.status = .streaming ↔ ∃ block ∈ column.rounds, block.streaming = true) ∧
        (column.status = .idle ↔ column.awaiting = true)) ∧
      ((transcriptGrid state keyed).flatMap fun column =>
        (column.rounds.filter (·.streaming)).map fun block => (column.id, block.round)) =
          ((state.activeSpeakers.filter (· ≠ MODERATOR_ID)).map fun id =>
            (id, state.currentRound)) ∧
      ((transcriptGrid state keyed).flatMap fun column =>
        column.rounds.filter (·.streaming)).length ≤ 1 := by
  intro state
  have staged := @staged_run parse _ (staged_create reducedMotion) ops accepted
  refine ⟨staged.keyed, fun keyed => ⟨fun seat => ?_, ?_, ?_⟩⟩
  · rcases column_status keyed staged.onStage staged.numbered seat with ⟨streams, waits⟩
    exact ⟨block_iff keyed staged.onStage staged.numbered seat, rounds_sorted keyed _,
      fun _ _ _ _ reveals => revealed_text reveals, streams, waits⟩
  · exact grid_streams keyed staged.onStage staged.numbered
  · exact streams_at_most_one keyed staged.onStage staged.numbered

/-- The skeptic's block streams its first word, and nothing else does. -/
theorem transcript_grid_exact_reopened :
    let state := (runHook skeptical (createHook false) reopened).1.state
    Nonempty (Keyed state) ∧ ∀ keyed : Keyed state,
      (∃ block ∈ (personaColumn state keyed (panelist 0)).rounds,
        block.round = 1 ∧ block.text = units "Because " ∧
          (UseSmoothText.SmoothText.mount block.text block.streaming).shown <+: block.text) ∧
      ((transcriptGrid state keyed).flatMap fun column =>
        (column.rounds.filter (·.streaming)).map fun block => (column.id, block.round)) =
          [(.skeptic, 1)] := by
  intro state
  have told : state.transcript (panelist 0) 1 = some (units "Because ") := by decide +kernel
  have speaking : (state.activeSpeakers, state.currentRound) = ([.skeptic], 1) := by decide +kernel
  have grid := transcript_grid_exact skeptical false reopened (by decide)
  refine ⟨grid.1, fun keyed => ?_⟩
  rcases grid.2 keyed with ⟨columns, streams, _⟩
  rcases columns 0 with ⟨blocks, _, reveals, _⟩
  rcases (blocks 1 _).mpr told with ⟨block, member, round, text⟩
  have shows_ := reveals block member (fun gap => gap) (.mount block.text block.streaming)
    ⟨⟨_, _, .refl⟩, rfl, rfl, rfl⟩
  refine ⟨⟨block, member, round, text, shows_.1⟩, ?_⟩
  rw [streams]
  simp only [Prod.mk.injEq] at speaking
  rw [speaking.1, speaking.2]
  rfl

section Systems
variable {setting : Setting} {world after : World} {act : WholeSystem.Act}

end Systems

end Council.TranscriptGrid

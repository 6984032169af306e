import Council.StageViews
import Council.SessionPhases

/-!
The stage views over whole runs of the hook. A script is shown one turn after
the other, and between turns the roster is empty; so every prefix of what the
reducer receives leaves a state with at most one speaker, whose current round
is its largest.
-/

namespace Council.StageAgreement
open Protocol DebateReducer DebatePlayer PlayerRuns Playbill TurnOrder SessionPhases UseDebate
  StageViews

/-- `Holds` in every state the reducer passes through. -/
def Along (Holds : DebateState → Prop) : DebateState → List DebateInput → Prop
  | state, [] => Holds state
  | state, input :: rest => Holds state ∧ Along Holds (debateReducer state input) rest

theorem Along.now {Holds : DebateState → Prop} {state : DebateState} {inputs : List DebateInput}
    (along : Along Holds state inputs) : Holds state := by
  cases inputs with
  | nil => exact along
  | cons input rest => exact along.1

theorem along_append {Holds : DebateState → Prop} {state : DebateState}
    {first second : List DebateInput} (before : Along Holds state first)
    (after : Along Holds (reduceAll state first) second) :
    Along Holds state (first ++ second) := by
  induction first generalizing state with
  | nil => exact after
  | cons input rest ih => exact ⟨before.1, ih before.2 after⟩

theorem along_beginning {Holds : DebateState → Prop} {state : DebateState}
    {first whole : List DebateInput} (along : Along Holds state whole)
    (begun : first <+: whole) :
    Along Holds state first ∧ Holds (reduceAll state first) := by
  obtain ⟨rest, rfl⟩ := begun
  induction first generalizing state with
  | nil => exact ⟨along.now, along.now⟩
  | cons input later ih =>
      obtain ⟨kept, last⟩ := ih along.2
      exact ⟨⟨along.1, kept⟩, last⟩

theorem along_drop {Holds : DebateState → Prop} {state : DebateState}
    {first second : List DebateInput} (along : Along Holds state (first ++ second)) :
    Along Holds (reduceAll state first) second := by
  induction first generalizing state with
  | nil => exact along
  | cons input later ih => exact ih along.2

/-- No cell but those of turns up to this place. -/
def CellsBelow (state : DebateState) (place : Nat) : Prop :=
  ∀ persona round, (state.transcript persona round).isSome = true →
    ∃ earlier < place, persona = panelist (seatAt earlier) ∧ round = roundAt earlier

/-- Before the turn at this place: nobody speaks. -/
structure Between (place : Nat) (state : DebateState) : Prop where
  running : state.phase = .connecting ∨ state.phase = .debating
  empty : state.activeSpeakers = []
  cells : CellsBelow state place
  begun : state.phase = .debating → 1 ≤ state.currentRound

/-- Within the turn at this place: its panelist alone speaks. -/
structure Talking (place : Nat) (state : DebateState) : Prop where
  running : state.phase = .debating
  alone : state.activeSpeakers = [panelist (seatAt place)]
  round : state.currentRound = roundAt place
  cells : CellsBelow state (place + 1)
  heard : (state.transcript (panelist (seatAt place)) (roundAt place)).isSome = true

/-- Within the moderator's synthesis. -/
structure Synthesis (round : Nat) (state : DebateState) : Prop where
  running : state.phase = .moderating
  alone : state.activeSpeakers = [ MODERATOR_ID]
  now : state.currentRound = round
  only : ∀ other, (state.transcript MODERATOR_ID other).isSome = true → other = round
  heard : (state.transcript MODERATOR_ID round).isSome = true

/-- After the end: the roster is empty and the phase terminal. -/
structure Ended (state : DebateState) : Prop where
  terminal : TERMINAL state.phase = true
  empty : state.activeSpeakers = []

theorem onStage_of_empty {state : DebateState} (empty : state.activeSpeakers = [])
    (phase : state.phase ≠ .moderating)
    (begun : state.phase = .debating → 1 ≤ state.currentRound) : OnStage state where
  moderating := by
    rw [empty]
    exact ⟨fun moderating => absurd moderating phase, fun speaking => nomatch speaking⟩
  debating := by
    rw [empty]
    exact fun _ speaking => nomatch speaking
  single := by
    rw [empty]
    exact Nat.zero_le 1
  heard := by
    rw [empty]
    exact fun _ speaking => nomatch speaking
  latest := by
    rw [empty]
    exact fun _ speaking => nomatch speaking
  begun := begun

theorem Between.onStage {place : Nat} {state : DebateState} (between : Between place state) :
    OnStage state := by
  refine onStage_of_empty between.empty ?_ between.begun
  rcases between.running with phase | phase <;> rw [phase] <;> exact nofun

theorem Ended.onStage {state : DebateState} (ended : Ended state) : OnStage state := by
  have terminal := ended.terminal
  apply onStage_of_empty ended.empty
  · intro phase
    rw [phase] at terminal
    cases terminal
  · intro phase
    rw [phase] at terminal
    cases terminal

theorem Talking.onStage {place : Nat} {state : DebateState} (talking : Talking place state) :
    OnStage state := by
  have seated := panelist_ne_moderator (seatAt place)
  constructor
  · rw [talking.running, talking.alone, List.mem_singleton]
    constructor
    · exact nofun
    · intro same
      exact absurd same.symm seated
  · exact fun _ _ _ => talking.running
  · rw [talking.alone]
    exact Nat.le_refl 1
  · intro speaker speaking
    rw [talking.alone, List.mem_singleton] at speaking
    rw [speaking, talking.round]
    exact talking.heard
  · intro speaker speaking round known
    obtain ⟨earlier, below, _, same⟩ := talking.cells speaker round known
    rw [same, talking.round, roundAt, roundAt]
    omega
  · intro _
    rw [talking.round, roundAt]
    omega

theorem Synthesis.onStage {round : Nat} {state : DebateState}
    (synthesis : Synthesis round state) : OnStage state := by
  constructor
  · rw [synthesis.running, synthesis.alone]
    exact ⟨fun _ => List.mem_cons_self, fun _ => rfl⟩
  · intro speaker speaking seated
    rw [synthesis.alone, List.mem_singleton] at speaking
    exact absurd speaking seated
  · rw [synthesis.alone]
    exact Nat.le_refl 1
  · intro speaker speaking
    rw [synthesis.alone, List.mem_singleton] at speaking
    rw [speaking, synthesis.now]
    exact synthesis.heard
  · intro speaker speaking other known
    rw [synthesis.alone, List.mem_singleton] at speaking
    rw [speaking] at known
    rw [synthesis.only other known, synthesis.now]
  · intro phase
    rw [synthesis.running] at phase
    cases phase

theorem onStage_view {left right : DebateState} (same : SameView left right)
    (onStage : OnStage right) : OnStage left := by
  obtain ⟨phase, currentRound, transcript, activeSpeakers, _⟩ := same
  constructor
  · rw [phase, activeSpeakers]
    exact onStage.moderating
  · rw [phase, activeSpeakers]
    exact onStage.debating
  · rw [activeSpeakers]
    exact onStage.single
  · rw [activeSpeakers, transcript, currentRound]
    exact onStage.heard
  · rw [activeSpeakers, transcript, currentRound]
    exact onStage.latest
  · rw [phase, currentRound]
    exact onStage.begun

theorem append_delta_some {transcript : Transcript} {persona other : PersonaId}
    {round otherRound : Nat} {delta : Text}
    (known : (appendDelta transcript persona round delta other otherRound).isSome = true) :
    (other = persona ∧ otherRound = round) ∨ (transcript other otherRound).isSome = true := by
  by_cases same : other = persona ∧ otherRound = round
  · exact .inl same
  · rw [append_delta_other transcript persona other round otherRound delta same] at known
    exact .inr known

theorem append_delta_heard (transcript : Transcript) (persona : PersonaId) (round : Nat)
    (delta : Text) : (appendDelta transcript persona round delta persona round).isSome = true := by
  simp [appendDelta]

theorem talking_token {place : Nat} {state : DebateState} (delta : Text)
    (earlier : Between place state ∨ Talking place state) :
    Talking place (reduceEvent state
      (.token (panelist (seatAt place)) (roundAt place) delta)) := by
  have seated := panelist_ne_moderator (seatAt place)
  have cells : CellsBelow state (place + 1) := by
    rcases earlier with between | talking
    · intro persona round known
      obtain ⟨before, below, same⟩ := between.cells persona round known
      exact ⟨before, by omega, same⟩
    · exact talking.cells
  constructor
  · simp [reduceEvent, seated]
  · rcases earlier with between | talking
    · simp [reduceEvent, withActive, between.empty]
    · simp [reduceEvent, withActive, talking.alone]
  · rfl
  · intro persona round known
    rcases append_delta_some known with ⟨who, inRound⟩ | old
    · exact ⟨place, Nat.lt_succ_self place, who, inRound⟩
    · exact cells persona round old
  · exact append_delta_heard _ _ _ _

theorem between_done {place : Nat} {state : DebateState}
    (earlier : Between place state ∨ Talking place state) :
    Between (place + 1) (reduceEvent state
      (.personaDone (panelist (seatAt place)) (roundAt place))) := by
  rcases earlier with between | talking
  · constructor
    · exact between.running
    · simp [reduceEvent, withoutActive, between.empty]
    · intro persona round known
      obtain ⟨before, below, same⟩ := between.cells persona round known
      exact ⟨before, by omega, same⟩
    · exact between.begun
  · constructor
    · exact .inr talking.running
    · simp [reduceEvent, withoutActive, talking.alone]
    · exact talking.cells
    · intro _
      change 1 ≤ state.currentRound
      rw [talking.round, roundAt]
      omega

theorem between_round {place : Nat} {state : DebateState} (round : Nat) (positive : 1 ≤ round)
    (between : Between place state) :
    Between place (reduceEvent state (.roundComplete round)) :=
  ⟨between.running, between.empty, between.cells, fun _ => positive⟩

theorem between_error {place : Nat} {state : DebateState} (error : ErrorEvent)
    (seat : Seat) (named : error.persona = some (panelist seat))
    (between : Between place state) : Between place (reduceEvent state (.error error)) := by
  have seated := panelist_ne_moderator seat
  have survivable : error.terminal = false := by
    simp [ErrorEvent.terminal, named, seated]
  constructor
  · simp only [reduceEvent, survivable]
    exact between.running
  · simp [reduceEvent, named, seated, withoutActive, between.empty]
  · exact between.cells
  · simp only [reduceEvent, survivable]
    exact between.begun

theorem synthesis_token {place round : Nat} {state : DebateState} (delta : Text)
    (earlier : Between place state ∨ Synthesis round state) :
    Synthesis round (reduceEvent state (.token MODERATOR_ID round delta)) := by
  constructor
  · rfl
  · rcases earlier with between | synthesis
    · simp [reduceEvent, withActive, between.empty]
    · simp [reduceEvent, withActive, synthesis.alone]
  · rfl
  · intro other known
    change (appendDelta state.transcript MODERATOR_ID round delta MODERATOR_ID other).isSome =
      true at known
    rcases append_delta_some known with ⟨_, same⟩ | old
    · exact same
    · rcases earlier with between | synthesis
      · obtain ⟨before, _, who, _⟩ := between.cells _ _ old
        exact absurd who.symm (panelist_ne_moderator _)
      · exact synthesis.only other old
  · exact append_delta_heard state.transcript MODERATOR_ID round delta

theorem ended_ending {place round : Nat} {state : DebateState} (ending : DebateInput)
    (ends : IsEnding ending = true)
    (earlier : Between place state ∨ Synthesis round state) :
    Ended (debateReducer state ending) := by
  cases ending with
  | event event =>
      cases event with
      | verdict verdict =>
          refine ⟨rfl, ?_⟩
          rcases earlier with between | synthesis
          · simp [debateReducer, reduceEvent, withoutActive, between.empty]
          · simp [debateReducer, reduceEvent, withoutActive, synthesis.alone]
      | error error =>
          have terminal : error.terminal = true := ends
          constructor
          · simp [debateReducer, reduceEvent, terminal, TERMINAL]
          · cases named : error.persona with
            | none => simp [debateReducer, reduceEvent, named]
            | some persona =>
                have moderator : persona = MODERATOR_ID := by
                  simpa [ErrorEvent.terminal, named] using terminal
                simp [debateReducer, reduceEvent, named, moderator]
      | token => cases ends
      | personaDone => cases ends
      | roundComplete => cases ends
  | status status =>
      cases status with
      | closed =>
          have running : TERMINAL state.phase = false := by
            rcases earlier with between | synthesis
            · rcases between.running with phase | phase <;> rw [phase] <;> rfl
            · rw [synthesis.running]
              rfl
          constructor
          · simp only [debateReducer, reduceStatus, running]
            rfl
          · simp only [debateReducer, reduceStatus, running]
            rfl
      | _ => cases ends
  | transport => cases ends
  | cancel => cases ends

/-- From any state with `Before` the inputs lead to one with `After`, and every
state on the way is on stage. -/
def Leads (Before After : DebateState → Prop) (inputs : List DebateInput) : Prop :=
  ∀ state, Before state → Along OnStage state inputs ∧ After (reduceAll state inputs)

theorem Leads.append {Before Middle After : DebateState → Prop}
    {first second : List DebateInput} (opening : Leads Before Middle first)
    (rest : Leads Middle After second) : Leads Before After (first ++ second) := by
  intro state before
  obtain ⟨along, middle⟩ := opening state before
  obtain ⟨later, after⟩ := rest _ middle
  rw [reduce_all_append]
  exact ⟨along_append along later, after⟩

/-- Before or within the turn at this place. -/
def Telling (place : Nat) (state : DebateState) : Prop :=
  Between place state ∨ Talking place state

theorem Telling.onStage {place : Nat} {state : DebateState} (telling : Telling place state) :
    OnStage state := by
  rcases telling with between | talking
  · exact between.onStage
  · exact talking.onStage

theorem leads_tokens (place : Nat) (chunks : List Text) :
    Leads (Telling place) (Telling place)
      (tokens (panelist (seatAt place)) (roundAt place) chunks) := by
  induction chunks with
  | nil => exact fun state telling => ⟨telling.onStage, telling⟩
  | cons delta rest ih =>
      intro state telling
      obtain ⟨later, last⟩ := ih _ (.inr (talking_token delta telling))
      exact ⟨⟨telling.onStage, later⟩, last⟩

theorem leads_done (place : Nat) :
    Leads (Telling place) (Between (place + 1))
      [.event (.personaDone (panelist (seatAt place)) (roundAt place))] := by
  intro state telling
  have done := between_done telling
  exact ⟨⟨telling.onStage, done.onStage⟩, done⟩

theorem leads_round (place round : Nat) (positive : 1 ≤ round) (last : Prop) [Decidable last] :
    Leads (Between place) (Between place)
      (if last then [.event (.roundComplete round)] else []) := by
  intro state between
  by_cases here : last
  · have after := between_round round positive between
    rw [if_pos here]
    exact ⟨⟨between.onStage, after.onStage⟩, after⟩
  · rw [if_neg here]
    exact ⟨between.onStage, between⟩

theorem leads_errors (place : Nat) (errors : List ErrorEvent)
    (failures : ∀ error ∈ errors, ∃ seat, error.persona = some (panelist seat)) :
    Leads (Between place) (Between place)
      (errors.map fun error => .event (.error error)) := by
  induction errors with
  | nil => exact fun state between => ⟨between.onStage, between⟩
  | cons error rest ih =>
      intro state between
      obtain ⟨seat, named⟩ := failures error List.mem_cons_self
      obtain ⟨later, last⟩ :=
        ih (fun other member => failures other (List.mem_cons_of_mem error member)) _
          (between_error error seat named between)
      exact ⟨⟨between.onStage, later⟩, last⟩

theorem leads_turn (place : Nat) (shown : Shown)
    (failures : ∀ error ∈ shown.errors, ∃ seat, error.persona = some (panelist seat)) :
    Leads (Between place) (Between (place + 1)) (renderTurn place shown) := by
  intro state between
  have told := leads_tokens place shown.chunks
  have after := ((leads_done place).append
    (leads_round (place + 1) (roundAt place) (Nat.le_add_left 1 _)
      ((seatAt place).val = 3))).append
      (leads_errors (place + 1) shown.errors failures)
  exact told.append after state (.inl between)

theorem leads_turns (place : Nat) (turns : List Shown)
    (failures : ∀ shown ∈ turns, ∀ error ∈ shown.errors,
      ∃ seat, error.persona = some (panelist seat)) :
    ∃ last, Leads (Between place) (Between last) (renderTurns place turns) := by
  induction turns generalizing place with
  | nil => exact ⟨place, fun state between => ⟨between.onStage, between⟩⟩
  | cons shown rest ih =>
      have first := leads_turn place shown (failures shown List.mem_cons_self)
      obtain ⟨last, later⟩ := ih (place + 1)
        fun other member => failures other (List.mem_cons_of_mem shown member)
      exact ⟨last, first.append later⟩

theorem leads_finale (place : Nat) (finale : Finale) (ends : IsEnding finale.ending = true) :
    Leads (Between place) Ended finale.render := by
  have told : Leads (fun state => Between place state ∨ Synthesis finale.round state)
      (fun state => Between place state ∨ Synthesis finale.round state)
      (tokens MODERATOR_ID finale.round finale.chunks) := by
    induction finale.chunks with
    | nil =>
        intro state earlier
        refine ⟨?_, earlier⟩
        rcases earlier with between | synthesis
        · exact between.onStage
        · exact synthesis.onStage
    | cons delta rest ih =>
        intro state earlier
        obtain ⟨later, last⟩ := ih _ (.inr (synthesis_token delta earlier))
        refine ⟨⟨?_, later⟩, last⟩
        rcases earlier with between | synthesis
        · exact between.onStage
        · exact synthesis.onStage
  have ending : Leads (fun state => Between place state ∨ Synthesis finale.round state) Ended
      [finale.ending] := by
    intro state earlier
    have ended := ended_ending finale.ending ends earlier
    refine ⟨⟨?_, ended.onStage⟩, ended⟩
    rcases earlier with between | synthesis
    · exact between.onStage
    · exact synthesis.onStage
  intro state between
  exact told.append ending state (.inl between)

theorem between_connecting : Between 0 connectingState where
  running := .inl rfl
  empty := rfl
  cells := fun _ _ known => nomatch known
  begun := nofun

theorem script_on_stage {script : Script} (complete : Complete script) :
    Along OnStage connectingState script.render := by
  obtain ⟨finale, closing, ends⟩ := complete.ending
  obtain ⟨last, turns⟩ := leads_turns 0 script.turns complete.failures
  have whole := (turns.append (leads_finale last finale ends)) connectingState between_connecting
  rw [Script.render, closing]
  exact whole.1

/-- Whatever playback of a session has shown so far stays on stage. -/
theorem session_on_stage {first player : Player} {arrived : List Arrival}
    {log : List DebateInput} (played : Played anyArrival (reset first) arrived log player) :
    Along OnStage connectingState log := by
  obtain ⟨script, stage, _, _, faithful⟩ := (sound_invariant _).played played
  obtain ⟨whole, complete, begun⟩ :=
    stage_prefix stage faithful.failures fun finale same => (faithful.ending finale same).1
  exact (along_beginning (script_on_stage complete) begun).1

theorem along_filtered {left right : DebateState} (same : SameView left right)
    (inputs : List DebateInput)
    (known : ∀ input ∈ inputs, ofPlayback input = true ∨ advisory input = true)
    (along : Along OnStage right (inputs.filter ofPlayback)) : Along OnStage left inputs := by
  induction inputs generalizing left right with
  | nil => exact onStage_view same along
  | cons input rest ih =>
      have later := fun other member => known other (List.mem_cons_of_mem input member)
      refine ⟨onStage_view same along.now, ?_⟩
      by_cases plays : ofPlayback input = true
      · rw [List.filter_cons_of_pos plays] at along
        exact ih (reduce_view same input) later along.2
      · rw [List.filter_cons_of_neg plays] at along
        have idle := (known input List.mem_cons_self).resolve_left plays
        exact ih ((advisory_view left input idle).trans same) later along

theorem apply_on_stage {first player : Player} {state : DebateState} {arrived : List Arrival}
    {log : List DebateInput} (played : Played anyArrival (reset first) arrived log player)
    (view : SameView state (reduceAll connectingState log)) (op : Op)
    (inSession : op.inSession = true) : Along OnStage state (apply player op).2 := by
  have later := session_on_stage (played.apply op inSession fun _ _ => trivial)
  exact along_filtered view _ (apply_known player op inSession) (along_drop later)

section Hooks
variable (parseEvent : Text → Except Text DebateEvent)

theorem cancel_on_stage {state : DebateState} (onStage : OnStage state) :
    Along OnStage state [.cancel] := by
  refine ⟨onStage, ?_⟩
  change OnStage (debateReducer state .cancel)
  simp only [debateReducer]
  split
  · exact onStage
  · exact Ended.onStage ⟨rfl, rfl⟩

theorem effect_on_stage {hook : Hook} (situation : Situation hook) (onStage : OnStage hook.state)
    {answer : Hook × List DebateInput} (effect : Effect hook answer) :
    Along OnStage hook.state answer.2 := by
  cases situation with
  | quiet deaf unarmed blocked resting =>
      rw [(deaf_effect deaf unarmed blocked effect).silent]
      exact onStage
  | session first arrived log played rested view gone =>
      rcases effect_called effect with rfl | ⟨op, called⟩
      · exact onStage
      · rw [called.dispatched]
        exact apply_on_stage played view op called.inSession

theorem hook_step_on_stage {hook : Hook} (kept : Kept hook) (onStage : OnStage hook.state)
    (op : HookOp) (accepted : op.accepted = true) :
    Along OnStage hook.state (hookStep parseEvent hook op).2 := by
  by_cases asked : op.isAsk = true
  · cases op with
    | ask question rounds =>
        obtain ⟨message, built⟩ := accepted_built question rounds accepted
        simp only [hookStep, ask_accepted hook question rounds message built]
        exact ⟨onStage, between_connecting.onStage⟩
    | _ => cases asked
  · by_cases stopped : op = .stop
    · subst stopped
      exact cancel_on_stage onStage
    · exact effect_on_stage kept.situation onStage
        (hook_step_effect parseEvent hook op (by simpa using asked) stopped)

theorem run_on_stage {hook : Hook} (kept : Kept hook) (onStage : OnStage hook.state)
    (ops : List HookOp) (accepted : ∀ op ∈ ops, op.accepted = true) :
    Along OnStage hook.state (runHook parseEvent hook ops).2 := by
  induction ops generalizing hook with
  | nil => exact onStage
  | cons op rest ih =>
      have here := accepted op List.mem_cons_self
      have first := hook_step_on_stage parseEvent kept onStage op here
      have state : (hookStep parseEvent hook op).1.state = _ := hook_step_state parseEvent hook op
      have next := (along_beginning first (List.prefix_refl _)).2
      rw [← state] at next
      have later := ih (kept_step parseEvent kept op here) next
        fun other member => accepted other (List.mem_cons_of_mem op member)
      rw [state] at later
      exact along_append first later

end Hooks

def noteKeys (keys : PersonaId → Finset Nat) : DebateInput → PersonaId → Finset Nat
  | .event (.token persona round _) => Function.update keys persona (insert round (keys persona))
  | .status .connecting => fun _ => ∅
  | _ => keys

theorem note_keys_exact {state : DebateState} (keyed : Keyed state) (input : DebateInput) :
    Nonempty (Keyed (debateReducer state input)) := by
  refine ⟨⟨noteKeys keyed.keys input, ?_⟩⟩
  cases input with
  | event event =>
      cases event with
      | token persona round delta =>
          intro other otherRound
          change otherRound ∈ Function.update keyed.keys persona _ other ↔
            (appendDelta state.transcript persona round delta other otherRound).isSome = true
          by_cases same : other = persona ∧ otherRound = round
          · obtain ⟨rfl, rfl⟩ := same
            simp [append_delta_heard]
          · rw [append_delta_other state.transcript persona other round otherRound delta same,
              ← keyed.exact]
            by_cases who : other = persona
            · subst who
              have apart : otherRound ≠ round := fun equal => same ⟨rfl, equal⟩
              simp [apart]
            · rw [Function.update_of_ne who]
      | personaDone => exact keyed.exact
      | roundComplete => exact keyed.exact
      | verdict => exact keyed.exact
      | error => exact keyed.exact
  | status status =>
      cases status with
      | connecting => exact fun _ _ => by simp [noteKeys, debateReducer, reduceStatus, initialState]
      | closed =>
          simp only [debateReducer, reduceStatus]
          split <;> exact keyed.exact
      | _ => exact keyed.exact
  | transport => exact keyed.exact
  | cancel =>
      simp only [debateReducer]
      split <;> exact keyed.exact

theorem keyed_reduce_all {state : DebateState} (keyed : Nonempty (Keyed state))
    (inputs : List DebateInput) : Nonempty (Keyed (reduceAll state inputs)) := by
  induction inputs generalizing state with
  | nil => exact keyed
  | cons input rest ih =>
      obtain ⟨keyed⟩ := keyed
      exact ih (note_keys_exact keyed input)

theorem keyed_initial : Nonempty (Keyed initialState) :=
  ⟨⟨fun _ => ∅, fun _ _ => by simp [initialState]⟩⟩

theorem on_stage_initial : OnStage initialState :=
  onStage_of_empty rfl nofun nofun

/-- In every state the reducer passes through in a run of the hook, the robots,
the bubbles and the camera agree. -/
theorem stage_views_agree (parseEvent : Text → Except Text DebateEvent)
    (position : PersonaId → Rat × Rat × Rat) (reducedMotion : Bool) (ops : List HookOp)
    (accepted : ∀ op ∈ ops, op.accepted = true) (shown : List DebateInput)
    (begun : shown <+: (runHook parseEvent (createHook reducedMotion) ops).2) :
    ViewsAgree position (reduceAll initialState shown) := by
  have along := run_on_stage parseEvent (kept_create reducedMotion) on_stage_initial ops accepted
  exact views_agree position (keyed_reduce_all keyed_initial shown) (along_beginning along begun).2

/-- The panel in a row, the moderator behind it. -/
def inRow : PersonaId → Rat × Rat × Rat
  | .skeptic => (0, 0, 0)
  | .optimist => (1, 0, 0)
  | .expert => (2, 0, 0)
  | .contrarian => (3, 0, 0)
  | .moderator => (0, 0, 1)

/-- The skeptic speaks in a session asked for again. -/
theorem stage_views_agree_reopened :
    let state := reduceAll initialState (runHook skeptical (createHook false) reopened).2
    state.activeSpeakers = [.skeptic] ∧ ViewsAgree inRow state := by
  intro state
  have speaking : state.activeSpeakers = [.skeptic] := by decide +kernel
  exact ⟨speaking,
    stage_views_agree skeptical inRow false _ (by decide) _ (List.prefix_refl _)⟩

end Council.StageAgreement

import Council.Playbill

/-!
What a persona says in a round, read off a stream of inputs, and where the two
capped buffers put it: the transcript cell of the reducer and the recorded
turn of the player.
-/

namespace Council.Spoken
open Protocol CappedAppend DebateReducer DebatePlayer PlayerRuns Playbill

def deltaOf (persona : PersonaId) (round : Nat) : DebateInput → Option Text
  | .event (.token speaker spokenIn delta) =>
      if speaker = persona ∧ spokenIn = round then some delta else none
  | _ => none

@[simp]
theorem delta_of_token (persona : PersonaId) (round : Nat) (delta : Text) :
    deltaOf persona round (.event (.token persona round delta)) = some delta :=
  if_pos ⟨rfl, rfl⟩

def deltas (persona : PersonaId) (round : Nat) (inputs : List DebateInput) : List Text :=
  inputs.filterMap (deltaOf persona round)

def spoken (persona : PersonaId) (round : Nat) (inputs : List DebateInput) : Text :=
  (deltas persona round inputs).flatten

@[simp]
theorem deltas_append (persona : PersonaId) (round : Nat) (first second : List DebateInput) :
    deltas persona round (first ++ second) =
      deltas persona round first ++ deltas persona round second :=
  List.filterMap_append

@[simp]
theorem spoken_append (persona : PersonaId) (round : Nat) (first second : List DebateInput) :
    spoken persona round (first ++ second) =
      spoken persona round first ++ spoken persona round second := by
  simp [spoken]

theorem spoken_singleton (persona : PersonaId) (round : Nat) (input : DebateInput) :
    spoken persona round [input] = (deltaOf persona round input).getD [] := by
  cases said : deltaOf persona round input <;> simp [spoken, deltas, said]

theorem append_delta_spoken (transcript : Transcript) (speaker persona : PersonaId)
    (spokenIn round : Nat) (delta heard : Text)
    (capped : cell transcript persona round = heard.take MAX_CELL_CHARS) :
    cell (appendDelta transcript speaker spokenIn delta) persona round =
      (heard ++ spoken persona round [.event (.token speaker spokenIn delta)]).take
        MAX_CELL_CHARS := by
  rw [spoken_singleton]
  by_cases here : speaker = persona ∧ spokenIn = round
  · obtain ⟨rfl, rfl⟩ := here
    rw [append_delta_cell, capped, append_capped_take]
    simp [deltaOf]
  · have apart : ¬ (persona = speaker ∧ round = spokenIn) :=
      fun same => here ⟨same.1.symm, same.2.symm⟩
    rw [cell, append_delta_other _ _ _ _ _ _ apart, ← cell, capped]
    simp [deltaOf, here]

/-- One input other than the announcement of a session adds to every cell what
it says there, under the cap. -/
theorem reduce_cell (state : DebateState) (input : DebateInput) (persona : PersonaId)
    (round : Nat) (heard : Text) (running : input ≠ .status .connecting)
    (capped : cell state.transcript persona round = heard.take MAX_CELL_CHARS) :
    cell (debateReducer state input).transcript persona round =
      (heard ++ spoken persona round [input]).take MAX_CELL_CHARS := by
  -- an input that says nothing and keeps the transcript
  have quiet : ∀ next : DebateState, next.transcript = state.transcript →
      deltaOf persona round input = none →
        cell next.transcript persona round =
          (heard ++ spoken persona round [input]).take MAX_CELL_CHARS := by
    intro next same silent
    rw [same, spoken_singleton, silent]
    simpa using capped
  cases input with
  | event event =>
      cases event with
      | token speaker spokenIn delta => exact append_delta_spoken _ _ _ _ _ _ _ capped
      | personaDone => exact quiet _ rfl rfl
      | roundComplete => exact quiet _ rfl rfl
      | verdict => exact quiet _ rfl rfl
      | error => exact quiet _ rfl rfl
  | status status =>
      cases status with
      | connecting => exact absurd rfl running
      | closed =>
          refine quiet _ ?_ rfl
          simp only [debateReducer, reduceStatus]
          split <;> rfl
      | idle => exact quiet _ rfl rfl
      | opened => exact quiet _ rfl rfl
      | error => exact quiet _ rfl rfl
  | transport => exact quiet _ rfl rfl
  | cancel =>
      refine quiet _ ?_ rfl
      simp only [debateReducer]
      split <;> rfl

theorem reduce_all_cell (state : DebateState) (inputs : List DebateInput)
    (persona : PersonaId) (round : Nat) (heard : Text)
    (running : .status .connecting ∉ inputs)
    (capped : cell state.transcript persona round = heard.take MAX_CELL_CHARS) :
    cell (reduceAll state inputs).transcript persona round =
      (heard ++ spoken persona round inputs).take MAX_CELL_CHARS := by
  induction inputs generalizing state heard with
  | nil => simpa [spoken, deltas] using capped
  | cons input rest ih =>
      have first := reduce_cell state input persona round heard
        (fun same => running (same ▸ List.mem_cons_self)) capped
      have later := ih _ _ (fun member => running (List.mem_cons_of_mem input member)) first
      have split : input :: rest = [input] ++ rest := rfl
      rw [reduce_all_cons, later, split, spoken_append, List.append_assoc]

/-- The last of what `select` picks out of the arrivals. -/
def latest {Kept : Type} (select : Arrival → Option Kept) (arrived : List Arrival) :
    Option Kept :=
  (arrived.filterMap select).getLast?

theorem latest_snoc {Kept : Type} (select : Arrival → Option Kept) (arrived : List Arrival)
    (arrival : Arrival) :
    latest select (arrived ++ [arrival]) = (select arrival).or (latest select arrived) := by
  cases picked : select arrival <;> simp [latest, picked]

theorem latest_some {Kept : Type} {select : Arrival → Option Kept} {arrived : List Arrival}
    {kept : Kept} (known : latest select arrived = some kept) :
    ∃ arrival ∈ arrived, select arrival = some kept :=
  List.mem_filterMap.mp (List.mem_of_getLast? known)

theorem latest_none {Kept : Type} {select : Arrival → Option Kept} {arrived : List Arrival}
    (unknown : latest select arrived = none) (arrival : Arrival) (member : arrival ∈ arrived) :
    select arrival = none := by
  rw [latest, List.getLast?_eq_none_iff, List.filterMap_eq_nil_iff] at unknown
  exact unknown arrival member

def verdictOf : Arrival → Option Text
  | .event (.verdict verdict) => some verdict
  | _ => none

def failureOf : Arrival → Option ErrorEvent
  | .event (.error error) => if error.terminal then some error else none
  | _ => none

def synthesisRound : Arrival → Option Nat
  | .event (.token persona round _) => if persona = MODERATOR_ID then some round else none
  | _ => none

/-- The recording says exactly what has arrived. -/
structure Heard (arrived : List Arrival) (recording : Recording) : Prop where
  text : ∀ persona round, recording.getText persona round =
    (spoken persona round (arrived.map asInput)).take MAX_TURN_CHARS
  rounds : ∀ round, round ∈ recording.roundComplete ↔ .event (.roundComplete round) ∈ arrived
  verdict : recording.verdict = latest verdictOf arrived
  failure : recording.sessionError = latest failureOf arrived
  closed : recording.closed = true ↔ .close ∈ arrived
  moderator : recording.moderatorRound = latest synthesisRound arrived

theorem heard_reset (player : Player) : Heard [] (reset player).toRecording where
  text := fun _ _ => rfl
  rounds := fun round => by simp [reset, Recording.empty]
  verdict := rfl
  failure := rfl
  closed := by simp [reset, Recording.empty]
  moderator := rfl

/-- The recorded text of a turn grows like its transcript cell: both buffers
are capped alike. -/
theorem receive_text (player : Player) (arrival : Arrival) (persona : PersonaId) (round : Nat)
    (heard : Text) (capped : player.getText persona round = heard.take MAX_TURN_CHARS) :
    (receive player arrival).getText persona round =
      (heard ++ spoken persona round [asInput arrival]).take MAX_TURN_CHARS := by
  have quiet : ∀ next : Player, next.text = player.text →
      deltaOf persona round (asInput arrival) = none →
        next.getText persona round =
          (heard ++ spoken persona round [asInput arrival]).take MAX_TURN_CHARS := by
    intro next same silent
    rw [Recording.getText, same, ← Recording.getText, capped, spoken_singleton, silent]
    simp
  cases arrival with
  | close => exact quiet _ rfl rfl
  | event event =>
      cases event with
      | token speaker spokenIn delta => exact append_delta_spoken _ _ _ _ _ _ _ capped
      | personaDone => exact quiet _ rfl rfl
      | roundComplete => exact quiet _ rfl rfl
      | verdict => exact quiet _ rfl rfl
      | error error =>
          refine quiet _ ?_ rfl
          obtain ⟨_, same⟩ := record_error player error
          rw [receive, same]

theorem heard_receive {arrived : List Arrival} {player : Player} (arrival : Arrival)
    (heard : Heard arrived player.toRecording) :
    Heard (arrived ++ [arrival]) (receive player arrival).toRecording := by
  have text : ∀ persona round, (receive player arrival).getText persona round =
      (spoken persona round ((arrived ++ [arrival]).map asInput)).take MAX_TURN_CHARS := by
    intro persona round
    rw [List.map_append, spoken_append]
    exact receive_text player arrival persona round _ (heard.text persona round)
  obtain ⟨_, rounds, verdict, failure, closed, moderator⟩ := heard
  -- the latest one kept is the new arrival or the one before
  have grown : ∀ {Kept : Type} (select : Arrival → Option Kept) (before after : Option Kept),
      before = latest select arrived → after = (select arrival).or before →
        after = latest select (arrived ++ [arrival]) := by
    intro Kept select before after known same
    rw [latest_snoc, same, known]
  constructor
  · exact text
  · intro round
    rw [List.mem_append, ← rounds round, List.mem_singleton]
    cases arrival with
    | close => simp [receive]
    | event event =>
        cases event with
        | error error =>
            obtain ⟨_, same⟩ := record_error player error
            simp [receive, same]
        | _ => simp [receive, record, or_comm]
  · apply grown verdictOf _ _ verdict
    cases arrival with
    | close => rfl
    | event event =>
        cases event with
        | error error =>
            obtain ⟨_, same⟩ := record_error player error
            rw [receive, same]
            rfl
        | _ => rfl
  · apply grown failureOf _ _ failure
    cases arrival with
    | close => rfl
    | event event =>
        cases event with
        | error error =>
            obtain ⟨_, same⟩ := record_error player error
            rw [receive, same]
            cases terminal : error.terminal <;> simp [failureOf, terminal]
        | _ => rfl
  · rw [List.mem_append, ← closed, List.mem_singleton]
    cases arrival with
    | close => simp [receive]
    | event event =>
        cases event with
        | error error =>
            obtain ⟨_, same⟩ := record_error player error
            simp [receive, same]
        | _ => simp [receive, record]
  · apply grown synthesisRound _ _ moderator
    cases arrival with
    | close => rfl
    | event event =>
        cases event with
        | error error =>
            obtain ⟨_, same⟩ := record_error player error
            rw [receive, same]
            rfl
        | token persona =>
            by_cases same : persona = MODERATOR_ID <;>
              simp [receive, record, synthesisRound, same]
        | _ => rfl

section Recorded
variable {arrived : List Arrival} {recording : Recording}

theorem Heard.verdict_arrived (heard : Heard arrived recording) {verdict : Text}
    (known : recording.verdict = some verdict) : .event (.verdict verdict) ∈ arrived := by
  obtain ⟨arrival, member, picked⟩ := latest_some (heard.verdict.symm.trans known)
  unfold verdictOf at picked
  split at picked
  · cases picked
    exact member
  · cases picked

theorem Heard.verdict_absent (heard : Heard arrived recording)
    (silent : recording.verdict = none) (verdict : Text) :
    .event (.verdict verdict) ∉ arrived := by
  intro member
  cases latest_none (heard.verdict.symm.trans silent) _ member

theorem Heard.failure_arrived (heard : Heard arrived recording) {error : ErrorEvent}
    (known : recording.sessionError = some error) :
    error.terminal = true ∧ .event (.error error) ∈ arrived := by
  obtain ⟨arrival, member, picked⟩ := latest_some (heard.failure.symm.trans known)
  unfold failureOf at picked
  split at picked
  · split at picked
    · rename_i failed terminal
      cases picked
      exact ⟨terminal, member⟩
    · cases picked
  · cases picked

end Recorded

section Rendering
variable (persona : PersonaId) (round : Nat)

theorem deltas_tokens (speaker : PersonaId) (spokenIn : Nat) (chunks : List Text) :
    deltas persona round (tokens speaker spokenIn chunks) =
      if speaker = persona ∧ spokenIn = round then chunks else [] := by
  unfold deltas tokens
  rw [List.filterMap_map]
  by_cases here : speaker = persona ∧ spokenIn = round
  · simp [deltaOf, here]
  · simp [deltaOf, here]

theorem deltas_turn (place : Nat) (shown : Shown) :
    deltas persona round (renderTurn place shown) =
      if panelist (seatAt place) = persona ∧ roundAt place = round then shown.chunks else [] := by
  have silent : deltas persona round (afterTurn place shown.errors) = [] := by
    apply List.filterMap_eq_nil_iff.mpr
    intro input member
    simp only [afterTurn, List.mem_append, List.mem_singleton, List.mem_map] at member
    rcases member with (rfl | marked) | ⟨error, _, rfl⟩
    · rfl
    · split at marked
      · rw [List.mem_singleton.mp marked]
        rfl
      · cases marked
    · rfl
  rw [renderTurn, deltas_append, deltas_tokens, silent, List.append_nil]

theorem deltas_turns_absent (first : Nat) (turns : List Shown)
    (absent : ∀ index, index < turns.length →
      ¬ (panelist (seatAt (first + index)) = persona ∧ roundAt (first + index) = round)) :
    deltas persona round (renderTurns first turns) = [] := by
  induction turns generalizing first with
  | nil => rfl
  | cons shown rest ih =>
      have here : ¬ (panelist (seatAt first) = persona ∧ roundAt first = round) :=
        absent 0 (by simp)
      rw [renderTurns, deltas_append, deltas_turn, if_neg here, List.nil_append]
      refine ih (first + 1) fun index inside => ?_
      have later := absent (index + 1) (by simpa using inside)
      rwa [show first + 1 + index = first + (index + 1) by omega]

theorem place_unique (left right : Nat) (sameSeat : seatAt left = seatAt right)
    (sameRound : roundAt left = roundAt right) : left = right := by
  have seat : left % 4 = right % 4 := congrArg Fin.val sameSeat
  unfold roundAt at sameRound
  omega

theorem deltas_turns_present (first : Nat) (turns : List Shown) (index : Nat)
    (inside : index < turns.length) :
    deltas (panelist (seatAt (first + index))) (roundAt (first + index))
      (renderTurns first turns) = turns[index].chunks := by
  induction turns generalizing first index with
  | nil => cases inside
  | cons shown rest ih =>
      rw [renderTurns, deltas_append, deltas_turn]
      cases index with
      | zero =>
          have silent := deltas_turns_absent (panelist (seatAt first)) (roundAt first)
            (first + 1) rest fun index _ same => by
              have equal := place_unique _ _ (panelist_injective _ _ same.1) same.2
              omega
          simp [silent]
      | succ index =>
          have apart : ¬ (panelist (seatAt first) = panelist (seatAt (first + (index + 1))) ∧
              roundAt first = roundAt (first + (index + 1))) := fun same => by
            have equal := place_unique _ _ (panelist_injective _ _ same.1) same.2
            omega
          have later := ih (first + 1) index (by simpa using inside)
          rw [if_neg apart, List.nil_append, show first + (index + 1) = first + 1 + index by omega,
            later]
          rfl

end Rendering

end Council.Spoken

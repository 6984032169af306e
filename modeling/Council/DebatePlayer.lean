import Mathlib.Data.Finset.Lattice.Fold
import Mathlib.Order.Lattice.Nat
import Council.DebateReducer
import Council.TextReveal

/-!
The buffering player of `frontend/src/state/debatePlayer.ts`. Every method is
a function from the player to the player after the call and the inputs it
dispatched, in order. The private fields keep their source names; a turn's
`index` of -1 and its `isModerator` flag are one optional seat here. A pending
`setTimeout` is the delay it was armed with: only one can be pending, and the
callback that fires is always the one stored in `timer`.
-/

namespace Council.DebatePlayer
open Protocol DebateReducer TextReveal CappedAppend

def TICK_MS : Rat := 300
def TURN_GAP_MS : Rat := 550
def MIN_RATE : Rat := 1 / 2
def MAX_RATE : Rat := 4
def MAX_TURN_CHARS : Nat := 200000

/-- What `setRate` can store: a rate within the bounds, or the NaN that
`Math.min` and `Math.max` hand through. -/
def Playable : JsNumber → Prop
  | .nan => True
  | .finite value => MIN_RATE ≤ value ∧ value ≤ MAX_RATE
  | _ => False

instance : DecidablePred Playable := fun value =>
  match value with
  | .nan => isTrue trivial
  | .finite value => inferInstanceAs (Decidable (MIN_RATE ≤ value ∧ value ≤ MAX_RATE))
  | .negInf => isFalse id
  | .posInf => isFalse id

structure Rate where
  value : JsNumber
  playable : Playable value

theorem clamp_playable (multiplier : JsNumber) :
    Playable (mathMin (.finite MAX_RATE) (mathMax (.finite MIN_RATE) multiplier)) := by
  cases multiplier with
  | nan => trivial
  | negInf => decide +kernel
  | posInf => decide +kernel
  | finite value =>
      simp only [mathMax, mathMin, Playable, MIN_RATE, MAX_RATE]
      grind

def clampRate (multiplier : JsNumber) : Rate where
  value := mathMin (.finite MAX_RATE) (mathMax (.finite MIN_RATE) multiplier)
  playable := clamp_playable multiplier

/-- The result of a scheduler step: one of the two sentinels, or the delay
until the next step. -/
inductive Delay where
  | park
  | done
  | after (ms : JsNumber)
  deriving DecidableEq

/-- The number the source returns for it. -/
def Delay.code : Delay → JsNumber
  | .park => .finite (-1)
  | .done => .finite (-2)
  | .after ms => ms

def scaled (base : Rat) (rate : Rate) : JsNumber :=
  match rate.value with
  | .finite value => .finite (base / value)
  | _ => .nan

def tickMs (rate : Rate) : JsNumber := scaled TICK_MS rate
def turnGapMs (rate : Rate) : JsNumber := scaled TURN_GAP_MS rate

inductive Cursor where
  | panelist (round : Nat) (index : Seat)
  | moderator
  | done
  deriving DecidableEq

structure ActiveTurn where
  persona : PersonaId
  round : Nat
  index : Option Seat
  text : Text
  pos : Nat

/-- The recorded stream, minus the panelist failures, which playback consumes. -/
structure Recording where
  text : Transcript
  roundComplete : Finset Nat
  verdict : Option Text
  sessionError : Option ErrorEvent
  closed : Bool
  moderatorRound : Option Nat

structure Player extends Recording where
  reducedMotion : Bool
  timer : Option JsNumber
  rate : Rate
  draining : Bool
  personaErrors : PersonaId → Option ErrorEvent
  cursor : Cursor
  active : Option ActiveTurn
  pendingDone : Option (PersonaId × Nat)
  pendingRoundComplete : Option Nat
  pendingErrors : List ErrorEvent

def Recording.empty : Recording where
  text := fun _ _ => none
  roundComplete := ∅
  verdict := none
  sessionError := none
  closed := false
  moderatorRound := none

/-- Clears the recording, the schedule and the timeout; `rate` and
`reducedMotion` survive. -/
def reset (player : Player) : Player where
  toRecording := .empty
  reducedMotion := player.reducedMotion
  timer := none
  rate := player.rate
  draining := false
  personaErrors := fun _ => none
  cursor := .panelist 1 0
  active := none
  pendingDone := none
  pendingRoundComplete := none
  pendingErrors := []

/-- The player the constructor builds. -/
def create (reducedMotion : Bool) : Player where
  toRecording := .empty
  reducedMotion := reducedMotion
  timer := none
  rate := ⟨.finite 1, by decide +kernel⟩
  draining := false
  personaErrors := fun _ => none
  cursor := .panelist 1 0
  active := none
  pendingDone := none
  pendingRoundComplete := none
  pendingErrors := []

def setRate (player : Player) (multiplier : JsNumber) : Player :=
  { player with rate := clampRate multiplier }

def Recording.hasBufferedTurn (recording : Recording) : Cursor → Bool
  | .panelist round _ => round ∈ recording.roundComplete
  | .moderator => recording.verdict.isSome
  | .done => true

def Recording.terminalKnown (recording : Recording) : Bool :=
  recording.verdict.isSome || recording.sessionError.isSome || recording.closed

def hasReadyWork (player : Player) : Bool :=
  if player.active.isSome then true
  else if player.cursor = .done then false
  else if player.hasBufferedTurn player.cursor then true
  else player.terminalKnown

def isAtLive (player : Player) : Bool := !hasReadyWork player

def appendText (text : Transcript) (persona : PersonaId) (round : Nat)
    (delta : Text) : Transcript :=
  let combined := cell text persona round ++ delta
  Function.update text persona
    (Function.update (text persona) round (some (clip MAX_TURN_CHARS combined)))

def Recording.getText (recording : Recording) (persona : PersonaId) (round : Nat) : Text :=
  cell recording.text persona round

def Recording.maxPanelRound (recording : Recording) : Nat := recording.roundComplete.sup id

/-- What `flushPending` dispatches: done, then round_complete, then errors. -/
def pendingInputs (player : Player) : List DebateInput :=
  (player.pendingDone.map fun done => .event (.personaDone done.1 done.2)).toList ++
    (player.pendingRoundComplete.map fun round => .event (.roundComplete round)).toList ++
      player.pendingErrors.map fun error => .event (.error error)

/-- What `flushPending` leaves behind. -/
def flushPending (player : Player) : Player :=
  { player with pendingDone := none, pendingRoundComplete := none, pendingErrors := [] }

def Recording.finalizeTerminal (recording : Recording) : List DebateInput :=
  match recording.sessionError with
  | some error => [.event (.error error)]
  | none => if recording.closed then [.status .closed] else []

/-- `prepareNextTurn` returns a sentinel, or null with a turn opened. -/
inductive Prepared where
  | park
  | done
  | opened (turn : ActiveTurn)

structure Preparation where
  outcome : Prepared
  player : Player
  dispatched : List DebateInput

def Recording.panelistTurn (recording : Recording) (round : Nat) (index : Seat) :
    ActiveTurn where
  persona := panelist index
  round := round
  index := some index
  text := recording.getText (panelist index) round
  pos := 0

def Recording.moderatorTurn (recording : Recording) : ActiveTurn where
  persona := MODERATOR_ID
  round := recording.moderatorRound.getD (recording.maxPanelRound + 1)
  index := none
  text := recording.getText MODERATOR_ID
    (recording.moderatorRound.getD (recording.maxPanelRound + 1))
  pos := 0

/-- The moderator half of `prepareNextTurn`. -/
def prepareModerator (player : Player) : Preparation :=
  match player.verdict with
  | none =>
      if player.sessionError.isSome || player.closed then
        ⟨.done, { flushPending player with cursor := .done },
          pendingInputs player ++ player.finalizeTerminal⟩
      else ⟨.park, player, []⟩
  | some verdict =>
      let turn := player.moderatorTurn
      if turn.text = [] then
        ⟨.done, { flushPending player with cursor := .done },
          pendingInputs player ++ [.event (.verdict verdict)]⟩
      else
        ⟨.opened turn, { flushPending player with active := some turn },
          pendingInputs player⟩

def prepareNextTurn (player : Player) : Preparation :=
  match player.cursor with
  | .done => ⟨.done, player, []⟩
  | .panelist round index =>
      if player.hasBufferedTurn (.panelist round index) then
        let turn := player.panelistTurn round index
        ⟨.opened turn, { flushPending player with active := some turn },
          pendingInputs player⟩
      else if player.terminalKnown then
        prepareModerator { player with cursor := .moderator }
      else ⟨.park, player, []⟩
  | .moderator => prepareModerator player

structure Step where
  delay : Delay
  player : Player
  dispatched : List DebateInput

def nextCursor (round : Nat) (index : Seat) : Cursor :=
  if below : index.val + 1 < 4 then .panelist round ⟨index.val + 1, below⟩
  else .panelist (round + 1) 0

/-- The end of a panelist's turn: everything it owes is deferred. -/
def deferTurn (player : Player) (turn : ActiveTurn) (index : Seat) : Player :=
  { player with
    pendingDone := some (turn.persona, turn.round)
    pendingErrors := player.pendingErrors ++ (player.personaErrors turn.persona).toList
    personaErrors := Function.update player.personaErrors turn.persona none
    pendingRoundComplete :=
      if index.val = 3 then some turn.round else player.pendingRoundComplete
    cursor := nextCursor turn.round index
    active := none }

/-- `text.slice(from, until)`. -/
def slice (text : Text) (start stop : Nat) : Text := (text.take stop).drop start

def chunkEnd (player : Player) (turn : ActiveTurn) : Nat :=
  if player.reducedMotion || player.draining then turn.text.length
  else nextChunkEnd turn.text turn.pos

def revealStep (player : Player) (turn : ActiveTurn) : Step :=
  if turn.pos ≥ turn.text.length then
    match turn.index with
    | none =>
        ⟨.done, { player with active := none, cursor := .done },
          [.event (.verdict (player.verdict.getD []))]⟩
    | some index => ⟨.after (turnGapMs player.rate), deferTurn player turn index, []⟩
  else
    let stop := chunkEnd player turn
    ⟨.after (tickMs player.rate), { player with active := some { turn with pos := stop } },
      [.event (.token turn.persona turn.round (slice turn.text turn.pos stop))]⟩

def step (player : Player) : Step :=
  match player.active with
  | some turn => revealStep player turn
  | none =>
      let prepared := prepareNextTurn player
      match prepared.outcome with
      | .park => ⟨.park, prepared.player, prepared.dispatched⟩
      | .done => ⟨.done, prepared.player, prepared.dispatched⟩
      | .opened turn =>
          let revealed := revealStep prepared.player turn
          ⟨revealed.delay, revealed.player, prepared.dispatched ++ revealed.dispatched⟩

def pump (player : Player) : Player × List DebateInput :=
  if player.timer.isSome then (player, [])
  else
    let taken := step player
    match taken.delay with
    | .after ms => ({ taken.player with timer := some ms }, taken.dispatched)
    | _ => (taken.player, taken.dispatched)

/-- The armed timeout firing. -/
def fire (player : Player) : Player × List DebateInput :=
  if player.timer.isSome then pump { player with timer := none } else (player, [])

def record (player : Player) : DebateEvent → Player
  | .token persona round delta =>
      { player with
        text := appendText player.text persona round delta
        moderatorRound :=
          if persona = MODERATOR_ID then some round else player.moderatorRound }
  | .personaDone _ _ => player
  | .roundComplete round =>
      { player with roundComplete := insert round player.roundComplete }
  | .verdict verdict => { player with verdict := some verdict }
  | .error event =>
      match event.persona with
      | none => { player with sessionError := some event }
      | some persona =>
          if persona = MODERATOR_ID then { player with sessionError := some event }
          else
            { player with
              personaErrors := Function.update player.personaErrors persona (some event) }

theorem terminal_or_seated (event : ErrorEvent) :
    event.terminal = true ∨
      ∃ persona, event.persona = some persona ∧ persona ≠ MODERATOR_ID := by
  cases named : event.persona with
  | none => simp [ErrorEvent.terminal, named]
  | some persona =>
      by_cases moderator : persona = MODERATOR_ID
      · simp [ErrorEvent.terminal, named, moderator]
      · exact .inr ⟨persona, rfl, moderator⟩

theorem record_terminal (player : Player) (event : ErrorEvent)
    (terminal : event.terminal = true) :
    record player (.error event) = { player with sessionError := some event } := by
  cases named : event.persona with
  | none => simp [record, named]
  | some persona =>
      have moderator : persona = MODERATOR_ID := by
        simpa [ErrorEvent.terminal, named] using terminal
      simp [record, named, moderator]

theorem record_failure (player : Player) (event : ErrorEvent) (persona : PersonaId)
    (named : event.persona = some persona) (seated : persona ≠ MODERATOR_ID) :
    record player (.error event) =
      { player with
        personaErrors := Function.update player.personaErrors persona (some event) } := by
  simp [record, named, seated]

theorem record_error (player : Player) (event : ErrorEvent) :
    ∃ failures, record player (.error event) =
      { player with
        sessionError := if event.terminal then some event else player.sessionError
        personaErrors := failures } := by
  rcases terminal_or_seated event with terminal | ⟨persona, named, seated⟩
  · exact ⟨player.personaErrors, by simp [record_terminal player event terminal, terminal]⟩
  · have survivable : event.terminal = false := by
      simp [ErrorEvent.terminal, named, seated]
    exact ⟨_, by rw [record_failure player event persona named seated, survivable]; rfl⟩

def feed (player : Player) (event : DebateEvent) : Player × List DebateInput :=
  pump (record player event)

def feedStatus (player : Player) : WsStatus → Player × List DebateInput
  | .connecting => (reset player, [.status .connecting])
  | .closed => pump { player with closed := true }
  | status => (player, [.status status])

def feedTransport (player : Player) (message : Text) : Player × List DebateInput :=
  (player, [.transport message])

/-- One unit of playback with its guard: everything `prepareNextTurn` and
`revealStep` can do to a player, and what they dispatch while doing it. -/
inductive Move (player : Player) : List DebateInput → Player → Prop where
  | handOff (round : Nat) (index : Seat) (idle : player.active = none)
      (next : player.cursor = .panelist round index)
      (missing : round ∉ player.roundComplete) (terminal : player.terminalKnown = true) :
      Move player [] { player with cursor := .moderator }
  | finish (idle : player.active = none) (next : player.cursor = .moderator)
      (silent : player.verdict = none)
      (ended : (player.sessionError.isSome || player.closed) = true) :
      Move player (pendingInputs player ++ player.finalizeTerminal)
        { flushPending player with cursor := .done }
  | announce (verdict : Text) (idle : player.active = none)
      (next : player.cursor = .moderator) (known : player.verdict = some verdict)
      (empty : player.moderatorTurn.text = []) :
      Move player (pendingInputs player ++ [.event (.verdict verdict)])
        { flushPending player with cursor := .done }
  | openPanelist (round : Nat) (index : Seat) (idle : player.active = none)
      (next : player.cursor = .panelist round index)
      (buffered : round ∈ player.roundComplete) :
      Move player (pendingInputs player)
        { flushPending player with active := some (player.panelistTurn round index) }
  | openModerator (idle : player.active = none) (next : player.cursor = .moderator)
      (known : player.verdict.isSome = true)
      (spoken : player.moderatorTurn.text ≠ []) :
      Move player (pendingInputs player)
        { flushPending player with active := some player.moderatorTurn }
  | reveal (turn : ActiveTurn) (speaking : player.active = some turn)
      (more : turn.pos < turn.text.length) :
      Move player
        [.event (.token turn.persona turn.round
          (slice turn.text turn.pos (chunkEnd player turn)))]
        { player with active := some { turn with pos := chunkEnd player turn } }
  | defer (turn : ActiveTurn) (index : Seat) (speaking : player.active = some turn)
      (told : turn.text.length ≤ turn.pos) (seated : turn.index = some index) :
      Move player [] (deferTurn player turn index)
  | conclude (turn : ActiveTurn) (speaking : player.active = some turn)
      (told : turn.text.length ≤ turn.pos) (unseated : turn.index = none) :
      Move player [.event (.verdict (player.verdict.getD []))]
        { player with active := none, cursor := .done }

inductive Moves : Player → List DebateInput → Player → Prop where
  | refl (player : Player) : Moves player [] player
  | next {before middle after : Player} {first rest : List DebateInput}
      (move : Move before first middle) (tail : Moves middle rest after) :
      Moves before (first ++ rest) after

theorem Moves.single {before after : Player} {dispatched : List DebateInput}
    (move : Move before dispatched after) : Moves before dispatched after := by
  have path := Moves.next move (Moves.refl after)
  rwa [List.append_nil] at path

theorem Moves.trans {before middle after : Player} {first second : List DebateInput}
    (head : Moves before first middle) (tail : Moves middle second after) :
    Moves before (first ++ second) after := by
  induction head with
  | refl => exact tail
  | next move _ ih =>
      rw [List.append_assoc]
      exact .next move (ih tail)

/-- At least one move. -/
def Progress (before : Player) (dispatched : List DebateInput) (after : Player) : Prop :=
  ∃ first middle rest, Move before first middle ∧ Moves middle rest after ∧
    dispatched = first ++ rest

theorem Progress.moves {before after : Player} {dispatched : List DebateInput}
    (progress : Progress before dispatched after) : Moves before dispatched after := by
  obtain ⟨first, middle, rest, move, tail, rfl⟩ := progress
  exact .next move tail

theorem Move.progress {before after : Player} {dispatched : List DebateInput}
    (move : Move before dispatched after) : Progress before dispatched after :=
  ⟨dispatched, after, [], move, .refl after, (List.append_nil _).symm⟩

theorem Progress.trans {before middle after : Player} {first second : List DebateInput}
    (head : Progress before first middle) (tail : Moves middle second after) :
    Progress before (first ++ second) after := by
  obtain ⟨start, next, rest, move, path, rfl⟩ := head
  exact ⟨start, next, rest ++ second, move, path.trans tail, List.append_assoc _ _ _⟩

theorem reveal_step_move (player : Player) (turn : ActiveTurn)
    (speaking : player.active = some turn) :
    Move player (revealStep player turn).dispatched (revealStep player turn).player := by
  unfold revealStep
  by_cases told : turn.pos ≥ turn.text.length
  · rw [if_pos told]
    cases seated : turn.index with
    | none => exact .conclude turn speaking told seated
    | some index => exact .defer turn index speaking told seated
  · rw [if_neg told]
    exact .reveal turn speaking (Nat.lt_of_not_ge told)

/-- What `prepareNextTurn` can answer, and what it did when it did so. -/
inductive Prepares (player : Player) : Preparation → Prop where
  | parked (blocked : hasReadyWork player = false) (unfinished : player.cursor ≠ .done) :
      Prepares player ⟨.park, player, []⟩
  | finished (halted : player.cursor = .done) : Prepares player ⟨.done, player, []⟩
  | ended {after : Player} {dispatched : List DebateInput}
      (moves : Progress player dispatched after) (idle : after.active = none)
      (halted : after.cursor = .done) (ready : hasReadyWork player = true) :
      Prepares player ⟨.done, after, dispatched⟩
  | opened {after : Player} {dispatched : List DebateInput} (turn : ActiveTurn)
      (moves : Progress player dispatched after) (speaking : after.active = some turn)
      (ready : hasReadyWork player = true) :
      Prepares player ⟨.opened turn, after, dispatched⟩

theorem ready_of_terminal (player : Player) (unfinished : player.cursor ≠ .done)
    (terminal : player.terminalKnown = true) : hasReadyWork player = true := by
  simp [hasReadyWork, unfinished, terminal]

theorem ready_of_buffered (player : Player) (unfinished : player.cursor ≠ .done)
    (buffered : player.hasBufferedTurn player.cursor = true) :
    hasReadyWork player = true := by
  simp [hasReadyWork, unfinished, buffered]

theorem prepare_moderator_prepares (player : Player) (idle : player.active = none)
    (next : player.cursor = .moderator) : Prepares player (prepareModerator player) := by
  have unfinished : player.cursor ≠ .done := by simp [next]
  unfold prepareModerator
  cases known : player.verdict with
  | none =>
      simp only
      by_cases ended : (player.sessionError.isSome || player.closed) = true
      · rw [if_pos ended]
        have terminal : player.terminalKnown = true := by
          simpa [Recording.terminalKnown, known] using ended
        exact .ended (Move.finish idle next known ended).progress idle rfl
          (ready_of_terminal player unfinished terminal)
      · rw [if_neg ended]
        refine .parked ?_ unfinished
        simp only [Bool.not_eq_true] at ended
        simp [hasReadyWork, idle, next, Recording.hasBufferedTurn,
          Recording.terminalKnown, known, ended]
  | some verdict =>
      have terminal : player.terminalKnown = true := by
        simp [Recording.terminalKnown, known]
      have ready := ready_of_terminal player unfinished terminal
      simp only
      by_cases empty : player.moderatorTurn.text = []
      · rw [if_pos empty]
        exact .ended (Move.announce verdict idle next known empty).progress idle rfl ready
      · rw [if_neg empty]
        exact .opened player.moderatorTurn
          (Move.openModerator idle next (by simp [known]) empty).progress rfl ready

/-- After the hand-off the moderator half cannot park: the stream has ended. -/
theorem hand_off_prepares (player : Player) (round : Nat) (index : Seat)
    (idle : player.active = none) (next : player.cursor = .panelist round index)
    (missing : round ∉ player.roundComplete) (terminal : player.terminalKnown = true) :
    Prepares player (prepareModerator { player with cursor := .moderator }) := by
  have handed := (Move.handOff round index idle next missing terminal).progress
  have ready := ready_of_terminal player (by simp [next]) terminal
  have prepared := prepare_moderator_prepares { player with cursor := .moderator } idle rfl
  generalize prepareModerator { player with cursor := .moderator } = answer at prepared
  cases prepared with
  | parked blocked => simp [hasReadyWork, idle, terminal] at blocked
  | finished halted => cases halted
  | ended moves rest halted => exact .ended (handed.trans moves.moves) rest halted ready
  | opened turn moves speaking =>
      exact .opened turn (handed.trans moves.moves) speaking ready

theorem prepare_next_turn_prepares (player : Player) (idle : player.active = none) :
    Prepares player (prepareNextTurn player) := by
  unfold prepareNextTurn
  cases next : player.cursor with
  | done => exact .finished next
  | moderator => exact prepare_moderator_prepares player idle next
  | panelist round index =>
      simp only
      by_cases buffered : round ∈ player.roundComplete
      · rw [if_pos (by simpa [Recording.hasBufferedTurn] using buffered)]
        exact .opened _ (Move.openPanelist round index idle next buffered).progress rfl
          (ready_of_buffered player (by simp [next])
            (by simpa [next, Recording.hasBufferedTurn] using buffered))
      · rw [if_neg (by simpa [Recording.hasBufferedTurn] using buffered)]
        by_cases terminal : player.terminalKnown = true
        · rw [if_pos terminal]
          exact hand_off_prepares player round index idle next buffered terminal
        · rw [if_neg terminal]
          simp only [Bool.not_eq_true] at terminal
          refine .parked ?_ (by simp [next])
          simp [hasReadyWork, idle, next, Recording.hasBufferedTurn, buffered, terminal]

/-- The two sentinels and the delays, each with what the step has done. -/
inductive Steps (player : Player) : Step → Prop where
  | parked (idle : player.active = none) (blocked : hasReadyWork player = false)
      (unfinished : player.cursor ≠ .done) : Steps player ⟨.park, player, []⟩
  | finished (idle : player.active = none) (halted : player.cursor = .done) :
      Steps player ⟨.done, player, []⟩
  | ended {after : Player} {dispatched : List DebateInput}
      (moves : Progress player dispatched after) (idle : after.active = none)
      (halted : after.cursor = .done) (ready : hasReadyWork player = true) :
      Steps player ⟨.done, after, dispatched⟩
  | went (ms : JsNumber) {after : Player} {dispatched : List DebateInput}
      (moves : Progress player dispatched after) (ready : hasReadyWork player = true) :
      Steps player ⟨.after ms, after, dispatched⟩

theorem reveal_step_delay (player : Player) (turn : ActiveTurn) :
    (∃ ms, (revealStep player turn).delay = .after ms) ∨
      ((revealStep player turn).delay = .done ∧
        (revealStep player turn).player.active = none ∧
          (revealStep player turn).player.cursor = .done) := by
  unfold revealStep
  by_cases told : turn.pos ≥ turn.text.length
  · rw [if_pos told]
    cases turn.index with
    | none => exact .inr ⟨rfl, rfl, rfl⟩
    | some index => exact .inl ⟨_, rfl⟩
  · rw [if_neg told]
    exact .inl ⟨_, rfl⟩

theorem revealed_steps (player middle : Player) (turn : ActiveTurn)
    (first : List DebateInput) (head : Moves player first middle)
    (speaking : middle.active = some turn) (ready : hasReadyWork player = true) :
    Steps player ⟨(revealStep middle turn).delay, (revealStep middle turn).player,
      first ++ (revealStep middle turn).dispatched⟩ := by
  have move := reveal_step_move middle turn speaking
  have progress : Progress player (first ++ (revealStep middle turn).dispatched)
      (revealStep middle turn).player := by
    cases head with
    | refl => exact move.progress
    | next start tail =>
        rw [List.append_assoc]
        exact start.progress.trans (tail.trans (.single move))
  rcases reveal_step_delay middle turn with ⟨ms, later⟩ | ⟨halted, idle, last⟩
  · rw [later]
    exact .went ms progress ready
  · rw [halted]
    exact .ended progress idle last ready

theorem step_steps (player : Player) : Steps player (step player) := by
  unfold step
  cases speaking : player.active with
  | some turn =>
      have ready : hasReadyWork player = true := by simp [hasReadyWork, speaking]
      exact revealed_steps player player turn [] (.refl player) speaking ready
  | none =>
      have prepared := prepare_next_turn_prepares player speaking
      generalize prepareNextTurn player = answer at prepared
      cases prepared with
      | parked blocked unfinished => exact .parked speaking blocked unfinished
      | finished halted => exact .finished speaking halted
      | ended moves idle halted ready => exact .ended moves idle halted ready
      | opened turn moves opened ready =>
          exact revealed_steps player _ turn _ moves.moves opened ready

end Council.DebatePlayer

import Council.DebatePlayer

/-!
Whole runs of the player: `skipToLive`, which loops over `step`, and arbitrary
sequences of calls interleaved with firings of the timeout. Every run is a
path of playback moves between arrivals of recorded data; results about all
runs are inductions over such paths.
-/

namespace Council.PlayerRuns
open Protocol DebateReducer DebatePlayer TextReveal

/-- Turns that can still be opened from a seat, up to the last recorded round. -/
def seatsLeft (player : Player) (round : Nat) (index : Seat) : Nat :=
  4 * (player.maxPanelRound + 1) - (4 * round + index.val)

/-- Opening a turn, handing off and ending a turn each lower the stage; a
reveal keeps it and lowers the text left. -/
def stage (player : Player) : Nat :=
  match player.active with
  | some turn =>
      match turn.index with
      | some index => 2 * seatsLeft player turn.round index + 4
      | none => 1
  | none =>
      match player.cursor with
      | .panelist round index =>
          if round ∈ player.roundComplete then 2 * seatsLeft player round index + 5 else 3
      | .moderator => 2
      | .done => 0

def textLeft (player : Player) : Nat :=
  match player.active with
  | some turn => turn.text.length - turn.pos
  | none => 0

theorem recorded_round_le (player : Player) (round : Nat)
    (buffered : round ∈ player.roundComplete) : round ≤ player.maxPanelRound :=
  Finset.le_sup (f := id) buffered

theorem chunk_end_gt (player : Player) (turn : ActiveTurn)
    (more : turn.pos < turn.text.length) : turn.pos < chunkEnd player turn := by
  unfold chunkEnd
  split
  · exact more
  · exact next_chunk_end_gt turn.text turn.pos more

theorem chunk_end_le (player : Player) (turn : ActiveTurn)
    (inside : turn.pos ≤ turn.text.length) : chunkEnd player turn ≤ turn.text.length := by
  unfold chunkEnd
  split
  · exact Nat.le_refl _
  · exact next_chunk_end_le turn.text turn.pos inside

/-- Ending a seat's turn passes to a seat with fewer turns left, or leaves
the panelists. -/
theorem stage_next_cursor (player : Player) (round : Nat) (index : Seat)
    (idle : player.active = none) (next : player.cursor = nextCursor round index) :
    stage player < 2 * seatsLeft player round index + 4 := by
  unfold stage
  rw [idle, next]
  unfold nextCursor
  by_cases below : index.val + 1 < 4
  · rw [dif_pos below]
    simp only
    by_cases buffered : round ∈ player.roundComplete
    · have bound := recorded_round_le player round buffered
      rw [if_pos buffered]
      simp only [seatsLeft]
      omega
    · rw [if_neg buffered]
      omega
  · rw [dif_neg below]
    simp only
    by_cases buffered : round + 1 ∈ player.roundComplete
    · have bound := recorded_round_le player (round + 1) buffered
      rw [if_pos buffered]
      simp only [seatsLeft, Fin.val_zero]
      omega
    · rw [if_neg buffered]
      omega

theorem move_decreases {before after : Player} {dispatched : List DebateInput}
    (move : Move before dispatched after) :
    stage after < stage before ∨
      (stage after = stage before ∧ textLeft after < textLeft before) := by
  cases move with
  | handOff round index idle next missing terminal =>
      left
      simp [stage, idle, next, missing]
  | finish idle next => left; simp [stage, idle, next, flushPending]
  | announce verdict idle next => left; simp [stage, idle, next, flushPending]
  | openPanelist round index idle next buffered =>
      left
      simp [stage, idle, next, buffered, Recording.panelistTurn, seatsLeft, flushPending]
  | openModerator idle next =>
      left
      simp [stage, idle, next, Recording.moderatorTurn]
  | reveal turn speaking more =>
      right
      have advance := chunk_end_gt before turn more
      constructor
      · simp only [stage, speaking, seatsLeft]
      · simp only [textLeft, speaking]
        omega
  | defer turn index speaking told seated =>
      left
      have passed := stage_next_cursor (deferTurn before turn index) turn.round index rfl rfl
      have same : seatsLeft (deferTurn before turn index) turn.round index =
          seatsLeft before turn.round index := rfl
      have current : stage before = 2 * seatsLeft before turn.round index + 4 := by
        simp only [stage, speaking, seated]
      omega
  | conclude turn speaking told unseated => left; simp [stage, speaking, unseated]

/-- Earlier in the lexicographic order of stage and text left. -/
def Below (left right : Player) : Prop :=
  stage left < stage right ∨ (stage left = stage right ∧ textLeft left < textLeft right)

theorem Below.trans {first second third : Player} (low : Below first second)
    (high : Below second third) : Below first third := by
  unfold Below at *
  omega

theorem moves_below {before after : Player} {dispatched : List DebateInput}
    (moves : Moves before dispatched after) : after = before ∨ Below after before := by
  induction moves with
  | refl => exact .inl rfl
  | next move tail ih =>
      have first := move_decreases move
      rcases ih with same | later
      · exact .inr (same ▸ first)
      · exact .inr (later.trans first)

theorem progress_below {before after : Player} {dispatched : List DebateInput}
    (progress : Progress before dispatched after) : Below after before := by
  obtain ⟨_, middle, _, move, tail, _⟩ := progress
  rcases moves_below tail with same | later
  · exact same ▸ move_decreases move
  · exact later.trans (move_decreases move)

theorem step_below (player : Player) (ms : JsNumber)
    (taken : (step player).delay = .after ms) : Below (step player).player player := by
  have steps := step_steps player
  generalize step player = answer at steps taken
  cases steps with
  | went ms moves ready => exact progress_below moves
  | _ => cases taken

/-- `let delay = step(); while (delay !== PARK && delay !== DONE) delay = step()`. -/
def drain (player : Player) : Player × List DebateInput :=
  match _taken : (step player).delay with
  | .park => ((step player).player, (step player).dispatched)
  | .done => ((step player).player, (step player).dispatched)
  | .after _ =>
      let rest := drain (step player).player
      (rest.1, (step player).dispatched ++ rest.2)
termination_by (stage player, textLeft player)
decreasing_by exact Prod.lex_def.mpr (step_below player _ _taken)

def skipToLive (player : Player) : Player × List DebateInput :=
  let drained := drain { player with timer := none, draining := true }
  ({ drained.1 with draining := false }, drained.2)

/-- A call on the player, or the firing of its timeout. -/
inductive Op where
  | feed (event : DebateEvent)
  | feedStatus (status : WsStatus)
  | feedTransport (message : Text)
  | setRate (multiplier : JsNumber)
  | skipToLive
  | reset
  | fire
  deriving DecidableEq

def apply (player : Player) : Op → Player × List DebateInput
  | .feed event => feed player event
  | .feedStatus status => feedStatus player status
  | .feedTransport message => feedTransport player message
  | .setRate multiplier => (setRate player multiplier, [])
  | .skipToLive => skipToLive player
  | .reset => (reset player, [])
  | .fire => fire player

/-- The player after a sequence of calls, and everything it dispatched. -/
def run (player : Player) : List Op → Player × List DebateInput
  | [] => (player, [])
  | op :: rest =>
      let first := apply player op
      let later := run first.1 rest
      (later.1, first.2 ++ later.2)

/-- Without a pending timeout there is nothing left to play. -/
def Rested (player : Player) : Prop := player.timer = none → hasReadyWork player = false

theorem step_rests (player : Player) (stopped : ∀ ms, (step player).delay ≠ .after ms) :
    hasReadyWork (step player).player = false := by
  have steps := step_steps player
  generalize step player = answer at steps stopped
  cases steps with
  | parked idle blocked => exact blocked
  | finished idle halted => simp [hasReadyWork, idle, halted]
  | ended moves idle halted => simp [hasReadyWork, idle, halted]
  | went ms => exact absurd rfl (stopped ms)

theorem pump_rests (player : Player) : Rested (pump player).1 := by
  intro unarmed
  unfold pump at unarmed ⊢
  by_cases armed : player.timer.isSome = true
  · rw [if_pos armed] at unarmed
    rw [unarmed] at armed
    cases armed
  · rw [if_neg armed] at unarmed ⊢
    have rests := step_rests player
    generalize step player = answer at rests unarmed
    obtain ⟨delay, after, dispatched⟩ := answer
    cases delay with
    | park => exact rests fun _ same => nomatch same
    | done => exact rests fun _ same => nomatch same
    | after ms => cases unarmed

theorem drain_rests (player : Player) : hasReadyWork (drain player).1 = false := by
  induction player using drain.induct with
  | case1 player taken =>
      rw [drain, taken]
      exact step_rests player fun _ same => nomatch taken.symm.trans same
  | case2 player taken =>
      rw [drain, taken]
      exact step_rests player fun _ same => nomatch taken.symm.trans same
  | case3 player ms taken ih =>
      rw [drain, taken]
      exact ih

theorem reset_rests (player : Player) : Rested (reset player) := fun _ => rfl

theorem apply_rests (player : Player) (op : Op) (rested : Rested player) :
    Rested (apply player op).1 := by
  cases op with
  | feed event => exact pump_rests _
  | feedStatus status =>
      cases status with
      | connecting => exact reset_rests player
      | closed => exact pump_rests _
      | idle => exact rested
      | opened => exact rested
      | error => exact rested
  | feedTransport message => exact rested
  | setRate multiplier => exact rested
  | skipToLive => exact fun _ => drain_rests _
  | reset => exact reset_rests player
  | fire =>
      change Rested (fire player).1
      unfold fire
      by_cases armed : player.timer.isSome = true
      · rw [if_pos armed]
        exact pump_rests _
      · rw [if_neg armed]
        exact rested

theorem run_rests (player : Player) (ops : List Op) (rested : Rested player) :
    Rested (run player ops).1 := by
  induction ops generalizing player with
  | nil => exact rested
  | cons op rest ih => exact ih _ (apply_rests player op rested)

/-- A session begins with `feedStatus("connecting")` and its calls neither
reset the player nor announce another session. -/
def Op.inSession : Op → Bool
  | .reset => false
  | .feedStatus .connecting => false
  | _ => true

/-- What the recording can receive: a validated event or the end of the socket. -/
inductive Arrival where
  | event (event : DebateEvent)
  | close
  deriving DecidableEq

def asInput : Arrival → DebateInput
  | .event event => .event event
  | .close => .status .closed

def Op.arrival : Op → Option Arrival
  | .feed event => some (.event event)
  | .feedStatus .closed => some .close
  | _ => none

def arrivals (ops : List Op) : List Arrival := ops.filterMap Op.arrival

def receive (player : Player) : Arrival → Player
  | .event event => record player event
  | .close => { player with closed := true }

/-- Advisory statuses and transport messages pass straight through; playback
dispatches everything else. -/
def ofPlayback : DebateInput → Bool
  | .event _ => true
  | .status .closed => true
  | _ => false

/-- A path of arrivals, playback moves and changes of pace from `start`:
what has arrived, what playback has dispatched, and the player now. Every
arrival is one that `admits` allows at that moment. -/
inductive Played (admits : Player → Arrival → Prop) (start : Player) :
    List Arrival → List DebateInput → Player → Prop where
  | start : Played admits start [] [] start
  | arrive {arrived : List Arrival} {log : List DebateInput} {player : Player}
      (arrival : Arrival) (earlier : Played admits start arrived log player)
      (admitted : admits player arrival) :
      Played admits start (arrived ++ [arrival]) log (receive player arrival)
  | pace {arrived : List Arrival} {log : List DebateInput} {player : Player}
      (timer : Option JsNumber) (rate : Rate) (draining : Bool)
      (earlier : Played admits start arrived log player) :
      Played admits start arrived log
        { player with timer := timer, rate := rate, draining := draining }
  | move {arrived : List Arrival} {log dispatched : List DebateInput}
      {player after : Player} (earlier : Played admits start arrived log player)
      (move : Move player dispatched after) :
      Played admits start arrived (log ++ dispatched) after

section Paths
variable {admits : Player → Arrival → Prop} {start : Player}
  {arrived : List Arrival} {log : List DebateInput}
  {player : Player}

theorem Played.moves (earlier : Played admits start arrived log player)
    {after : Player} {dispatched : List DebateInput} (moves : Moves player dispatched after) :
    Played admits start arrived (log ++ dispatched) after := by
  induction moves generalizing log with
  | refl => rwa [List.append_nil]
  | next move tail ih =>
      rw [← List.append_assoc]
      exact ih (earlier.move move)

theorem Played.step (earlier : Played admits start arrived log player) :
    Played admits start arrived (log ++ (step player).dispatched) (step player).player := by
  have steps := step_steps player
  generalize DebatePlayer.step player = answer at steps
  cases steps with
  | parked => rwa [List.append_nil]
  | finished => rwa [List.append_nil]
  | ended moves => exact earlier.moves moves.moves
  | went ms moves => exact earlier.moves moves.moves

theorem Played.drain (earlier : Played admits start arrived log player) :
    Played admits start arrived (log ++ (drain player).2) (drain player).1 := by
  induction player using PlayerRuns.drain.induct generalizing log with
  | case1 player taken =>
      rw [PlayerRuns.drain, taken]
      exact earlier.step
  | case2 player taken =>
      rw [PlayerRuns.drain, taken]
      exact earlier.step
  | case3 player ms taken ih =>
      rw [PlayerRuns.drain, taken, ← List.append_assoc]
      exact ih earlier.step

theorem Played.pump (earlier : Played admits start arrived log player) :
    Played admits start arrived (log ++ (pump player).2) (pump player).1 := by
  unfold DebatePlayer.pump
  by_cases armed : player.timer.isSome = true
  · rw [if_pos armed, List.append_nil]
    exact earlier
  · rw [if_neg armed]
    have taken := earlier.step
    generalize DebatePlayer.step player = answer at taken
    obtain ⟨delay, after, dispatched⟩ := answer
    cases delay with
    | park => exact taken
    | done => exact taken
    | after ms => exact taken.pace (some ms) after.rate after.draining

theorem Played.skip (earlier : Played admits start arrived log player) :
    Played admits start arrived (log ++ (skipToLive player).2) (skipToLive player).1 := by
  have drained := (earlier.pace none player.rate true).drain
  exact drained.pace _ _ false

theorem Played.fire (earlier : Played admits start arrived log player) :
    Played admits start arrived (log ++ (fire player).2) (fire player).1 := by
  unfold DebatePlayer.fire
  split
  · exact (earlier.pace none player.rate player.draining).pump
  · rwa [List.append_nil]

end Paths

theorem pending_of_playback (player : Player) :
    ∀ input ∈ pendingInputs player, ofPlayback input = true := by
  intro input member
  simp only [pendingInputs, List.mem_append, Option.mem_toList, Option.map_eq_some_iff,
    List.mem_map] at member
  rcases member with (⟨done, _, rfl⟩ | ⟨round, _, rfl⟩) | ⟨error, _, rfl⟩ <;> rfl

theorem finalize_of_playback (recording : Recording) :
    ∀ input ∈ recording.finalizeTerminal, ofPlayback input = true := by
  intro input member
  unfold Recording.finalizeTerminal at member
  split at member
  · rw [List.mem_singleton.mp member]
    rfl
  · split at member
    · rw [List.mem_singleton.mp member]
      rfl
    · cases member

theorem move_of_playback {before after : Player} {dispatched : List DebateInput}
    (move : Move before dispatched after) :
    ∀ input ∈ dispatched, ofPlayback input = true := by
  intro input member
  have pending := pending_of_playback before
  cases move with
  | handOff => cases member
  | finish =>
      rcases List.mem_append.mp member with owed | last
      · exact pending input owed
      · exact finalize_of_playback _ input last
  | announce =>
      rcases List.mem_append.mp member with owed | last
      · exact pending input owed
      · rw [List.mem_singleton.mp last]
        rfl
  | openPanelist => exact pending input member
  | openModerator => exact pending input member
  | reveal => rw [List.mem_singleton.mp member]; rfl
  | defer => cases member
  | conclude => rw [List.mem_singleton.mp member]; rfl

theorem step_of_playback (player : Player) :
    ∀ input ∈ (step player).dispatched, ofPlayback input = true := by
  have moves_of_playback : ∀ {before after : Player} {dispatched : List DebateInput},
      Moves before dispatched after → ∀ input ∈ dispatched, ofPlayback input = true := by
    intro before after dispatched moves
    induction moves with
    | refl => intro input member; cases member
    | next move tail ih =>
        intro input member
        rcases List.mem_append.mp member with first | later
        · exact move_of_playback move input first
        · exact ih input later
  have steps := step_steps player
  generalize step player = answer at steps
  cases steps with
  | parked => intro input member; cases member
  | finished => intro input member; cases member
  | ended moves => exact moves_of_playback moves.moves
  | went ms moves => exact moves_of_playback moves.moves

theorem drain_of_playback (player : Player) :
    ∀ input ∈ (drain player).2, ofPlayback input = true := by
  induction player using drain.induct with
  | case1 player taken =>
      rw [drain, taken]
      exact step_of_playback player
  | case2 player taken =>
      rw [drain, taken]
      exact step_of_playback player
  | case3 player ms taken ih =>
      rw [drain, taken]
      intro input member
      rcases List.mem_append.mp member with first | later
      · exact step_of_playback player input first
      · exact ih input later

theorem pump_of_playback (player : Player) :
    ∀ input ∈ (pump player).2, ofPlayback input = true := by
  have taken := step_of_playback player
  unfold pump
  split
  · intro input member
    cases member
  · generalize step player = answer at taken
    obtain ⟨delay, after, dispatched⟩ := answer
    cases delay <;> exact taken

/-- The calls that only record and play: no reset, no advisory input. -/
def Op.plays : Op → Bool
  | .feed _ => true
  | .feedStatus .closed => true
  | .setRate _ => true
  | .skipToLive => true
  | .fire => true
  | _ => false

theorem apply_of_playback (player : Player) (op : Op) (plays : op.plays = true) :
    ∀ input ∈ (apply player op).2, ofPlayback input = true := by
  cases op with
  | feed event => exact pump_of_playback _
  | feedStatus status =>
      cases status with
      | closed => exact pump_of_playback _
      | _ => cases plays
  | feedTransport => cases plays
  | setRate => exact fun _ member => nomatch member
  | skipToLive => exact drain_of_playback _
  | reset => cases plays
  | fire =>
      change ∀ input ∈ (fire player).2, ofPlayback input = true
      unfold fire
      split
      · exact pump_of_playback _
      · exact fun _ member => nomatch member

theorem run_of_playback (player : Player) (ops : List Op)
    (plays : ∀ op ∈ ops, op.plays = true) :
    ∀ input ∈ (run player ops).2, ofPlayback input = true := by
  induction ops generalizing player with
  | nil => exact fun _ member => nomatch member
  | cons op rest ih =>
      intro input member
      rcases List.mem_append.mp member with first | later
      · exact apply_of_playback player op (plays op List.mem_cons_self) input first
      · exact ih _ (fun other listed => plays other (List.mem_cons_of_mem op listed))
          input later

theorem Op.plays_in_session (op : Op) (plays : op.plays = true) : op.inSession = true := by
  cases op with
  | feedStatus status => cases status <;> first | rfl | cases plays
  | reset => cases plays
  | _ => rfl

theorem Played.apply {admits : Player → Arrival → Prop} {start player : Player}
    {arrived : List Arrival} {log : List DebateInput}
    (earlier : Played admits start arrived log player) (op : Op)
    (inSession : op.inSession = true)
    (admitted : ∀ arrival, op.arrival = some arrival → admits player arrival) :
    Played admits start (arrived ++ op.arrival.toList)
      (log ++ (apply player op).2.filter ofPlayback) (apply player op).1 := by
  have kept : op.plays = true →
      (PlayerRuns.apply player op).2.filter ofPlayback = (PlayerRuns.apply player op).2 :=
    fun plays => List.filter_eq_self.mpr (apply_of_playback player op plays)
  cases op with
  | feed event =>
      rw [kept rfl]
      exact (earlier.arrive (.event event) (admitted _ rfl)).pump
  | feedStatus status =>
      cases status with
      | connecting => cases inSession
      | closed =>
          rw [kept rfl]
          exact (earlier.arrive .close (admitted _ rfl)).pump
      | idle => simpa [PlayerRuns.apply, feedStatus, Op.arrival, ofPlayback] using earlier
      | opened => simpa [PlayerRuns.apply, feedStatus, Op.arrival, ofPlayback] using earlier
      | error => simpa [PlayerRuns.apply, feedStatus, Op.arrival, ofPlayback] using earlier
  | feedTransport message =>
      simpa [PlayerRuns.apply, feedTransport, Op.arrival, ofPlayback] using earlier
  | setRate multiplier =>
      simpa [PlayerRuns.apply, setRate, Op.arrival] using
        earlier.pace player.timer (clampRate multiplier) player.draining
  | skipToLive =>
      rw [kept rfl]
      simpa [PlayerRuns.apply, Op.arrival] using earlier.skip
  | reset => cases inSession
  | fire =>
      rw [kept rfl]
      simpa [PlayerRuns.apply, Op.arrival] using earlier.fire

/-- Whatever a run feeds is allowed in the state it is fed in. -/
def Admits (admits : Player → Arrival → Prop) : Player → List Op → Prop
  | _, [] => True
  | player, op :: rest =>
      (∀ arrival, op.arrival = some arrival → admits player arrival) ∧
        Admits admits (apply player op).1 rest

instance decidableAdmits (admits : Player → Arrival → Prop)
    [∀ player, DecidablePred (admits player)] :
    ∀ player ops, Decidable (Admits admits player ops)
  | _, [] => isTrue trivial
  | player, op :: rest =>
      have : Decidable (Admits admits (apply player op).1 rest) :=
        decidableAdmits admits (apply player op).1 rest
      match known : op.arrival with
      | none => decidable_of_iff (Admits admits (apply player op).1 rest) (by
          simp [Admits, known])
      | some arrival => decidable_of_iff
          (admits player arrival ∧ Admits admits (apply player op).1 rest) (by
            simp [Admits, known])

theorem admits_all (player : Player) (ops : List Op) :
    Admits (fun _ _ => True) player ops := by
  induction ops generalizing player with
  | nil => trivial
  | cons op rest ih => exact ⟨fun _ _ => trivial, ih _⟩

theorem Played.run {admits : Player → Arrival → Prop} {start player : Player}
    {arrived : List Arrival} {log : List DebateInput}
    (earlier : Played admits start arrived log player) (ops : List Op)
    (inSession : ∀ op ∈ ops, op.inSession = true) (admitted : Admits admits player ops) :
    Played admits start (arrived ++ arrivals ops)
      (log ++ (run player ops).2.filter ofPlayback) (run player ops).1 := by
  induction ops generalizing arrived log player with
  | nil => simpa [PlayerRuns.run, arrivals] using earlier
  | cons op rest ih =>
      have first := earlier.apply op (inSession op List.mem_cons_self) admitted.1
      have later := ih first (fun other member => inSession other (List.mem_cons_of_mem op member))
        admitted.2
      have split : arrivals (op :: rest) = op.arrival.toList ++ arrivals rest := by
        cases taken : op.arrival <;> simp [arrivals, taken]
      rw [split, PlayerRuns.run]
      simpa [List.append_assoc] using later

end Council.PlayerRuns

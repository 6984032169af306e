import Council.Playbill

/-!
`skipToLive` against paced playback. Both follow the same moves except that a
drain reveals the rest of a turn in one chunk. Moves are determined by the
player, so it is enough that one paced reveal can be absorbed by a later drain;
the reducer cannot tell the two logs apart.
-/

namespace Council.SkipToLive
open Protocol DebateReducer DebatePlayer PlayerRuns CappedAppend

/-- The player while `skipToLive` drains it. -/
def hurried (player : Player) : Player := { player with draining := true }

/-- Two logs the reducer folds to the same state. -/
def SameFold (left right : List DebateInput) : Prop :=
  ∀ state, reduceAll state left = reduceAll state right

theorem SameFold.append {left right : List DebateInput} (first : List DebateInput)
    (same : SameFold left right) : SameFold (first ++ left) (first ++ right) := by
  intro state
  rw [reduce_all_append, reduce_all_append]
  exact same _

theorem ready_of_move {before after : Player} {dispatched : List DebateInput}
    (move : Move before dispatched after) : hasReadyWork before = true := by
  cases move with
  | handOff round index idle next missing terminal =>
      exact ready_of_terminal before (by simp [next]) terminal
  | finish idle next silent ended =>
      apply ready_of_terminal before (by simp [next])
      simpa [Recording.terminalKnown, silent] using ended
  | announce verdict idle next known empty =>
      exact ready_of_terminal before (by simp [next]) (by simp [Recording.terminalKnown, known])
  | openPanelist round index idle next buffered =>
      apply ready_of_buffered before (by simp [next])
      simpa [next, Recording.hasBufferedTurn] using buffered
  | openModerator idle next known spoken =>
      exact ready_of_terminal before (by simp [next]) (by simp [Recording.terminalKnown, known])
  | reveal turn speaking more => simp [hasReadyWork, speaking]
  | defer turn index speaking told seated => simp [hasReadyWork, speaking]
  | conclude turn speaking told unseated => simp [hasReadyWork, speaking]

def nextMove (player : Player) : Option (List DebateInput × Player) :=
  match player.active with
  | some turn =>
      if turn.text.length ≤ turn.pos then
        match turn.index with
        | some index => some ([], deferTurn player turn index)
        | none =>
            some ([.event (.verdict (player.verdict.getD []))],
              { player with active := none, cursor := .done })
      else
        some ([.event (.token turn.persona turn.round
            (slice turn.text turn.pos (chunkEnd player turn)))],
          { player with active := some { turn with pos := chunkEnd player turn } })
  | none =>
      match player.cursor with
      | .panelist round index =>
          if round ∈ player.roundComplete then
            some (pendingInputs player,
              { flushPending player with active := some (player.panelistTurn round index) })
          else some ([], { player with cursor := .moderator })
      | .moderator =>
          match player.verdict with
          | none =>
              some (pendingInputs player ++ player.finalizeTerminal,
                { flushPending player with cursor := .done })
          | some verdict =>
              if player.moderatorTurn.text = [] then
                some (pendingInputs player ++ [.event (.verdict verdict)],
                  { flushPending player with cursor := .done })
              else
                some (pendingInputs player,
                  { flushPending player with active := some player.moderatorTurn })
      | .done => none

theorem move_next {before after : Player} {dispatched : List DebateInput}
    (move : Move before dispatched after) : nextMove before = some (dispatched, after) := by
  cases move with
  | handOff round index idle next missing terminal => simp [nextMove, idle, next, missing]
  | finish idle next silent ended => simp [nextMove, idle, next, silent]
  | announce verdict idle next known empty => simp [nextMove, idle, next, known, empty]
  | openPanelist round index idle next buffered => simp [nextMove, idle, next, buffered]
  | openModerator idle next known spoken =>
      obtain ⟨verdict, known⟩ := Option.isSome_iff_exists.mp known
      simp [nextMove, idle, next, known, spoken]
  | reveal turn speaking more => simp [nextMove, speaking, Nat.not_le_of_lt more]
  | defer turn index speaking told seated => simp [nextMove, speaking, told, seated]
  | conclude turn speaking told unseated => simp [nextMove, speaking, told, unseated]

theorem move_unique {before left right : Player} {first second : List DebateInput}
    (move : Move before first left) (other : Move before second right) :
    first = second ∧ left = right := by
  have same := (move_next move).symm.trans (move_next other)
  simpa using same

theorem moves_unique {before left right : Player} {first second : List DebateInput}
    (moves : Moves before first left) (other : Moves before second right)
    (rested : hasReadyWork left = false) (idle : hasReadyWork right = false) :
    first = second ∧ left = right := by
  induction moves generalizing second with
  | refl player =>
      cases other with
      | refl => exact ⟨rfl, rfl⟩
      | next move tail =>
          rw [ready_of_move move] at rested
          cases rested
  | next move tail ih =>
      cases other with
      | refl =>
          rw [ready_of_move move] at idle
          cases idle
      | next move' tail' =>
          obtain ⟨rfl, rfl⟩ := move_unique move move'
          obtain ⟨rfl, rfl⟩ := ih tail' rested
          exact ⟨rfl, rfl⟩

theorem tokens_merge (persona : PersonaId) (round : Nat) (first second : Text)
    (rest : List DebateInput) :
    SameFold (.event (.token persona round (first ++ second)) :: rest)
      (.event (.token persona round first) :: .event (.token persona round second) :: rest) := by
  intro state
  have merged : reduceEvent (reduceEvent state (.token persona round first))
      (.token persona round second) =
        reduceEvent state (.token persona round (first ++ second)) := by
    simp only [reduceEvent, append_delta_append, with_active_again]
  simp only [reduce_all_cons, debateReducer, merged]

theorem slice_split (text : Text) (start middle stop : Nat) (ahead : start ≤ middle)
    (later : middle ≤ stop) :
    slice text start stop = slice text start middle ++ slice text middle stop := by
  have whole := Playbill.slice_extends text start stop (ahead.trans later)
  have first := Playbill.slice_extends text start middle ahead
  have second := Playbill.slice_extends text middle stop later
  rw [← first, List.append_assoc, ← whole] at second
  exact (List.append_cancel_left second).symm

/-- A turn that is being revealed, with its position moved. -/
def revealed (player : Player) (turn : ActiveTurn) (pos : Nat) : Player :=
  { player with active := some { turn with pos := pos } }

theorem hurried_reveal (player : Player) (turn : ActiveTurn) (pos : Nat)
    (more : pos < turn.text.length) :
    Move (hurried (revealed player turn pos))
      [.event (.token turn.persona turn.round (slice turn.text pos turn.text.length))]
      (hurried (revealed player turn turn.text.length)) := by
  have move : Move (hurried (revealed player turn pos)) _ _ :=
    .reveal { turn with pos := pos } rfl more
  have whole : chunkEnd (hurried (revealed player turn pos)) { turn with pos := pos } =
      turn.text.length := by
    simp [chunkEnd, hurried]
  rwa [whole] at move

theorem quicken {before after final : Player} {dispatched log : List DebateInput}
    (move : Move before dispatched after) (path : Moves (hurried after) log final)
    (rested : hasReadyWork final = false) :
    ∃ shorter, Moves (hurried before) shorter final ∧
      SameFold shorter (dispatched ++ log) := by
  have direct : Move (hurried before) dispatched (hurried after) →
      ∃ shorter, Moves (hurried before) shorter final ∧
        SameFold shorter (dispatched ++ log) :=
    fun same => ⟨dispatched ++ log, .next same path, fun _ => rfl⟩
  cases move with
  | handOff round index idle next missing terminal =>
      exact direct (.handOff round index idle next missing terminal)
  | finish idle next silent ended => exact direct (.finish idle next silent ended)
  | announce verdict idle next known empty =>
      exact direct (.announce verdict idle next known empty)
  | openPanelist round index idle next buffered =>
      exact direct (.openPanelist round index idle next buffered)
  | openModerator idle next known spoken =>
      exact direct (.openModerator idle next known spoken)
  | defer turn index speaking told seated => exact direct (.defer turn index speaking told seated)
  | conclude turn speaking told unseated =>
      exact direct (.conclude turn speaking told unseated)
  -- the drain reveals the whole text at once
  | reveal turn speaking more =>
      have same : hurried before = hurried (revealed before turn turn.pos) := by
        simp only [hurried, revealed, ← speaking]
      have ahead := chunk_end_gt before turn more
      have inside := chunk_end_le before turn more.le
      rcases Nat.eq_or_lt_of_le inside with all | some_
      · -- the paced chunk was the last one
        rw [all] at path ⊢
        have move := hurried_reveal before turn turn.pos more
        rw [same]
        exact ⟨_, .next move path, fun _ => rfl⟩
      · have rest := hurried_reveal before turn (chunkEnd before turn) some_
        cases path with
        | refl => exact absurd (rested.symm.trans (ready_of_move rest)) Bool.false_ne_true
        | next move tail =>
            obtain ⟨rfl, rfl⟩ := move_unique rest move
            rw [same]
            refine ⟨_, .next (hurried_reveal before turn turn.pos more) tail, ?_⟩
            rw [slice_split turn.text turn.pos (chunkEnd before turn) turn.text.length
              ahead.le inside]
            exact tokens_merge turn.persona turn.round _ _ _

theorem hurried_path {before final : Player} {log : List DebateInput}
    (moves : Moves before log final) (rested : hasReadyWork final = false) :
    ∃ shorter, Moves (hurried before) shorter (hurried final) ∧ SameFold shorter log := by
  induction moves with
  | refl player => exact ⟨[], .refl _, fun _ => rfl⟩
  | next move tail ih =>
      obtain ⟨later, path, same⟩ := ih rested
      obtain ⟨shorter, whole, equal⟩ := quicken move path rested
      exact ⟨shorter, whole, fun state => (equal state).trans (same.append _ state)⟩

theorem step_moves (player : Player) :
    Moves player (step player).dispatched (step player).player := by
  have steps := step_steps player
  generalize step player = answer at steps
  cases steps with
  | parked => exact .refl player
  | finished => exact .refl player
  | ended moves => exact moves.moves
  | went ms moves => exact moves.moves

theorem drain_moves (player : Player) : Moves player (drain player).2 (drain player).1 := by
  induction player using drain.induct with
  | case1 player taken =>
      rw [drain, taken]
      exact step_moves player
  | case2 player taken =>
      rw [drain, taken]
      exact step_moves player
  | case3 player ms taken ih =>
      rw [drain, taken]
      exact (step_moves player).trans ih

theorem moves_keep {before after : Player} {log : List DebateInput}
    (moves : Moves before log after) :
    after.timer = before.timer ∧ after.draining = before.draining := by
  induction moves with
  | refl => exact ⟨rfl, rfl⟩
  | next move tail ih =>
      have kept := ih
      cases move <;> exact kept

/-- Text left, doubled to leave room for a timeout that fires in vain. -/
def idleRank (player : Player) : Nat :=
  2 * textLeft player + player.timer.isSome.toNat

def disarmed (player : Player) : Player := { player with timer := none }

/-- A timeout that fires takes one step and arms the next one, or finds no
work and is the last. -/
theorem fire_cases (player : Player) (armed : player.timer.isSome = true) :
    (hasReadyWork (fire player).1 = false ∧ (fire player).1.timer = none ∧
        Moves (disarmed player) (fire player).2 (fire player).1) ∨
      ∃ ms after, Progress (disarmed player) (fire player).2 after ∧
        (fire player).1 = { after with timer := some ms } := by
  have fired : fire player = pump (disarmed player) := if_pos armed
  have steps := step_steps (disarmed player)
  rw [fired, pump, if_neg (by simp [disarmed])]
  generalize step (disarmed player) = answer at steps
  cases steps with
  | parked idle blocked unfinished => exact .inl ⟨blocked, rfl, .refl _⟩
  | finished idle halted => exact .inl ⟨by simp [hasReadyWork, idle, halted], rfl, .refl _⟩
  | ended moves idle halted ready =>
      exact .inl ⟨by simp [hasReadyWork, idle, halted], (moves_keep moves.moves).1, moves.moves⟩
  | went ms moves ready => exact .inr ⟨ms, _, moves, rfl⟩

theorem fire_falls (player : Player) (armed : player.timer.isSome = true) :
    stage (fire player).1 < stage player ∨
      (stage (fire player).1 = stage player ∧ idleRank (fire player).1 < idleRank player) := by
  have same : stage (disarmed player) = stage player := rfl
  have text : textLeft (disarmed player) = textLeft player := rfl
  rcases fire_cases player armed with ⟨_, last, moves⟩ | ⟨ms, after, moves, fired⟩
  · rcases moves_below moves with still | lower | ⟨level, fewer⟩
    · right
      refine ⟨by rw [still, same], ?_⟩
      simp only [idleRank, still, text, armed]
      simp [disarmed]
    · exact .inl lower
    · simp only [idleRank, last, armed]
      simp
      omega
  · have kept : stage (fire player).1 = stage after := by rw [fired]; rfl
    have left : textLeft (fire player).1 = textLeft after := by rw [fired]; rfl
    have bit : (fire player).1.timer.isSome.toNat ≤ 1 := Bool.toNat_le _
    rcases progress_below moves with lower | ⟨level, fewer⟩
    · exact .inl (kept ▸ lower)
    · simp only [idleRank, armed, Bool.toNat_true]
      omega

/-- The timeouts fire, with no further call, until none is armed. -/
def playOut (player : Player) : Player × List DebateInput :=
  if _armed : player.timer.isSome = true then
    let fired := fire player
    let rest := playOut fired.1
    (rest.1, fired.2 ++ rest.2)
  else (player, [])
termination_by (stage player, idleRank player)
decreasing_by exact Prod.lex_def.mpr (fire_falls player _armed)

theorem play_out_moves (player : Player) (rested : Rested player) :
    Moves (disarmed player) (playOut player).2 (playOut player).1 ∧
      hasReadyWork (playOut player).1 = false := by
  induction player using playOut.induct with
  | case1 player armed fired ih =>
      rw [playOut, dif_pos armed]
      rcases fire_cases player armed with ⟨blocked, last, moves⟩ | ⟨ms, after, moves, next⟩
      · have stays : playOut (fire player).1 = ((fire player).1, []) := by
          rw [playOut, dif_neg (by simp [last])]
        simp only [stays, List.append_nil]
        exact ⟨moves, blocked⟩
      · have kept := (moves_keep moves.moves).1
        have again : disarmed (fire player).1 = after := by
          rw [next]
          simp only [disarmed] at kept ⊢
          rw [← kept]
        obtain ⟨rest, blocked⟩ := ih (fun unarmed => by
          rw [show fired = fire player from rfl, next] at unarmed
          cases unarmed)
        rw [show fired = fire player from rfl, again] at rest
        exact ⟨moves.moves.trans rest, blocked⟩
  | case2 player unarmed =>
      rw [playOut, dif_neg unarmed]
      have idle : player.timer = none := by simpa using unarmed
      have same : disarmed player = player := by
        simp only [disarmed, ← idle]
      rw [same]
      exact ⟨.refl player, rested idle⟩

theorem pump_undrained (player : Player) (still : player.draining = false) :
    (pump player).1.draining = false := by
  have kept := (moves_keep (step_moves player)).2
  unfold pump
  split
  · exact still
  · generalize step player = answer at kept
    obtain ⟨delay, after, dispatched⟩ := answer
    cases delay with
    | park => exact kept.trans still
    | done => exact kept.trans still
    | after ms => exact kept.trans still

theorem record_draining (player : Player) (event : DebateEvent) :
    (record player event).draining = player.draining := by
  cases event with
  | error event =>
      obtain ⟨failures, recorded⟩ := record_error player event
      rw [recorded]
  | _ => rfl

theorem run_undrained (player : Player) (ops : List Op) (still : player.draining = false) :
    (run player ops).1.draining = false := by
  induction ops generalizing player with
  | nil => exact still
  | cons op rest ih =>
      apply ih _
      cases op with
      | feed event => exact pump_undrained _ ((record_draining player event).trans still)
      | feedStatus status =>
          cases status with
          | connecting => rfl
          | closed => exact pump_undrained _ still
          | idle => exact still
          | opened => exact still
          | error => exact still
      | feedTransport message => exact still
      | setRate multiplier => exact still
      | skipToLive => rfl
      | reset => rfl
      | fire =>
          change (fire player).1.draining = false
          unfold fire
          split
          · exact pump_undrained _ still
          · exact still

theorem unhurried (player : Player) (still : player.draining = false) :
    { hurried player with draining := false } = player := by
  simp only [hurried, ← still]

/-- `skipToLive` leaves the player and the reducer where letting the timeouts
fire would have left them. -/
theorem skip_agrees_with_play (reducedMotion : Bool) (ops : List Op) (state : DebateState) :
    let player := (run (create reducedMotion) ops).1
    (skipToLive player).1.timer = none ∧
      (skipToLive player).1.draining = false ∧
      isAtLive (skipToLive player).1 = true ∧
      (playOut player).1.timer = none ∧
      (skipToLive player).1 = (playOut player).1 ∧
      reduceAll state (skipToLive player).2 = reduceAll state (playOut player).2 := by
  intro player
  have rested : Rested player := run_rests (create reducedMotion) ops fun _ => rfl
  have still : player.draining = false := run_undrained (create reducedMotion) ops rfl
  obtain ⟨paced, blocked⟩ := play_out_moves player rested
  have kept := moves_keep paced
  obtain ⟨shorter, path, same⟩ := hurried_path paced blocked
  have drained := drain_moves (hurried (disarmed player))
  obtain ⟨log, final⟩ := moves_unique path drained blocked (drain_rests _)
  have skipped : skipToLive player =
      ({ hurried (playOut player).1 with draining := false }, shorter) := by
    rw [log, final]
    rfl
  have restored := unhurried (playOut player).1 (kept.2.trans still)
  rw [skipped, restored]
  exact ⟨kept.1, kept.2.trans still, by simp [isAtLive, blocked], kept.1, rfl, same state⟩

end Council.SkipToLive

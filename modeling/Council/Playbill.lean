import Council.PlayerRuns

/-!
What an audience sees of a debate. A script is a list of panelist turns, round
by round in seating order, then the moderator and one ending. The stage
relation ties a player and its dispatched log to the script decided so far;
every playback move keeps it and only ever extends the script.
-/

namespace Council.Playbill
open Protocol DebateReducer DebatePlayer PlayerRuns

/-- One panelist's turn: the chunks it was told in and the failures shown
after it. -/
structure Shown where
  chunks : List Text
  errors : List ErrorEvent
  deriving DecidableEq

structure Finale where
  round : Nat
  chunks : List Text
  ending : DebateInput
  deriving DecidableEq

structure Script where
  turns : List Shown
  finale : Option Finale
  deriving DecidableEq

/-- Turns are counted from 0 in playing order. -/
def seatAt (place : Nat) : Seat := ⟨place % 4, Nat.mod_lt _ (by decide)⟩
def roundAt (place : Nat) : Nat := place / 4 + 1

def tokens (persona : PersonaId) (round : Nat) (chunks : List Text) : List DebateInput :=
  chunks.map fun delta => .event (.token persona round delta)

def afterTurn (place : Nat) (errors : List ErrorEvent) : List DebateInput :=
  [.event (.personaDone (panelist (seatAt place)) (roundAt place))] ++
    (if (seatAt place).val = 3 then [.event (.roundComplete (roundAt place))] else []) ++
      errors.map fun error => .event (.error error)

def renderTurn (place : Nat) (shown : Shown) : List DebateInput :=
  tokens (panelist (seatAt place)) (roundAt place) shown.chunks ++
    afterTurn place shown.errors

def renderTurns : Nat → List Shown → List DebateInput
  | _, [] => []
  | place, shown :: rest => renderTurn place shown ++ renderTurns (place + 1) rest

def Finale.render (finale : Finale) : List DebateInput :=
  tokens MODERATOR_ID finale.round finale.chunks ++ [finale.ending]

def Script.render (script : Script) : List DebateInput :=
  renderTurns 0 script.turns ++ (script.finale.map Finale.render).getD []

@[simp]
theorem tokens_append (persona : PersonaId) (round : Nat) (first second : List Text) :
    tokens persona round (first ++ second) =
      tokens persona round first ++ tokens persona round second :=
  List.map_append

theorem render_turns_append (place : Nat) (first second : List Shown) :
    renderTurns place (first ++ second) =
      renderTurns place first ++ renderTurns (place + first.length) second := by
  induction first generalizing place with
  | nil => rfl
  | cons shown rest ih =>
      simp only [List.cons_append, renderTurns, ih, List.append_assoc, List.length_cons]
      congr 3
      omega

theorem render_turns_snoc (turns : List Shown) (shown : Shown) :
    renderTurns 0 (turns ++ [shown]) =
      renderTurns 0 turns ++ renderTurn turns.length shown := by
  rw [render_turns_append]
  simp [renderTurns]

theorem next_cursor_at (place : Nat) :
    nextCursor (roundAt place) (seatAt place) =
      .panelist (roundAt (place + 1)) (seatAt (place + 1)) := by
  have seat : (seatAt place).val = place % 4 := rfl
  have seatNext : (seatAt (place + 1)).val = (place + 1) % 4 := rfl
  unfold nextCursor
  by_cases below : (seatAt place).val + 1 < 4
  · have sameRound : roundAt place = roundAt (place + 1) := by
      unfold roundAt
      omega
    have sameSeat : (⟨(seatAt place).val + 1, below⟩ : Seat) = seatAt (place + 1) := by
      apply Fin.ext
      change (seatAt place).val + 1 = _
      omega
    rw [dif_pos below, sameSeat, sameRound]
  · have sameRound : roundAt place + 1 = roundAt (place + 1) := by
      unfold roundAt
      omega
    have sameSeat : (0 : Seat) = seatAt (place + 1) := by
      apply Fin.ext
      rw [seatNext]
      change 0 = _
      omega
    rw [dif_neg below, sameSeat, sameRound]

/-- Nothing is owed from an earlier turn. -/
structure Settled (player : Player) : Prop where
  done : player.pendingDone = none
  round : player.pendingRoundComplete = none
  errors : player.pendingErrors = []

/-- Between two panelist turns: the log and the deferred inputs make up the
turns so far, and a round once begun is recorded. -/
structure Interval (player : Player) (log : List DebateInput) (turns : List Shown) : Prop where
  idle : player.active = none
  next : player.cursor = .panelist (roundAt turns.length) (seatAt turns.length)
  begun : (seatAt turns.length).val ≠ 0 → roundAt turns.length ∈ player.roundComplete
  shown : log ++ pendingInputs player = renderTurns 0 turns

/-- The panelists are done and the moderator has not begun. -/
structure Handed (player : Player) (log : List DebateInput) (turns : List Shown) : Prop where
  idle : player.active = none
  next : player.cursor = .moderator
  whole : turns.length % 4 = 0
  shown : log ++ pendingInputs player = renderTurns 0 turns

/-- A panelist's turn is being told. -/
structure Speaking (player : Player) (log : List DebateInput) (turns : List Shown)
    (turn : ActiveTurn) (chunks : List Text) : Prop where
  active : player.active = some turn
  next : player.cursor = .panelist (roundAt turns.length) (seatAt turns.length)
  seated : turn.index = some (seatAt turns.length)
  who : turn.persona = panelist (seatAt turns.length)
  inRound : turn.round = roundAt turns.length
  buffered : roundAt turns.length ∈ player.roundComplete
  settled : Settled player
  told : chunks.flatten = turn.text.take turn.pos
  inside : turn.pos ≤ turn.text.length
  shown : log = renderTurns 0 turns ++
    tokens (panelist (seatAt turns.length)) (roundAt turns.length) chunks

/-- The moderator's synthesis is being told. -/
structure Closing (player : Player) (log : List DebateInput) (turns : List Shown)
    (turn : ActiveTurn) (chunks : List Text) : Prop where
  active : player.active = some turn
  next : player.cursor = .moderator
  unseated : turn.index = none
  who : turn.persona = MODERATOR_ID
  whole : turns.length % 4 = 0
  known : player.verdict.isSome = true
  settled : Settled player
  told : chunks.flatten = turn.text.take turn.pos
  inside : turn.pos ≤ turn.text.length
  shown : log = renderTurns 0 turns ++ tokens MODERATOR_ID turn.round chunks

/-- The ending has been dispatched. -/
structure Over (player : Player) (log : List DebateInput) (turns : List Shown)
    (finale : Finale) : Prop where
  idle : player.active = none
  next : player.cursor = .done
  whole : turns.length % 4 = 0
  settled : Settled player
  shown : log = renderTurns 0 turns ++ finale.render

/-- Where playback stands, with the script decided so far. -/
inductive Stage (player : Player) (log : List DebateInput) : Script → Prop where
  | interval (turns : List Shown) (now : Interval player log turns) :
      Stage player log ⟨turns, none⟩
  | handed (turns : List Shown) (now : Handed player log turns) :
      Stage player log ⟨turns, none⟩
  | speaking (turns : List Shown) (turn : ActiveTurn) (chunks : List Text)
      (now : Speaking player log turns turn chunks) : Stage player log ⟨turns, none⟩
  | closing (turns : List Shown) (turn : ActiveTurn) (chunks : List Text)
      (now : Closing player log turns turn chunks) : Stage player log ⟨turns, none⟩
  | concluded (turns : List Shown) (finale : Finale) (now : Over player log turns finale) :
      Stage player log ⟨turns, some finale⟩

/-- How a finale comes about: the stream was cut without a verdict, the
verdict came without any synthesis text, or the synthesis has been told. -/
inductive Ends (player : Player) (finale : Finale) : Prop where
  | cut (silent : player.verdict = none) (untold : finale.chunks = [])
      (ending : player.finalizeTerminal = [finale.ending])
  | plain (verdict : Text) (known : player.verdict = some verdict)
      (empty : player.moderatorTurn.text = []) (untold : finale.chunks = [])
      (ending : finale.ending = .event (.verdict verdict))
  | told (turn : ActiveTurn) (verdict : Text) (active : player.active = some turn)
      (unseated : turn.index = none) (known : player.verdict = some verdict)
      (round : finale.round = turn.round) (whole : finale.chunks.flatten = turn.text)
      (ending : finale.ending = .event (.verdict verdict))

/-- No panelist's turn has been told to its end. -/
def Ongoing (player : Player) : Prop :=
  ∀ turn index, player.active = some turn → turn.index = some index →
    turn.pos < turn.text.length

theorem ongoing_of_idle {player : Player} (idle : player.active = none) : Ongoing player := by
  intro turn index active
  cases idle.symm.trans active

/-- What a move can add to the script, and where it takes it from. -/
inductive Extends (player : Player) : Script → Script → Prop where
  | same (script : Script) (ongoing : Ongoing player) : Extends player script script
  | turn (turns : List Shown) (turn : ActiveTurn) (chunks : List Text)
      (active : player.active = some turn)
      (seated : turn.index = some (seatAt turns.length))
      (who : turn.persona = panelist (seatAt turns.length))
      (inRound : turn.round = roundAt turns.length)
      (told : turn.text.length ≤ turn.pos) (whole : chunks.flatten = turn.text) :
      Extends player ⟨turns, none⟩
        ⟨turns ++ [⟨chunks, (player.personaErrors turn.persona).toList⟩], none⟩
  | finale (turns : List Shown) (finale : Finale) (ends : Ends player finale)
      (ongoing : Ongoing player) :
      Extends player ⟨turns, none⟩ ⟨turns, some finale⟩

theorem slice_extends (text : Text) (pos stop : Nat) (ahead : pos ≤ stop) :
    text.take pos ++ slice text pos stop = text.take stop := by
  unfold slice
  have early : text.take pos = (text.take stop).take pos := by
    rw [List.take_take, Nat.min_eq_left ahead]
  rw [early, List.take_append_drop]

section Inversion
variable {player : Player} {log : List DebateInput} {script : Script}

theorem Stage.at_panelist (stage : Stage player log script) (idle : player.active = none)
    (round : Nat) (index : Seat) (next : player.cursor = .panelist round index) :
    ∃ turns, script = ⟨turns, none⟩ ∧ Interval player log turns ∧
      round = roundAt turns.length ∧ index = seatAt turns.length := by
  cases stage with
  | interval turns now =>
      have same := now.next.symm.trans next
      injection same with sameRound sameSeat
      exact ⟨turns, rfl, now, sameRound.symm, sameSeat.symm⟩
  | handed turns now => cases now.next.symm.trans next
  | speaking turns turn chunks now => cases now.active.symm.trans idle
  | closing turns turn chunks now => cases now.active.symm.trans idle
  | concluded turns finale now => cases now.next.symm.trans next

theorem Stage.at_moderator (stage : Stage player log script) (idle : player.active = none)
    (next : player.cursor = .moderator) :
    ∃ turns, script = ⟨turns, none⟩ ∧ Handed player log turns := by
  cases stage with
  | interval turns now => cases now.next.symm.trans next
  | handed turns now => exact ⟨turns, rfl, now⟩
  | speaking turns turn chunks now => cases now.active.symm.trans idle
  | closing turns turn chunks now => cases now.active.symm.trans idle
  | concluded turns finale now => cases now.next.symm.trans next

theorem Stage.at_turn (stage : Stage player log script) (turn : ActiveTurn)
    (active : player.active = some turn) :
    ∃ turns chunks, script = ⟨turns, none⟩ ∧
      (Speaking player log turns turn chunks ∨ Closing player log turns turn chunks) := by
  cases stage with
  | interval turns now => cases now.idle.symm.trans active
  | handed turns now => cases now.idle.symm.trans active
  | speaking turns current chunks now =>
      cases now.active.symm.trans active
      exact ⟨turns, chunks, rfl, .inl now⟩
  | closing turns current chunks now =>
      cases now.active.symm.trans active
      exact ⟨turns, chunks, rfl, .inr now⟩
  | concluded turns finale now => cases now.idle.symm.trans active

end Inversion

section Moves
variable {player : Player} {log : List DebateInput} {turns : List Shown}
  {turn : ActiveTurn} {chunks : List Text}

theorem Interval.hand_off (now : Interval player log turns)
    (missing : roundAt turns.length ∉ player.roundComplete) :
    Handed { player with cursor := .moderator } log turns where
  idle := now.idle
  next := rfl
  whole := by
    by_contra later
    exact missing (now.begun later)
  shown := now.shown

theorem Handed.finish (now : Handed player log turns) (ending : DebateInput) :
    Over { flushPending player with cursor := .done }
      (log ++ (pendingInputs player ++ [ending])) turns ⟨0, [], ending⟩ where
  idle := now.idle
  next := rfl
  whole := now.whole
  settled := ⟨rfl, rfl, rfl⟩
  shown := by
    rw [← List.append_assoc, now.shown]
    rfl

theorem Interval.open_turn (now : Interval player log turns)
    (buffered : roundAt turns.length ∈ player.roundComplete) :
    Speaking
      { flushPending player with
        active := some (player.panelistTurn (roundAt turns.length) (seatAt turns.length)) }
      (log ++ pendingInputs player) turns
      (player.panelistTurn (roundAt turns.length) (seatAt turns.length)) [] where
  active := rfl
  next := now.next
  seated := rfl
  who := rfl
  inRound := rfl
  buffered := buffered
  settled := ⟨rfl, rfl, rfl⟩
  told := by simp [Recording.panelistTurn]
  inside := Nat.zero_le _
  shown := by
    rw [now.shown]
    exact (List.append_nil _).symm

theorem Handed.open_turn (now : Handed player log turns)
    (known : player.verdict.isSome = true) :
    Closing { flushPending player with active := some player.moderatorTurn }
      (log ++ pendingInputs player) turns player.moderatorTurn [] where
  active := rfl
  next := now.next
  unseated := rfl
  who := rfl
  whole := now.whole
  known := known
  settled := ⟨rfl, rfl, rfl⟩
  told := by simp [Recording.moderatorTurn]
  inside := Nat.zero_le _
  shown := by
    rw [now.shown]
    exact (List.append_nil _).symm

theorem told_extends (player : Player) (turn : ActiveTurn) (chunks : List Text)
    (told : chunks.flatten = turn.text.take turn.pos) (more : turn.pos < turn.text.length) :
    (chunks ++ [slice turn.text turn.pos (chunkEnd player turn)]).flatten =
      turn.text.take (chunkEnd player turn) := by
  have ahead := Nat.le_of_lt (chunk_end_gt player turn more)
  rw [List.flatten_append, told]
  simpa using slice_extends turn.text turn.pos _ ahead

theorem Speaking.reveal (now : Speaking player log turns turn chunks)
    (more : turn.pos < turn.text.length) :
    Speaking { player with active := some { turn with pos := chunkEnd player turn } }
      (log ++ [.event (.token turn.persona turn.round
        (slice turn.text turn.pos (chunkEnd player turn)))])
      turns { turn with pos := chunkEnd player turn }
      (chunks ++ [slice turn.text turn.pos (chunkEnd player turn)]) where
  active := rfl
  next := now.next
  seated := now.seated
  who := now.who
  inRound := now.inRound
  buffered := now.buffered
  settled := ⟨now.settled.done, now.settled.round, now.settled.errors⟩
  told := told_extends player turn chunks now.told more
  inside := chunk_end_le player turn now.inside
  shown := by
    rw [now.shown, tokens_append, List.append_assoc, now.who, now.inRound]
    rfl

theorem Closing.reveal (now : Closing player log turns turn chunks)
    (more : turn.pos < turn.text.length) :
    Closing { player with active := some { turn with pos := chunkEnd player turn } }
      (log ++ [.event (.token turn.persona turn.round
        (slice turn.text turn.pos (chunkEnd player turn)))])
      turns { turn with pos := chunkEnd player turn }
      (chunks ++ [slice turn.text turn.pos (chunkEnd player turn)]) where
  active := rfl
  next := now.next
  unseated := now.unseated
  who := now.who
  whole := now.whole
  known := now.known
  settled := ⟨now.settled.done, now.settled.round, now.settled.errors⟩
  told := told_extends player turn chunks now.told more
  inside := chunk_end_le player turn now.inside
  shown := by
    rw [now.shown, tokens_append, List.append_assoc, now.who]
    rfl

theorem Speaking.defer_pending (now : Speaking player log turns turn chunks) :
    pendingInputs (deferTurn player turn (seatAt turns.length)) =
      afterTurn turns.length (player.personaErrors turn.persona).toList := by
  unfold pendingInputs deferTurn afterTurn
  simp only [now.settled.errors, now.settled.round, now.who, now.inRound,
    List.nil_append, Option.map_some, Option.toList_some]
  congr 2
  split <;> rfl

theorem Speaking.defer (now : Speaking player log turns turn chunks) :
    Interval (deferTurn player turn (seatAt turns.length)) log
      (turns ++ [⟨chunks, (player.personaErrors turn.persona).toList⟩]) where
  idle := rfl
  next := by
    rw [List.length_append]
    change nextCursor turn.round (seatAt turns.length) = _
    rw [now.inRound, next_cursor_at]
    rfl
  begun := by
    intro later
    have sameRound : roundAt (turns.length + 1) = roundAt turns.length := by
      rw [List.length_append] at later
      simp only [seatAt, roundAt, List.length_singleton] at later ⊢
      omega
    rw [List.length_append, List.length_singleton, sameRound]
    exact now.buffered
  shown := by
    rw [now.defer_pending, render_turns_snoc, now.shown, List.append_assoc]
    rfl

theorem Closing.conclude (now : Closing player log turns turn chunks) (verdict : Text) :
    Over { player with active := none, cursor := .done }
      (log ++ [.event (.verdict verdict)]) turns
      ⟨turn.round, chunks, .event (.verdict verdict)⟩ where
  idle := rfl
  next := rfl
  whole := now.whole
  settled := ⟨now.settled.done, now.settled.round, now.settled.errors⟩
  shown := by
    rw [now.shown, List.append_assoc]
    rfl

theorem finalize_singleton (recording : Recording)
    (ended : (recording.sessionError.isSome || recording.closed) = true) :
    ∃ ending, recording.finalizeTerminal = [ending] := by
  unfold Recording.finalizeTerminal
  cases failed : recording.sessionError with
  | some error => exact ⟨_, rfl⟩
  | none =>
      rw [failed] at ended
      exact ⟨_, if_pos ended⟩

theorem stage_move {before after : Player} {dispatched : List DebateInput}
    {script : Script} (stage : Stage before log script)
    (move : Move before dispatched after) :
    ∃ next, Stage after (log ++ dispatched) next ∧ Extends before script next := by
  cases move with
  | handOff round index idle next missing terminal =>
      obtain ⟨turns, rfl, now, rfl, rfl⟩ := stage.at_panelist idle round index next
      rw [List.append_nil]
      exact ⟨_, .handed turns (now.hand_off missing),
        .same _ (ongoing_of_idle idle)⟩
  | finish idle next silent ended =>
      obtain ⟨turns, rfl, now⟩ := stage.at_moderator idle next
      obtain ⟨ending, last⟩ := finalize_singleton before.toRecording ended
      rw [last]
      exact ⟨_, .concluded turns _ (now.finish ending),
        .finale turns _ (.cut silent rfl last) (ongoing_of_idle idle)⟩
  | announce verdict idle next known empty =>
      obtain ⟨turns, rfl, now⟩ := stage.at_moderator idle next
      exact ⟨_, .concluded turns _ (now.finish _),
        .finale turns _ (.plain verdict known empty rfl rfl) (ongoing_of_idle idle)⟩
  | openPanelist round index idle next buffered =>
      obtain ⟨turns, rfl, now, rfl, rfl⟩ := stage.at_panelist idle round index next
      exact ⟨_, .speaking turns _ _ (now.open_turn buffered),
        .same _ (ongoing_of_idle idle)⟩
  | openModerator idle next known spoken =>
      obtain ⟨turns, rfl, now⟩ := stage.at_moderator idle next
      exact ⟨_, .closing turns _ _ (now.open_turn known),
        .same _ (ongoing_of_idle idle)⟩
  -- the turn is told further, and no turn is added
  | reveal turn speaking more =>
      have ongoing : Ongoing before := by
        intro current index active _
        cases speaking.symm.trans active
        exact more
      obtain ⟨turns, chunks, rfl, now | now⟩ := stage.at_turn turn speaking
      · exact ⟨_, .speaking turns _ _ (now.reveal more), .same _ ongoing⟩
      · exact ⟨_, .closing turns _ _ (now.reveal more), .same _ ongoing⟩
  -- the whole text was told, so the turn joins the script
  | defer turn index speaking told seated =>
      obtain ⟨turns, chunks, rfl, now | now⟩ := stage.at_turn turn speaking
      · cases now.seated.symm.trans seated
        have whole : chunks.flatten = turn.text := by
          rw [now.told, List.take_of_length_le told]
        rw [List.append_nil]
        exact ⟨_, .interval _ now.defer,
          .turn turns turn chunks speaking now.seated now.who now.inRound told whole⟩
      · cases now.unseated.symm.trans seated
  | conclude turn speaking told unseated =>
      obtain ⟨turns, chunks, rfl, now | now⟩ := stage.at_turn turn speaking
      · cases now.seated.symm.trans unseated
      · obtain ⟨verdict, known⟩ := Option.isSome_iff_exists.mp now.known
        have whole : chunks.flatten = turn.text := by
          rw [now.told, List.take_of_length_le told]
        have ongoing : Ongoing before := by
          intro current index active seated
          cases speaking.symm.trans active
          cases unseated.symm.trans seated
        rw [known]
        exact ⟨_, .concluded turns _ (now.conclude verdict),
          .finale turns _ (.told turn verdict speaking unseated known rfl whole rfl) ongoing⟩

end Moves

/-- Recording and changes of pace leave the schedule alone and only add to
what is recorded. -/
structure SameSchedule (before after : Player) : Prop where
  active : after.active = before.active
  cursor : after.cursor = before.cursor
  done : after.pendingDone = before.pendingDone
  round : after.pendingRoundComplete = before.pendingRoundComplete
  errors : after.pendingErrors = before.pendingErrors
  rounds : before.roundComplete ⊆ after.roundComplete
  verdict : before.verdict.isSome = true → after.verdict.isSome = true

theorem receive_same_schedule (player : Player) (arrival : Arrival) :
    SameSchedule player (receive player arrival) := by
  cases arrival with
  | close => exact ⟨rfl, rfl, rfl, rfl, rfl, fun _ => id, id⟩
  | event event =>
      cases event with
      | token => exact ⟨rfl, rfl, rfl, rfl, rfl, fun _ => id, id⟩
      | personaDone => exact ⟨rfl, rfl, rfl, rfl, rfl, fun _ => id, id⟩
      | roundComplete round =>
          exact ⟨rfl, rfl, rfl, rfl, rfl, Finset.subset_insert _ _, id⟩
      | verdict => exact ⟨rfl, rfl, rfl, rfl, rfl, fun _ => id, fun _ => rfl⟩
      | error event =>
          simp only [receive, record]
          split
          · exact ⟨rfl, rfl, rfl, rfl, rfl, fun _ => id, id⟩
          · split <;> exact ⟨rfl, rfl, rfl, rfl, rfl, fun _ => id, id⟩

section Frames
variable {before after : Player} {log : List DebateInput}

theorem SameSchedule.pending (same : SameSchedule before after) :
    pendingInputs after = pendingInputs before := by
  unfold pendingInputs
  rw [same.done, same.round, same.errors]

theorem SameSchedule.settled (same : SameSchedule before after)
    (settled : Settled before) : Settled after where
  done := same.done.trans settled.done
  round := same.round.trans settled.round
  errors := same.errors.trans settled.errors

theorem stage_frame {script : Script} (stage : Stage before log script)
    (same : SameSchedule before after) : Stage after log script := by
  cases stage with
  | interval turns now =>
      refine .interval turns ⟨same.active.trans now.idle, same.cursor.trans now.next, ?_, ?_⟩
      · exact fun later => same.rounds (now.begun later)
      · rw [same.pending, now.shown]
  | handed turns now =>
      refine .handed turns
        ⟨same.active.trans now.idle, same.cursor.trans now.next, now.whole, ?_⟩
      rw [same.pending, now.shown]
  | speaking turns turn chunks now =>
      exact .speaking turns turn chunks
        { now with
          active := same.active.trans now.active
          next := same.cursor.trans now.next
          buffered := same.rounds now.buffered
          settled := same.settled now.settled }
  | closing turns turn chunks now =>
      exact .closing turns turn chunks
        { now with
          active := same.active.trans now.active
          next := same.cursor.trans now.next
          known := same.verdict now.known
          settled := same.settled now.settled }
  | concluded turns finale now =>
      exact .concluded turns finale
        { now with
          idle := same.active.trans now.idle
          next := same.cursor.trans now.next
          settled := same.settled now.settled }

end Frames

theorem reset_stage (player : Player) : Stage (reset player) [] ⟨[], none⟩ :=
  .interval [] ⟨rfl, rfl, fun later => absurd rfl later, rfl⟩

/-- What can be said of a session: of what has arrived, the player, and the
script so far. -/
abbrev SessionProp := List Arrival → Player → Script → Prop

/-- `Holds` at the start of every session and kept by arrivals, changes of pace
and moves, as long as `Given` holds as well. -/
structure Invariant (admits : Player → Arrival → Prop) (Given Holds : SessionProp) : Prop where
  start : ∀ first, Holds [] (reset first) ⟨[], none⟩
  arrive : ∀ {arrived log player script} (arrival : Arrival), Stage player log script →
    Given arrived player script → Holds arrived player script → admits player arrival →
      Holds (arrived ++ [arrival]) (receive player arrival) script
  pace : ∀ {arrived player script} (timer : Option JsNumber) (rate : Rate) (draining : Bool),
    Holds arrived player script →
      Holds arrived { player with timer := timer, rate := rate, draining := draining } script
  move : ∀ {arrived log player script dispatched after next}, Stage player log script →
    Given arrived player script → Holds arrived player script →
      Move player dispatched after → Extends player script next → Holds arrived after next

/-- Nothing has to be given. -/
def anySession : SessionProp := fun _ _ _ => True

theorem Invariant.and {admits : Player → Arrival → Prop} {First Second : SessionProp}
    (first : Invariant admits anySession First) (second : Invariant admits First Second) :
    Invariant admits anySession (fun arrived player script =>
      First arrived player script ∧ Second arrived player script) where
  start := fun player => ⟨first.start player, second.start player⟩
  arrive := fun arrival stage _ holds admitted =>
    ⟨first.arrive arrival stage trivial holds.1 admitted,
      second.arrive arrival stage holds.1 holds.2 admitted⟩
  pace := fun timer rate draining holds =>
    ⟨first.pace timer rate draining holds.1, second.pace timer rate draining holds.2⟩
  move := fun stage _ holds move extended =>
    ⟨first.move stage trivial holds.1 move extended,
      second.move stage holds.1 holds.2 move extended⟩

theorem Invariant.weaken {admits : Player → Arrival → Prop} {Given Weaker Holds : SessionProp}
    (invariant : Invariant admits Weaker Holds)
    (weaker : ∀ {arrived player script}, Given arrived player script →
      Weaker arrived player script) : Invariant admits Given Holds where
  start := invariant.start
  arrive := fun arrival stage given => invariant.arrive arrival stage (weaker given)
  pace := invariant.pace
  move := fun stage given => invariant.move stage (weaker given)

theorem Invariant.played {admits : Player → Arrival → Prop} {Holds : SessionProp}
    (invariant : Invariant admits anySession Holds) {first player : Player}
    {arrived : List Arrival} {log : List DebateInput}
    (played : Played admits (reset first) arrived log player) :
    ∃ script, Stage player log script ∧ Holds arrived player script := by
  induction played with
  | start => exact ⟨_, reset_stage first, invariant.start first⟩
  | arrive arrival _ admitted ih =>
      obtain ⟨script, stage, holds⟩ := ih
      exact ⟨script, stage_frame stage (receive_same_schedule _ arrival),
        invariant.arrive arrival stage trivial holds admitted⟩
  | pace timer rate draining _ ih =>
      obtain ⟨script, stage, holds⟩ := ih
      exact ⟨script, stage_frame stage ⟨rfl, rfl, rfl, rfl, rfl, fun _ => id, id⟩,
        invariant.pace timer rate draining holds⟩
  | move _ taken ih =>
      obtain ⟨script, stage, holds⟩ := ih
      obtain ⟨next, later, extended⟩ := stage_move stage taken
      exact ⟨next, later, invariant.move stage trivial holds taken extended⟩

theorem move_recording {before after : Player} {dispatched : List DebateInput}
    (move : Move before dispatched after) : after.toRecording = before.toRecording := by
  cases move <;> rfl

theorem move_failures {before after : Player} {dispatched : List DebateInput}
    (move : Move before dispatched after) (persona : PersonaId) (error : ErrorEvent)
    (filed : after.personaErrors persona = some error) :
    before.personaErrors persona = some error := by
  cases move with
  | defer turn index speaking told seated =>
      change Function.update before.personaErrors turn.persona none persona = some error at filed
      by_cases same : persona = turn.persona
      · rw [same, Function.update_self] at filed
        cases filed
      · rwa [Function.update_of_ne same] at filed
  | _ => exact filed

/-- A failure waits under the panelist it names. -/
def Filed (player : Player) : Prop :=
  ∀ persona error, player.personaErrors persona = some error →
    persona ≠ MODERATOR_ID ∧ error.persona = some persona

theorem filed_reset (player : Player) : Filed (reset player) :=
  fun _ _ filed => nomatch filed

theorem filed_receive {player : Player} (arrival : Arrival) (filed : Filed player) :
    Filed (receive player arrival) := by
  cases arrival with
  | close => exact filed
  | event event =>
      cases event with
      | token => exact filed
      | personaDone => exact filed
      | roundComplete => exact filed
      | verdict => exact filed
      | error event =>
          rcases terminal_or_seated event with terminal | ⟨persona, named, seated⟩
          · rw [receive, record_terminal player event terminal]
            exact filed
          · rw [receive, record_failure player event persona named seated]
            intro other error same
            change Function.update player.personaErrors persona (some event) other =
              some error at same
            by_cases equal : other = persona
            · rw [equal, Function.update_self] at same
              cases same
              exact equal ▸ ⟨seated, named⟩
            · rw [Function.update_of_ne equal] at same
              exact filed other error same

theorem filed_move {before after : Player} {dispatched : List DebateInput}
    (move : Move before dispatched after) (filed : Filed before) : Filed after :=
  fun persona error kept => filed persona error (move_failures move _ _ kept)

end Council.Playbill

import Council.WireStream

/-!
Playback changes the cadence and the order of a debate, never its data. A run
fed an orderly stream to its end shows every completed round and, with a
verdict, the synthesis, exactly as the stream has them.
-/

namespace Council.FaithfulReplay
open Protocol DebateReducer DebatePlayer PlayerRuns Playbill TurnOrder Spoken
  WireStream Interleavings

/-- What the buffers keep of a persona's words in a round of the stream. -/
def kept (whole : List Arrival) (persona : PersonaId) (round : Nat) : Text :=
  (spoken persona round (whole.map asInput)).take MAX_TURN_CHARS

/-- The two ways a stream ends on stage. -/
inductive Closes (final : Nat) (whole : List Arrival) (finale : Finale) : Prop where
  | verdict (verdict : Text) (sent : .event (.verdict verdict) ∈ whole)
      (told : finale.chunks.flatten = kept whole MODERATOR_ID final)
      (round : finale.chunks = [] ∨ finale.round = final)
      (ending : finale.ending = .event (.verdict verdict))
  | cut (unsent : ∀ verdict, .event (.verdict verdict) ∉ whole)
      (untold : finale.chunks = [])
      (ending : ∀ verdict, finale.ending ≠ .event (.verdict verdict))

/-- A player that replays `whole`, of which a part has arrived. -/
structure Replays (final : Nat) (whole : List Arrival) (player : Player)
    (script : Script) : Prop where
  told : ∀ index (inside : index < script.turns.length),
    .event (.roundComplete (roundAt index)) ∈ whole ∧
      script.turns[index].chunks.flatten =
        kept whole (panelist (seatAt index)) (roundAt index)
  telling : ∀ turn seat, player.active = some turn → turn.index = some seat →
    .event (.roundComplete turn.round) ∈ whole ∧
      turn.text = kept whole turn.persona turn.round
  summing : ∀ turn, player.active = some turn → turn.index = none →
    turn.round = final ∧ turn.text = kept whole MODERATOR_ID final
  passed : (∀ round seat, player.cursor ≠ .panelist round seat) →
    .event (.roundComplete (roundAt script.turns.length)) ∉ whole
  finale : ∀ finale, script.finale = some finale → Closes final whole finale

section Recorded
variable {final : Nat} {whole arrived : List Arrival} {player : Player}

theorem terminal_arrived {recording : Recording} (heard : Heard arrived recording)
    (terminal : recording.terminalKnown = true) :
    ∃ ending ∈ arrived, IsLast ending = true := by
  simp only [Recording.terminalKnown, Bool.or_eq_true, Option.isSome_iff_exists] at terminal
  rcases terminal with (⟨verdict, known⟩ | ⟨error, known⟩) | closed
  · exact ⟨_, heard.verdict_arrived known, rfl⟩
  · exact ⟨_, (heard.failure_arrived known).2, (heard.failure_arrived known).1⟩
  · exact ⟨.close, heard.closed.mp closed, rfl⟩

theorem terminal_of_arrived {recording : Recording} (heard : Heard arrived recording)
    (ending : Arrival) (member : ending ∈ arrived) (last : IsLast ending = true) :
    recording.terminalKnown = true := by
  unfold Recording.terminalKnown
  cases ending with
  | close => simp [heard.closed.mpr member]
  | event event =>
      cases event with
      | verdict verdict =>
          cases known : recording.verdict with
          | some _ => rfl
          | none => exact absurd member (heard.verdict_absent known verdict)
      | error error =>
          have terminal : error.terminal = true := last
          cases known : recording.sessionError with
          | some _ => simp
          | none =>
              have unpicked := latest_none (heard.failure.symm.trans known) _ member
              simp [failureOf, terminal] at unpicked
      | _ => cases last

theorem panelist_turn_kept (orderly : Orderly final whole) (begun : arrived <+: whole)
    (heard : Heard arrived player.toRecording) (round : Nat) (seat : Seat)
    (buffered : round ∈ player.roundComplete) :
    .event (.roundComplete round) ∈ whole ∧
      (player.panelistTurn round seat).text = kept whole (panelist seat) round := by
  have complete := (heard.rounds round).mp buffered
  refine ⟨begun.subset complete, ?_⟩
  rw [kept, ← spoken_of_round orderly begun (panelist seat) round complete]
  exact heard.text (panelist seat) round

theorem moderator_turn_kept (orderly : Orderly final whole) (begun : arrived <+: whole)
    (heard : Heard arrived player.toRecording) (terminal : player.terminalKnown = true) :
    player.moderatorTurn.text = kept whole MODERATOR_ID final ∧
      (player.moderatorTurn.text ≠ [] → player.moderatorTurn.round = final) := by
  obtain ⟨ending, member, last⟩ := terminal_arrived heard terminal
  have complete := spoken_of_ending orderly begun MODERATOR_ID final ending member last
  cases known : player.moderatorRound with
  | some round =>
      obtain ⟨arrival, inside, picked⟩ := latest_some (heard.moderator.symm.trans known)
      have same : round = final := by
        unfold synthesisRound at picked
        split at picked
        · split at picked
          · rename_i persona heardIn delta moderator
            cases picked
            subst moderator
            exact orderly.synthesis round delta (begun.subset inside)
          · cases picked
        · cases picked
      subst same
      have round : player.moderatorTurn.round = round := by
        simp [Recording.moderatorTurn, known]
      refine ⟨?_, fun _ => round⟩
      rw [kept, ← complete]
      have text := heard.text MODERATOR_ID player.moderatorTurn.round
      rw [round] at text
      simpa [Recording.moderatorTurn, known] using text
  | none =>
      -- the moderator has sent nothing, so its turn is empty in every round
      have unheard := latest_none (heard.moderator.symm.trans known)
      have silent : ∀ round, spoken MODERATOR_ID round (arrived.map asInput) = [] := by
        intro round
        have none : deltas MODERATOR_ID round (arrived.map asInput) = [] := by
          rw [deltas, List.filterMap_map, List.filterMap_eq_nil_iff]
          intro arrival inside
          have unpicked := unheard arrival inside
          cases arrival with
          | close => rfl
          | event event =>
              cases event with
              | token speaker =>
                  by_cases moderator : speaker = MODERATOR_ID
                  · simp [synthesisRound, moderator] at unpicked
                  · simp [asInput, deltaOf, moderator]
              | _ => rfl
        rw [spoken, none, List.flatten_nil]
      have text := heard.text MODERATOR_ID player.moderatorTurn.round
      rw [silent, List.take_nil] at text
      have empty : player.moderatorTurn.text = [] := text
      rw [kept, ← complete, silent, List.take_nil]
      exact ⟨empty, fun spoken => absurd empty spoken⟩

end Recorded

section Replaying
variable {final : Nat} {whole arrived : List Arrival} {before after player : Player}
  {script next : Script} {log dispatched : List DebateInput}

theorem replays_same (replays : Replays final whole before script)
    (active : after.active = before.active) (cursor : after.cursor = before.cursor) :
    Replays final whole after script := by
  obtain ⟨told, telling, summing, passed, finale⟩ := replays
  exact ⟨told, active ▸ telling, active ▸ summing, cursor ▸ passed, finale⟩

theorem told_move (replays : Replays final whole before script)
    (extended : Extends before script next) (index : Nat) (inside : index < next.turns.length) :
    .event (.roundComplete (roundAt index)) ∈ whole ∧
      next.turns[index].chunks.flatten =
        kept whole (panelist (seatAt index)) (roundAt index) := by
  cases extended with
  | same => exact replays.told index inside
  | finale => exact replays.told index inside
  | turn turns turn chunks active seated who inRound _ told =>
      simp only at inside ⊢
      by_cases old : index < turns.length
      · rw [List.getElem_append_left old]
        exact replays.told index old
      · have last : index = turns.length := by
          simp only [List.length_append, List.length_singleton] at inside
          omega
        subst last
        have telling := replays.telling turn _ active seated
        rw [who, inRound] at telling
        refine ⟨telling.1, ?_⟩
        rw [List.getElem_append_right (Nat.le_refl _)]
        simpa [told] using telling.2

theorem finale_move (heard : Heard arrived before.toRecording) (orderly : Orderly final whole)
    (begun : arrived <+: whole) (replays : Replays final whole before script)
    (extended : Extends before script next) (finale : Finale)
    (closes : next.finale = some finale) : Closes final whole finale := by
  have sent : ∀ verdict, before.verdict = some verdict → .event (.verdict verdict) ∈ whole :=
    fun verdict known => begun.subset (heard.verdict_arrived known)
  cases extended with
  | same => exact replays.finale finale closes
  | turn => cases closes
  | finale turns given ends =>
      cases closes
      cases ends with
      | cut silent untold ending =>
          have terminal : before.terminalKnown = true := by
            unfold Recording.finalizeTerminal at ending
            unfold Recording.terminalKnown
            cases failed : before.sessionError with
            | some error => simp
            | none =>
                by_cases closed : before.closed = true
                · simp [closed]
                · simp [failed, closed] at ending
          obtain ⟨last, member, isLast⟩ := terminal_arrived heard terminal
          refine .cut ?_ untold ?_
          · intro verdict member'
            exact heard.verdict_absent silent verdict
              (orderly_ended orderly begun last member isLast _ member')
          · intro verdict same
            unfold Recording.finalizeTerminal at ending
            split at ending
            · injection ending with shown
              cases shown.trans same
            · split at ending
              · injection ending with shown
                cases shown.trans same
              · cases ending
      | plain verdict known empty untold ending =>
          have terminal : before.terminalKnown = true := by
            simp [Recording.terminalKnown, known]
          have text := (moderator_turn_kept orderly begun heard terminal).1
          refine .verdict verdict (sent verdict known) ?_ (.inl untold) ending
          rw [untold, ← text, empty]
          rfl
      | told turn verdict active unseated known round told ending =>
          have summing := replays.summing turn active unseated
          exact .verdict verdict (sent verdict known) (told.trans summing.2)
            (.inr (round.trans summing.1)) ending

theorem next_cursor_panelist (round : Nat) (seat : Seat) :
    ∃ later index, nextCursor round seat = .panelist later index := by
  unfold nextCursor
  split
  · exact ⟨_, _, rfl⟩
  · exact ⟨_, _, rfl⟩

theorem passed_move (stage : Stage before log script)
    (heard : Heard arrived before.toRecording) (orderly : Orderly final whole)
    (begun : arrived <+: whole) (replays : Replays final whole before script)
    (move : Move before dispatched after) (extended : Extends before script next)
    (leaving : ∀ round seat, after.cursor ≠ .panelist round seat) :
    .event (.roundComplete (roundAt next.turns.length)) ∉ whole := by
  -- moves that play no turn
  have stays : ∀ turns : List Shown, script.turns = turns →
      .event (.roundComplete (roundAt turns.length)) ∉ whole := by
    rintro turns rfl
    cases move with
    -- the round was missing at the end of the stream, so it never comes
    | handOff round index idle next missing terminal =>
        obtain ⟨turns, rfl, now, rfl, rfl⟩ := stage.at_panelist idle round index next
        obtain ⟨ending, member, last⟩ := terminal_arrived heard terminal
        intro complete
        exact missing ((heard.rounds _).mpr
          (orderly_ended orderly begun ending member last _ complete))
    | finish idle next => exact replays.passed fun _ _ same => nomatch next.symm.trans same
    | announce verdict idle next =>
        exact replays.passed fun _ _ same => nomatch next.symm.trans same
    | openPanelist round index idle next => exact absurd next (leaving round index)
    | openModerator idle next =>
        exact replays.passed fun _ _ same => nomatch next.symm.trans same
    | reveal => exact replays.passed leaving
    | defer turn index =>
        obtain ⟨round, seat, same⟩ := next_cursor_panelist turn.round index
        exact absurd same (leaving round seat)
    | conclude turn speaking told unseated =>
        obtain ⟨turns, chunks, rfl, now | now⟩ := stage.at_turn turn speaking
        · cases now.seated.symm.trans unseated
        · exact replays.passed fun _ _ same => nomatch now.next.symm.trans same
  cases extended with
  | same => exact stays _ rfl
  | finale turns => exact stays _ rfl
  | turn turns turn chunks active seated who inRound told =>
      cases move with
      | handOff round index idle => cases idle.symm.trans active
      | finish idle => cases idle.symm.trans active
      | announce verdict idle => cases idle.symm.trans active
      | openPanelist round index idle => cases idle.symm.trans active
      | openModerator idle => cases idle.symm.trans active
      | reveal current speaking more =>
          cases speaking.symm.trans active
          omega
      | defer current index =>
          obtain ⟨round, seat, same⟩ := next_cursor_panelist current.round index
          exact absurd same (leaving round seat)
      | conclude current speaking _ unseated =>
          cases speaking.symm.trans active
          cases unseated.symm.trans seated

theorem replays_move (stage : Stage before log script)
    (heard : Heard arrived before.toRecording) (orderly : Orderly final whole)
    (begun : arrived <+: whole) (replays : Replays final whole before script)
    (move : Move before dispatched after) (extended : Extends before script next) :
    Replays final whole after next := by
  refine ⟨told_move replays extended, ?_, ?_,
    passed_move stage heard orderly begun replays move extended,
    finale_move heard orderly begun replays extended⟩
  · intro turn seat active seated
    cases move with
    | handOff round index idle => cases idle.symm.trans active
    | finish idle => cases idle.symm.trans active
    | announce verdict idle => cases idle.symm.trans active
    | openPanelist round index idle next buffered =>
        cases active
        exact panelist_turn_kept orderly begun heard round index buffered
    | openModerator => cases active; cases seated
    | reveal current speaking more =>
        cases active
        exact replays.telling current seat speaking seated
    | defer => cases active
    | conclude => cases active
  · intro turn active unseated
    cases move with
    | handOff round index idle => cases idle.symm.trans active
    | finish idle => cases idle.symm.trans active
    | announce verdict idle => cases idle.symm.trans active
    | openPanelist => cases active; cases unseated
    | openModerator idle next known spoken =>
        cases active
        have terminal : before.terminalKnown = true := by
          simp [Recording.terminalKnown, known]
        have kept := moderator_turn_kept orderly begun heard terminal
        exact ⟨kept.2 spoken, kept.1⟩
    | reveal current speaking more =>
        cases active
        exact replays.summing current speaking unseated
    | defer => cases active
    | conclude => cases active

end Replaying

section Shown
variable {final : Nat} {whole : List Arrival} {player : Player} {log : List DebateInput}
  {script : Script}

theorem running_input (state : DebateState) (input : DebateInput)
    (plays : ofPlayback input = true) (unended : IsEnding input = false)
    (running : TERMINAL state.phase = false) :
    TERMINAL (debateReducer state input).phase = false ∧
      (debateReducer state input).verdict = state.verdict := by
  cases input with
  | event event =>
      cases event with
      | token persona =>
          refine ⟨?_, rfl⟩
          by_cases moderator : persona = MODERATOR_ID
          · simp [debateReducer, reduceEvent, moderator, TERMINAL]
          · simp [debateReducer, reduceEvent, moderator, TERMINAL]
      | personaDone => exact ⟨running, rfl⟩
      | roundComplete => exact ⟨running, rfl⟩
      | verdict => cases unended
      | error error =>
          have survivable : error.terminal = false := unended
          refine ⟨?_, rfl⟩
          simp [debateReducer, reduceEvent, survivable, running]
  | status status =>
      cases status with
      | closed => cases unended
      | _ => cases plays
  | transport => cases plays
  | cancel => cases plays

theorem running_phase (state : DebateState) (inputs : List DebateInput)
    (playback : ∀ input ∈ inputs, ofPlayback input = true)
    (unended : ∀ input ∈ inputs, IsEnding input = false)
    (running : TERMINAL state.phase = false) :
    TERMINAL (reduceAll state inputs).phase = false ∧
      (reduceAll state inputs).verdict = state.verdict := by
  induction inputs generalizing state with
  | nil => exact ⟨running, rfl⟩
  | cons input rest ih =>
      have first := running_input state input (playback input List.mem_cons_self)
        (unended input List.mem_cons_self) running
      have later := ih _ (fun other member => playback other (List.mem_cons_of_mem input member))
        (fun other member => unended other (List.mem_cons_of_mem input member)) first.1
      exact ⟨later.1, later.2.trans first.2⟩

theorem replays_rounds (orderly : Orderly final whole)
    (replays : Replays final whole player script) (next : player.cursor = .done)
    (whole4 : script.turns.length % 4 = 0) (round : Nat) (seat : Seat)
    (complete : .event (.roundComplete round) ∈ whole) :
    ∃ index, index < script.turns.length ∧ seatAt index = seat ∧ roundAt index = round := by
  have missing := replays.passed fun _ _ same => nomatch next.symm.trans same
  have below : round < roundAt script.turns.length := by
    by_contra beyond
    rcases Nat.lt_or_eq_of_le (Nat.le_of_not_lt beyond) with later | same
    · exact missing ((orderly.rounds round complete).2 _ (Nat.succ_pos _) later)
    · exact missing (same ▸ complete)
  have positive := (orderly.rounds round complete).1
  have seatBelow := seat.isLt
  unfold roundAt at below
  -- the place of the seat in its round
  refine ⟨4 * (round - 1) + seat.val, by omega, ?_, ?_⟩
  · apply Fin.ext
    change (4 * (round - 1) + seat.val) % 4 = seat.val
    omega
  · unfold roundAt
    omega

theorem ending_silent {input : DebateInput} (ending : IsEnding input = true)
    (persona : PersonaId) (round : Nat) : deltaOf persona round input = none := by
  cases input with
  | event event =>
      cases event with
      | token => cases ending
      | _ => rfl
  | _ => rfl

theorem deltas_panelist_finale (seat : Seat) (round : Nat) (finale : Finale)
    (ending : IsEnding finale.ending = true) :
    deltas (panelist seat) round finale.render = [] := by
  have silent := ending_silent ending (panelist seat) round
  rw [Finale.render, deltas_append, deltas_tokens,
    if_neg fun same => panelist_ne_moderator seat same.1.symm]
  simp [deltas, silent]

theorem shown_panelist (orderly : Orderly final whole)
    (replays : Replays final whole player script) (next : player.cursor = .done)
    (wholeRounds : script.turns.length % 4 = 0) (finale : Finale)
    (ending : IsEnding finale.ending = true) (seat : Seat) (round : Nat) :
    let shown := renderTurns 0 script.turns ++ finale.render
    (.event (.roundComplete round) ∈ whole →
      spoken (panelist seat) round shown = kept whole (panelist seat) round) ∧
    (.event (.roundComplete round) ∉ whole → spoken (panelist seat) round shown = []) := by
  simp only [spoken, deltas_append, deltas_panelist_finale seat round finale ending,
    List.append_nil]
  constructor
  · intro complete
    obtain ⟨index, inside, rfl, rfl⟩ :=
      replays_rounds orderly replays next wholeRounds round seat complete
    have present := deltas_turns_present 0 script.turns index inside
    rw [Nat.zero_add] at present
    rw [present]
    exact (replays.told index inside).2
  · intro incomplete
    rw [deltas_turns_absent (panelist seat) round 0 script.turns, List.flatten_nil]
    rintro index inside ⟨-, rfl⟩
    rw [Nat.zero_add] at incomplete
    exact incomplete (replays.told index inside).1

theorem moderator_silent (turns : List Shown) (round : Nat) :
    deltas MODERATOR_ID round (renderTurns 0 turns) = [] := by
  refine deltas_turns_absent MODERATOR_ID round 0 turns fun index _ same => ?_
  exact panelist_ne_moderator _ same.1

theorem shown_moderator (turns : List Shown) (finale : Finale)
    (ending : IsEnding finale.ending = true) (closes : Closes final whole finale) :
    let shown := renderTurns 0 turns ++ finale.render
    ((∃ verdict, .event (.verdict verdict) ∈ whole) →
      spoken MODERATOR_ID final shown = kept whole MODERATOR_ID final) ∧
    ((∀ verdict, .event (.verdict verdict) ∉ whole) →
      spoken MODERATOR_ID final shown = []) := by
  have silent := ending_silent ending MODERATOR_ID final
  have words : deltas MODERATOR_ID final (renderTurns 0 turns ++ finale.render) =
      if finale.round = final then finale.chunks else [] := by
    rw [Finale.render, deltas_append, deltas_append, moderator_silent, deltas_tokens]
    simp [deltas, silent]
  simp only [spoken, words]
  cases closes with
  | verdict verdict sent told round ending =>
      refine ⟨fun _ => ?_, fun unsent => absurd sent (unsent verdict)⟩
      rcases round with empty | same
      · rw [← told, empty]
        split <;> rfl
      · rw [if_pos same, told]
  | cut unsent untold ending =>
      constructor
      · rintro ⟨verdict, sent⟩
        exact absurd sent (unsent verdict)
      · intro _
        rw [untold]
        split <;> rfl

end Shown

/-- With the end of the stream known and nothing left to play the ending has
been dispatched. -/
theorem rested_concluded {player : Player} {log : List DebateInput} {script : Script}
    (stage : Stage player log script) (terminal : player.terminalKnown = true)
    (rested : hasReadyWork player = false) :
    ∃ turns finale, script = ⟨turns, some finale⟩ ∧ Over player log turns finale := by
  have busy : player.cursor ≠ .done → False := fun unfinished => by
    rw [ready_of_terminal player unfinished terminal] at rested
    cases rested
  have speaking : ∀ turn, player.active = some turn → False := fun turn active => by
    simp [hasReadyWork, active] at rested
  cases stage with
  | interval turns now => exact (busy (by simp [now.next])).elim
  | handed turns now => exact (busy (by simp [now.next])).elim
  | speaking turns turn chunks now => exact (speaking turn now.active).elim
  | closing turns turn chunks now => exact (speaking turn now.active).elim
  | concluded turns finale now => exact ⟨turns, finale, rfl, now⟩

theorem replays_reset (final : Nat) (whole : List Arrival) (player : Player) :
    Replays final whole (reset player) ⟨[], none⟩ where
  told := fun _ inside => nomatch inside
  telling := fun _ _ active => nomatch active
  summing := fun _ active => nomatch active
  passed := fun leaving => absurd rfl (leaving 1 0)
  finale := fun _ ends => nomatch ends

theorem replays_invariant {final : Nat} {whole : List Arrival} (orderly : Orderly final whole)
    (admits : Player → Arrival → Prop) :
    Invariant admits Sound (fun arrived player script =>
      arrived <+: whole → Replays final whole player script) where
  start := fun first _ => replays_reset final whole first
  arrive := by
    intro arrived log player script arrival _ _ holds _ begun
    have same := receive_same_schedule player arrival
    exact replays_same (holds ((List.prefix_append _ _).trans begun)) same.active same.cursor
  pace := fun _ _ _ holds begun => replays_same (holds begun) rfl rfl
  move := fun stage sound holds move extended begun =>
    replays_move stage sound.heard orderly begun (holds begun) move extended

section Conformant
variable {debate : Debate} {stream received : List DebateEvent}

theorem spoken_closed (events : List DebateEvent) (persona : PersonaId) (round : Nat) :
    spoken persona round ((events.map Arrival.event ++ [Arrival.close]).map asInput) =
      spoken persona round (events.map .event) := by
  have inputs : (events.map Arrival.event).map asInput = events.map .event := by
    rw [List.map_map]
    rfl
  rw [List.map_append, spoken_append, inputs]
  exact List.append_nil _

theorem spoken_received (events : List DebateEvent) (persona : PersonaId) (round : Nat) :
    spoken persona round ((events.map Arrival.event).map asInput) =
      spoken persona round (events.map .event) := by
  rw [List.map_map]
  rfl

theorem begun_of_cut (cut : received <+: stream) :
    received.map Arrival.event <+: stream.map Arrival.event ++ [.close] :=
  (cut.map Arrival.event).trans (List.prefix_append _ _)

theorem kept_contribution (conformant : Conformant debate stream) (cut : received <+: stream)
    (seat : Seat) (round : Nat) (complete : .roundComplete round ∈ received) :
    kept (received.map .event ++ [.close]) (panelist seat) round =
      (debate.contribution round seat).deltas.flatten.take MAX_CELL_CHARS := by
  have orderly := conformant_orderly conformant (List.prefix_refl stream)
  have range := (conformant_rounds conformant round).mp (cut.subset complete)
  have whole := spoken_of_round orderly (begun_of_cut cut) (panelist seat) round
    (List.mem_map.mpr ⟨_, complete, rfl⟩)
  rw [spoken_received, spoken_closed] at whole
  rw [kept, spoken_closed, whole, spoken,
    conformant_contribution conformant round range.1 range.2 seat]
  rfl

theorem kept_synthesis (conformant : Conformant debate stream) (cut : received <+: stream)
    (verdict : Text) (sent : .verdict verdict ∈ received) :
    kept (received.map .event ++ [.close]) MODERATOR_ID (debate.rounds + 1) =
      debate.synthesis.flatten.take MAX_CELL_CHARS := by
  have orderly := conformant_orderly conformant (List.prefix_refl stream)
  have whole := spoken_of_ending orderly (begun_of_cut cut) MODERATOR_ID (debate.rounds + 1)
    (.event (.verdict verdict)) (List.mem_map.mpr ⟨_, sent, rfl⟩) rfl
  rw [spoken_received, spoken_closed] at whole
  rw [kept, spoken_closed, whole, spoken, conformant_closing conformant]
  rfl

theorem concluded_phase (state : DebateState) (turns : List Shown) (finale : Finale)
    (failures : ∀ shown ∈ turns, ∀ error ∈ shown.errors,
      ∃ seat, error.persona = some (panelist seat))
    (playback : ∀ input ∈ renderTurns 0 turns ++ finale.render, ofPlayback input = true)
    (ending : IsEnding finale.ending = true) (running : TERMINAL state.phase = false) :
    let after := reduceAll state (renderTurns 0 turns ++ finale.render)
    (∀ verdict, finale.ending = .event (.verdict verdict) →
      after.phase = .done ∧ after.verdict = verdict) ∧
    ((∀ verdict, finale.ending ≠ .event (.verdict verdict)) → after.phase = .error) := by
  -- the ending comes last, and nothing before it ends the debate
  have split : renderTurns 0 turns ++ finale.render =
      (renderTurns 0 turns ++ tokens MODERATOR_ID finale.round finale.chunks) ++
        [finale.ending] := (List.append_assoc _ _ _).symm
  rw [split] at playback ⊢
  have before := (running_phase state
    (renderTurns 0 turns ++ tokens MODERATOR_ID finale.round finale.chunks)
    (fun input member => playback input (List.mem_append_left _ member))
    (fun input member => by
      rcases List.mem_append.mp member with turn | token
      · exact turns_not_ending 0 turns failures input turn
      · exact tokens_not_ending _ _ _ input token) running).1
  have last := playback finale.ending (List.mem_append_right _ List.mem_cons_self)
  rw [reduce_all_append]
  generalize reduceAll state _ = reached at before ⊢
  constructor
  · rintro verdict same
    rw [same]
    exact ⟨rfl, rfl⟩
  · intro cut
    cases shown : finale.ending with
    | event event =>
        rw [shown] at ending
        cases event with
        | verdict verdict => exact absurd shown (cut verdict)
        | error error =>
            have terminal : error.terminal = true := ending
            simp [debateReducer, reduceEvent, terminal]
        | _ => cases ending
    | status status =>
        rw [shown] at ending
        cases status with
        | closed => simp [debateReducer, reduceStatus, before]
        | _ => cases ending
    | transport => rw [shown] at ending; cases ending
    | cancel => rw [shown] at ending; cases ending

/-- What the reducer holds when the part `received` of a debate is all it will
ever get. -/
structure Shows (debate : Debate) (received : List DebateEvent) (state : DebateState) :
    Prop where
  round : ∀ seat round, .roundComplete round ∈ received →
    cell state.transcript (panelist seat) round =
      (debate.contribution round seat).deltas.flatten.take MAX_CELL_CHARS
  unfinished : ∀ seat round, .roundComplete round ∉ received →
    cell state.transcript (panelist seat) round = []
  synthesis : (∃ verdict, .verdict verdict ∈ received) →
    cell state.transcript MODERATOR_ID (debate.rounds + 1) =
      debate.synthesis.flatten.take MAX_CELL_CHARS
  unsaid : (∀ verdict, .verdict verdict ∉ received) →
    cell state.transcript MODERATOR_ID (debate.rounds + 1) = []
  verdict : ∀ verdict, .verdict verdict ∈ received →
    state.phase = .done ∧ state.verdict = verdict
  cut : (∀ verdict, .verdict verdict ∉ received) → state.phase = .error

/-- However a cut of a conformant stream is fed, paced, drained or raced, once
nothing is pending the transcript holds every completed round as contributed,
the synthesis with its verdict, and the phase tells whether there was one. -/
theorem faithful_replay (conformant : Conformant debate stream) (cut : received <+: stream)
    (player : Player) (before : DebateState) (ops : List Op)
    (plays : ∀ op ∈ ops, op.plays = true)
    (fed : arrivals ops = received.map .event ++ [.close])
    (idle : (run player (.feedStatus .connecting :: ops)).1.timer = none) :
    Shows debate received
      (reduceAll before (run player (.feedStatus .connecting :: ops)).2) := by
  have orderly := conformant_orderly conformant cut
  obtain ⟨script, stage, ⟨_, heard, faithful⟩, replaying⟩ := run_invariant
    ((sound_invariant _).and (replays_invariant orderly _)) player ops plays (admits_all _ ops)
  have replays := replaying (fed ▸ List.prefix_refl _)
  have rested := run_rests (reset player) ops (reset_rests player) idle
  have closed := heard.closed.mpr (by rw [fed]; simp)
  obtain ⟨turns, finale, rfl, ended⟩ :=
    rested_concluded stage (by simp [Recording.terminalKnown, closed]) rested
  have ending := (faithful.ending finale rfl).1
  have playback := run_of_playback (reset player) ops plays
  have log : (run player (.feedStatus .connecting :: ops)).2 =
      .status .connecting :: (run (reset player) ops).2 := rfl
  rw [log, reduce_all_cons]
  rw [ended.shown] at playback ⊢
  -- each cell is the capped text of what was shown there
  have cells := fun persona round => reduce_all_cell (debateReducer before (.status .connecting))
    (renderTurns 0 turns ++ finale.render) persona round []
    (fun member => by cases playback _ member) rfl
  have phase := concluded_phase (debateReducer before (.status .connecting)) turns finale
    faithful.failures playback ending rfl
  have closes := replays.finale finale rfl
  have synthesis := shown_moderator turns finale ending closes
  have arrived : ∀ event, .event event ∈ received.map Arrival.event ++ [.close] ↔
      event ∈ received := fun event => by simp
  constructor
  · intro seat round complete
    have shown := (shown_panelist orderly replays ended.next ended.whole finale ending
      seat round).1 ((arrived _).mpr complete)
    rw [cells, List.nil_append, shown, kept_contribution conformant cut seat round complete,
      List.take_take, Nat.min_self]
  · intro seat round incomplete
    have shown := (shown_panelist orderly replays ended.next ended.whole finale ending
      seat round).2 (fun member => incomplete ((arrived _).mp member))
    rw [cells, List.nil_append, shown, List.take_nil]
  · rintro ⟨verdict, sent⟩
    have shown := synthesis.1 ⟨verdict, (arrived _).mpr sent⟩
    rw [cells, List.nil_append, shown, kept_synthesis conformant cut verdict sent,
      List.take_take, Nat.min_self]
  · intro unsent
    have shown := synthesis.2 fun verdict member => unsent verdict ((arrived _).mp member)
    rw [cells, List.nil_append, shown, List.take_nil]
  · intro verdict sent
    cases closes with
    | verdict given member told round shown =>
        have same : given = verdict := by
          have first := conformant_verdict conformant given (cut.subset ((arrived _).mp member))
          have second := conformant_verdict conformant verdict (cut.subset sent)
          injection first.symm.trans second
        exact phase.1 verdict (same ▸ shown)
    | cut unsent => exact absurd ((arrived _).mpr sent) (unsent verdict)
  · intro unsent
    cases closes with
    | verdict verdict member => exact absurd ((arrived _).mp member) (unsent verdict)
    | cut _ _ shown => exact phase.2 shown

end Conformant

/-- One round in which only the first panelist has something to say. -/
def sampleDebate : Debate where
  rounds := 1
  contribution := fun _ seat =>
    if seat.val = 0 then ⟨[units "Why?"], none⟩ else ⟨[], some (units "refused")⟩
  synthesis := [units "So."]
  outcome := .verdict (units "So.")

def sampleStream : List DebateEvent :=
  [.error ⟨some .expert, units "refused"⟩, .token .skeptic 1 (units "Why?"),
    .error ⟨some .optimist, units "refused"⟩, .personaDone .skeptic 1,
    .error ⟨some .contrarian, units "refused"⟩, .roundComplete 1,
    .token .moderator 2 (units "So."), .verdict (units "So.")]

theorem sample_conformant : Conformant sampleDebate sampleStream := by
  have block : Interleaves (sampleDebate.lane 1) (sampleStream.take 5) :=
    .of_keyed seatOf _ _ (by decide)
  exact ⟨_, .more block (.empty 2), by decide⟩

/-- A stream fed at once, closed, and then played to the end. -/
def promptly (received : List DebateEvent) : List Op :=
  received.map Op.feed ++ [.feedStatus .closed] ++ List.replicate 12 Op.fire

theorem faithful_replay_sample :
    Shows sampleDebate sampleStream (reduceAll initialState
      (run (create false) (.feedStatus .connecting :: promptly sampleStream)).2) :=
  faithful_replay sample_conformant (List.prefix_refl _) (create false) initialState
    (promptly sampleStream) (by decide) (by decide) (by decide +kernel)

end Council.FaithfulReplay

import Council.SessionPhases

/-!
The screen at any moment of a replay. Of the turns of the stream in playing
order it shows some in full, a beginning of the next one and nothing of the
others; the moderator's comes after all of them.
-/

namespace Council.Screen
open Protocol DebateReducer DebatePlayer PlayerRuns Playbill TurnOrder Spoken WireStream
  FaithfulReplay SessionPhases

/-- What has been dispatched of a panelist's turn, counted in playing order. -/
def saidIn (log : List DebateInput) (place : Nat) : Text :=
  spoken (panelist (seatAt place)) (roundAt place) log

/-- What the stream has of the turn. -/
def keptIn (whole : List Arrival) (place : Nat) : Text :=
  kept whole (panelist (seatAt place)) (roundAt place)

/-- The turns before `place` are told, those after it are not begun, and the
moderator speaks when no turn is left. -/
structure Tells (final : Nat) (whole : List Arrival) (log : List DebateInput) (place : Nat) :
    Prop where
  told : ∀ earlier, earlier < place →
    .event (.roundComplete (roundAt earlier)) ∈ whole ∧ saidIn log earlier = keptIn whole earlier
  telling : saidIn log place <+: keptIn whole place
  begun : saidIn log place ≠ [] → .event (.roundComplete (roundAt place)) ∈ whole
  untold : ∀ later, place < later → saidIn log later = []
  closing : ∀ round, spoken MODERATOR_ID round log ≠ [] → round = final ∧
    place % 4 = 0 ∧ .event (.roundComplete (roundAt place)) ∉ whole ∧
      ∃ verdict, .event (.verdict verdict) ∈ whole
  summing : spoken MODERATOR_ID final log <+: kept whole MODERATOR_ID final

section Logs
variable {final : Nat} {whole : List Arrival} {player : Player} {script : Script}

theorem said_present (turns : List Shown) (index : Nat) (inside : index < turns.length) :
    saidIn (renderTurns 0 turns) index = turns[index].chunks.flatten := by
  have present := deltas_turns_present 0 turns index inside
  rw [Nat.zero_add] at present
  rw [saidIn, spoken, present]

theorem said_absent (turns : List Shown) (place : Nat) (beyond : turns.length ≤ place) :
    saidIn (renderTurns 0 turns) place = [] := by
  have absent := deltas_turns_absent (panelist (seatAt place)) (roundAt place) 0 turns
    fun index inside same => by
      have equal := place_unique _ _ (panelist_injective _ _ same.1) same.2
      omega
  rw [saidIn, spoken, absent]
  rfl

theorem pending_unspoken (player : Player) (persona : PersonaId) (round : Nat) :
    spoken persona round (pendingInputs player) = [] := by
  have silent : deltas persona round (pendingInputs player) = [] := by
    apply List.filterMap_eq_nil_iff.mpr
    intro input member
    simp only [pendingInputs, List.mem_append, Option.mem_toList, Option.map_eq_some_iff,
      List.mem_map] at member
    rcases member with (⟨done, _, rfl⟩ | ⟨mark, _, rfl⟩) | ⟨error, _, rfl⟩
    · rfl
    · rfl
    · rfl
  rw [spoken, silent]
  rfl

/-- Between two turns the log says what the turns so far say. -/
theorem spoken_interval {log : List DebateInput} {turns : List Shown}
    (shown : log ++ pendingInputs player = renderTurns 0 turns) (persona : PersonaId)
    (round : Nat) : spoken persona round log = spoken persona round (renderTurns 0 turns) := by
  rw [← shown, spoken_append, pending_unspoken, List.append_nil]

theorem moderator_unspoken (turns : List Shown) (round : Nat) :
    spoken MODERATOR_ID round (renderTurns 0 turns) = [] := by
  rw [spoken, moderator_silent]
  rfl

variable (replays : Replays final whole player script) {log : List DebateInput}

include replays

theorem tells_turns (same : ∀ persona round,
      spoken persona round log = spoken persona round (renderTurns 0 script.turns)) :
    Tells final whole log script.turns.length where
  told := by
    intro earlier inside
    have told := replays.told earlier inside
    refine ⟨told.1, ?_⟩
    rw [saidIn, same, ← saidIn, said_present _ _ inside]
    exact told.2
  telling := by
    rw [saidIn, same, ← saidIn, said_absent _ _ (Nat.le_refl _)]
    exact List.nil_prefix
  begun := by
    intro spoken
    rw [saidIn, same, ← saidIn, said_absent _ _ (Nat.le_refl _)] at spoken
    exact absurd rfl spoken
  untold := by
    intro later beyond
    rw [saidIn, same, ← saidIn, said_absent _ _ (Nat.le_of_lt beyond)]
  closing := by
    intro round spoken
    rw [same, moderator_unspoken] at spoken
    exact absurd rfl spoken
  summing := by
    rw [same, moderator_unspoken]
    exact List.nil_prefix

theorem tells_speaking {turns : List Shown} {turn : ActiveTurn} {chunks : List Text}
    (here : script.turns = turns) (now : Speaking player log turns turn chunks) :
    Tells final whole log turns.length := by
  subst here
  have before : Tells final whole (renderTurns 0 script.turns) script.turns.length :=
    tells_turns replays fun _ _ => rfl
  have telling := replays.telling turn _ now.active now.seated
  have elsewhere : ∀ place, place ≠ script.turns.length →
      saidIn log place = saidIn (renderTurns 0 script.turns) place := by
    intro place apart
    have silent : ¬(panelist (seatAt script.turns.length) = panelist (seatAt place) ∧
        roundAt script.turns.length = roundAt place) := fun same =>
      apart (place_unique _ _ (panelist_injective _ _ same.1) same.2).symm
    rw [saidIn, now.shown, spoken_append]
    rw [spoken.eq_def _ _ (tokens _ _ _), deltas_tokens, if_neg silent, List.flatten_nil,
      List.append_nil]
    rfl
  have moderator : ∀ round, spoken MODERATOR_ID round log = [] := by
    intro round
    have silent : ¬(panelist (seatAt script.turns.length) = MODERATOR_ID ∧
        roundAt script.turns.length = round) := fun same => panelist_ne_moderator _ same.1
    rw [now.shown, spoken_append, moderator_unspoken]
    rw [spoken.eq_def _ _ (tokens _ _ _), deltas_tokens, if_neg silent]
    rfl
  constructor
  · intro earlier inside
    have told := before.told earlier inside
    rw [elsewhere earlier (Nat.ne_of_lt inside)]
    exact told
  · rw [saidIn, now.shown, spoken_append, ← saidIn, said_absent _ _ (Nat.le_refl _)]
    rw [spoken.eq_def _ _ (tokens _ _ _), deltas_tokens, if_pos ⟨rfl, rfl⟩, now.told,
      telling.2, now.who, now.inRound]
    exact List.take_prefix _ _
  · intro _
    rw [← now.inRound]
    exact telling.1
  · intro later beyond
    rw [elsewhere later (Nat.ne_of_gt beyond)]
    exact before.untold later beyond
  · intro round spoken
    exact absurd (moderator round) spoken
  · rw [moderator]
    exact List.nil_prefix

theorem tells_closing {round : Nat} {chunks : List Text} {rest : List DebateInput}
    (whole4 : script.turns.length % 4 = 0)
    (passed : .event (.roundComplete (roundAt script.turns.length)) ∉ whole)
    (shown : log = renderTurns 0 script.turns ++ (tokens MODERATOR_ID round chunks ++ rest))
    (silent : ∀ persona round, spoken persona round rest = [])
    (final_ : chunks.flatten ≠ [] → round = final)
    (sent : chunks.flatten ≠ [] → ∃ verdict, .event (.verdict verdict) ∈ whole)
    (begins : chunks.flatten <+: kept whole MODERATOR_ID final) :
    Tells final whole log script.turns.length := by
  have before : Tells final whole (renderTurns 0 script.turns) script.turns.length :=
    tells_turns replays fun _ _ => rfl
  have same : ∀ place, saidIn log place = saidIn (renderTurns 0 script.turns) place := by
    intro place
    have apart : ¬(MODERATOR_ID = panelist (seatAt place) ∧ round = roundAt place) := fun same =>
      panelist_ne_moderator _ same.1.symm
    rw [saidIn, shown, spoken_append, spoken_append, silent, List.append_nil]
    rw [spoken.eq_def _ _ (tokens _ _ _), deltas_tokens, if_neg apart, List.flatten_nil,
      List.append_nil]
    rfl
  have words : ∀ other, spoken MODERATOR_ID other log =
      if round = other then chunks.flatten else [] := by
    intro other
    rw [shown, spoken_append, spoken_append, silent, List.append_nil, moderator_unspoken]
    rw [spoken.eq_def _ _ (tokens _ _ _), deltas_tokens]
    by_cases here : round = other
    · simp [here]
    · simp [here]
  constructor
  · intro earlier inside
    rw [same]
    exact before.told earlier inside
  · rw [same]
    exact before.telling
  · rw [same]
    exact before.begun
  · intro later beyond
    rw [same]
    exact before.untold later beyond
  · intro other spoken
    rw [words] at spoken
    by_cases here : round = other
    · rw [if_pos here] at spoken
      exact ⟨here ▸ final_ spoken, whole4, passed, sent spoken⟩
    · rw [if_neg here] at spoken
      exact absurd rfl spoken
  · rw [words]
    by_cases here : round = final
    · rw [if_pos here]
      exact begins
    · rw [if_neg here]
      exact List.nil_prefix

theorem stage_tells (stage : Stage player log script)
    (ending : ∀ finale, script.finale = some finale → IsEnding finale.ending = true)
    (known : ∀ verdict, player.verdict = some verdict → .event (.verdict verdict) ∈ whole) :
    Tells final whole log script.turns.length := by
  cases stage with
  | interval turns now => exact tells_turns replays (spoken_interval now.shown)
  | handed turns now => exact tells_turns replays (spoken_interval now.shown)
  | speaking turns turn chunks now => exact tells_speaking replays rfl now
  | closing turns turn chunks now =>
      have summing := replays.summing turn now.active now.unseated
      have passed := replays.passed fun _ _ same => nomatch now.next.symm.trans same
      have shown : log = renderTurns 0 turns ++ (tokens MODERATOR_ID turn.round chunks ++ []) := by
        rw [List.append_nil]
        exact now.shown
      refine tells_closing replays now.whole passed shown (fun _ _ => rfl) (fun _ => summing.1)
        (fun _ => ?_) ?_
      · rcases Option.isSome_iff_exists.mp now.known with ⟨verdict, said⟩
        exact ⟨verdict, known verdict said⟩
      · rw [now.told, summing.2]
        exact List.take_prefix _ _
  | concluded turns finale now =>
      have passed := replays.passed fun _ _ same => nomatch now.next.symm.trans same
      have closes := replays.finale finale rfl
      have last : ∀ persona round, spoken persona round [finale.ending] = [] := by
        intro persona round
        rw [spoken_singleton, ending_silent (ending finale rfl)]
        rfl
      refine tells_closing replays now.whole passed now.shown last ?_ ?_ ?_
      · cases closes with
        | verdict verdict sent told round shown =>
            intro words
            rcases round with empty | same
            · rw [empty] at words
              exact absurd rfl words
            · exact same
        | cut unsent untold shown =>
            intro words
            rw [untold] at words
            exact absurd rfl words
      · cases closes with
        | verdict verdict sent => exact fun _ => ⟨verdict, sent⟩
        | cut unsent untold shown =>
            intro words
            rw [untold] at words
            exact absurd rfl words
      · cases closes with
        | verdict verdict sent told round shown =>
            rw [told]
        | cut unsent untold shown =>
            rw [untold]
            exact List.nil_prefix

end Logs

section Sessions
variable {final : Nat} {whole arrived : List Arrival} {first player : Player}
  {log : List DebateInput}

/-- What a session's player has come to, fed a part of an orderly stream. -/
structure Session (final : Nat) (whole : List Arrival) (player : Player)
    (log : List DebateInput) (script : Script) : Prop where
  stage : Stage player log script
  replays : Replays final whole player script
  failures : ∀ shown ∈ script.turns, ∀ error ∈ shown.errors,
    ∃ seat, error.persona = some (panelist seat)
  ending : ∀ finale, script.finale = some finale → IsEnding finale.ending = true
  playback : ∀ input ∈ log, ofPlayback input = true
  known : ∀ verdict, player.verdict = some verdict → .event (.verdict verdict) ∈ whole

theorem played_session (orderly : Orderly final whole) (begun : arrived <+: whole)
    (played : Played anyArrival (reset first) arrived log player) :
    ∃ script, Session final whole player log script := by
  obtain ⟨script, stage, ⟨_, heard, faithful⟩, replaying⟩ :=
    ((sound_invariant _).and (replays_invariant orderly _)).played played
  exact ⟨script, stage, replaying begun, faithful.failures,
    fun finale same => (faithful.ending finale same).1, played_of_playback played,
    fun verdict said => begun.subset (heard.verdict_arrived said)⟩

variable {script : Script} (session : Session final whole player log script)

include session

theorem Session.tells : Tells final whole log script.turns.length :=
  stage_tells session.replays session.stage session.ending session.known

/-- Once the phase is terminal the ending of the stream has been dispatched:
the verdict after the whole synthesis, or none. -/
theorem Session.concluded (terminal : TERMINAL (reduceAll connectingState log).phase = true) :
    script.turns.length % 4 = 0 ∧
      .event (.roundComplete (roundAt script.turns.length)) ∉ whole ∧
      ((∃ verdict, .event (.verdict verdict) ∈ whole ∧
          (reduceAll connectingState log).phase = .done ∧
          (reduceAll connectingState log).verdict = verdict ∧
          spoken MODERATOR_ID final log = kept whole MODERATOR_ID final) ∨
        (∀ verdict, .event (.verdict verdict) ∉ whole) ∧
          (reduceAll connectingState log).phase = .error ∧
          spoken MODERATOR_ID final log = []) := by
  have running : script.finale = none → False := by
    intro unended
    have still := running_phase connectingState log session.playback (fun input member => by
      by_contra ends
      obtain ⟨finale, known, _⟩ := stage_ending session.stage session.failures input member
        (by simpa using ends)
      cases unended.symm.trans known) rfl
    rw [still.1] at terminal
    cases terminal
  cases session with
  | mk stage replays failures ending playback known =>
  cases stage with
  | interval => exact (running rfl).elim
  | handed => exact (running rfl).elim
  | speaking => exact (running rfl).elim
  | closing => exact (running rfl).elim
  | concluded turns finale now =>
      refine ⟨now.whole, replays.passed fun _ _ same => (nomatch now.next.symm.trans same), ?_⟩
      have ends := ending finale rfl
      have closes := replays.finale finale rfl
      have synthesis := shown_moderator turns finale ends closes
      rw [now.shown] at playback ⊢
      have phase := concluded_phase connectingState turns finale failures playback ends rfl
      cases closes with
      | verdict verdict sent told round shown =>
          left
          have decided := phase.1 verdict shown
          exact ⟨verdict, sent, decided.1, decided.2, synthesis.1 ⟨verdict, sent⟩⟩
      | cut unsent untold shown =>
          right
          exact ⟨unsent, phase.2 shown, synthesis.2 unsent⟩

end Sessions

/-- The state shows the transcript of the log, and a verdict only if the log
has ended in it. -/
structure Sees (state : DebateState) (log : List DebateInput) : Prop where
  transcript : state.transcript = (reduceAll connectingState log).transcript
  done : state.phase = .done → (reduceAll connectingState log).phase = .done ∧
    state.verdict = (reduceAll connectingState log).verdict

theorem sees_view {state : DebateState} {log : List DebateInput}
    (view : SameView state (reduceAll connectingState log)) : Sees state log where
  transcript := view.transcript
  done := fun done => ⟨view.phase.symm.trans done, view.verdict⟩

theorem sees_cancel {state : DebateState} {log : List DebateInput} (sees : Sees state log) :
    Sees (debateReducer state .cancel) log := by
  simp only [debateReducer]
  split
  · exact sees
  · refine ⟨sees.transcript, ?_⟩
    intro done
    cases done

/-- What a panelist's turn of the debate comes to on the screen. -/
def turnText (debate : Debate) (place : Nat) : Text :=
  (debate.contribution (roundAt place) (seatAt place)).deltas.flatten.take MAX_CELL_CHARS

def synthesisText (debate : Debate) : Text := debate.synthesis.flatten.take MAX_CELL_CHARS

def turnCell (state : DebateState) (place : Nat) : Text :=
  cell state.transcript (panelist (seatAt place)) (roundAt place)

/-- The screen is the beginning of the debate that ends in the turn `place`. -/
structure Shows (debate : Debate) (state : DebateState) (place : Nat) : Prop where
  inside : place ≤ 4 * debate.rounds
  told : ∀ earlier, earlier < place → turnCell state earlier = turnText debate earlier
  telling : turnCell state place <+: turnText debate place
  untold : ∀ later, place < later ∨ 4 * debate.rounds ≤ later → turnCell state later = []
  closing : ∀ round, cell state.transcript MODERATOR_ID round ≠ [] →
    round = debate.rounds + 1 ∧ place = 4 * debate.rounds
  summing : cell state.transcript MODERATOR_ID (debate.rounds + 1) <+: synthesisText debate
  verdict : state.phase = .done → place = 4 * debate.rounds ∧
    debate.outcome = .verdict state.verdict ∧
    cell state.transcript MODERATOR_ID (debate.rounds + 1) = synthesisText debate

section Cells
variable {final : Nat} {whole : List Arrival} {player : Player} {log : List DebateInput}
  {script : Script} {state : DebateState}

theorem session_cell (session : Session final whole player log script) (sees : Sees state log)
    (persona : PersonaId) (round : Nat) :
    cell state.transcript persona round = (spoken persona round log).take MAX_CELL_CHARS := by
  rw [sees.transcript]
  have shown := reduce_all_cell connectingState log persona round []
    (fun member => by cases session.playback _ member) rfl
  rwa [List.nil_append] at shown

/-- Nothing of a debate is on the screen. -/
structure Blank (state : DebateState) : Prop where
  turns : ∀ place, turnCell state place = []
  synthesis : ∀ round, cell state.transcript MODERATOR_ID round = []
  unfinished : state.phase ≠ .done

theorem session_blank (session : Session final whole player log script) (sees : Sees state log)
    (unmarked : ∀ round, .event (.roundComplete round) ∉ whole)
    (undecided : ∀ verdict, .event (.verdict verdict) ∉ whole) : Blank state := by
  have tells := session.tells
  have cells := session_cell session sees
  constructor
  · intro place
    rw [turnCell, cells, ← saidIn]
    have silent : saidIn log place = [] := by
      rcases Nat.lt_trichotomy place script.turns.length with before | same | beyond
      · exact absurd (tells.told place before).1 (unmarked _)
      · by_contra said
        rw [same] at said
        exact unmarked _ (tells.begun said)
      · exact tells.untold place beyond
    rw [silent, List.take_nil]
  · intro round
    rw [cells]
    by_contra said
    have spoken_ : spoken MODERATOR_ID round log ≠ [] := by
      intro silent
      rw [silent, List.take_nil] at said
      exact said rfl
    rcases tells.closing round spoken_ with ⟨_, _, _, verdict, sent⟩
    exact undecided verdict sent
  · intro done
    have ended := (sees.done done).1
    rcases session.concluded (by rw [ended]; rfl) with ⟨_, _, decided | failed⟩
    · rcases decided with ⟨verdict, sent, _⟩
      exact undecided verdict sent
    · rw [failed.2.1] at ended
      cases ended

end Cells

section Debates
variable {debate : Debate} {stream received : List DebateEvent} {player : Player}
  {log : List DebateInput}

theorem take_begins {small large : Text} (begins : small <+: large) (count : Nat) :
    small.take count <+: large.take count := by
  rcases begins with ⟨rest, rfl⟩
  by_cases fits : count ≤ small.length
  · rw [List.take_append_of_le_length fits]
  · rw [List.take_of_length_le (Nat.le_of_lt (Nat.lt_of_not_le fits)), List.take_append,
      List.take_of_length_le (Nat.le_of_lt (Nat.lt_of_not_le fits))]
    exact List.prefix_append _ _

theorem outcome_of_verdict {verdict : Text} (same : debate.outcome.event = .verdict verdict) :
    debate.outcome = .verdict verdict := by
  cases outcome : debate.outcome with
  | verdict text =>
      rw [outcome] at same
      cases same
      rfl
  | failure message =>
      rw [outcome] at same
      cases same

variable (conformant : Conformant debate stream) (cut : received <+: stream) {script : Script}
  (session : Session (debate.rounds + 1) (received.map .event ++ [.close]) player log script)

include conformant cut session

/-- Whatever part of the debate has arrived and however far its playback is,
the screen is the beginning of the debate. -/
theorem session_shows {state : DebateState} (sees : Sees state log) :
    Shows debate state script.turns.length := by
  have tells := session.tells
  have arrived_ : ∀ event, Arrival.event event ∈ received.map Arrival.event ++ [.close] ↔
      event ∈ received := fun event => by simp
  have marks : ∀ round, .roundComplete round ∈ received → 0 < round ∧ round ≤ debate.rounds :=
    fun round member => (conformant_rounds conformant round).mp (cut.subset member)
  have cells := session_cell session sees
  have full : ∀ place, .event (.roundComplete (roundAt place)) ∈
      received.map Arrival.event ++ [.close] →
        keptIn (received.map .event ++ [.close]) place = turnText debate place := fun place marked =>
    kept_contribution conformant cut (seatAt place) (roundAt place) ((arrived_ _).mp marked)
  have inside : script.turns.length ≤ 4 * debate.rounds := by
    by_contra beyond
    have told := tells.told (4 * debate.rounds) (by omega)
    have bounds := marks _ ((arrived_ _).mp told.1)
    simp only [roundAt] at bounds
    omega
  -- where there is a verdict every round has been completed
  have reaches : script.turns.length % 4 = 0 →
      .event (.roundComplete (roundAt script.turns.length)) ∉
        received.map Arrival.event ++ [.close] →
      (∃ verdict, .verdict verdict ∈ received) → script.turns.length = 4 * debate.rounds := by
    rintro whole4 passed ⟨verdict, sent⟩
    by_contra short
    have next := (conformant_rounds conformant (roundAt script.turns.length)).mpr
      (by simp only [roundAt]; omega)
    have inWhole := orderly_ended (conformant_orderly conformant (List.prefix_refl stream))
      (begun_of_cut cut) (.event (.verdict verdict)) (List.mem_map_of_mem sent) rfl _
      (List.mem_append_left _ (List.mem_map_of_mem next))
    exact passed (List.mem_append_left _ inWhole)
  have summed : ∀ verdict, .verdict verdict ∈ received →
      kept (received.map .event ++ [.close]) MODERATOR_ID (debate.rounds + 1) =
        synthesisText debate := fun verdict sent => kept_synthesis conformant cut verdict sent
  refine ⟨inside, ?_, ?_, ?_, ?_, ?_, ?_⟩
  · intro earlier before
    have told := tells.told earlier before
    rw [turnCell, cells, ← saidIn, told.2, full earlier told.1, turnText, List.take_take,
      Nat.min_self]
  · rw [turnCell, cells, ← saidIn]
    by_cases silent : saidIn log script.turns.length = []
    · rw [silent, List.take_nil]
      exact List.nil_prefix
    · have begins := take_begins tells.telling MAX_CELL_CHARS
      rw [full _ (tells.begun silent), turnText, List.take_take, Nat.min_self] at begins
      exact begins
  · intro later beyond
    have silent : saidIn log later = [] := by
      rcases Nat.lt_trichotomy later script.turns.length with less | same | more
      · have below : 4 * debate.rounds ≤ later := beyond.resolve_left (by omega)
        omega
      · by_contra said
        rw [same] at said
        have bounds := marks _ ((arrived_ _).mp (tells.begun said))
        have below : 4 * debate.rounds ≤ later := beyond.resolve_left (by omega)
        simp only [roundAt] at bounds
        omega
      · exact tells.untold later more
    rw [turnCell, cells, ← saidIn, silent, List.take_nil]
  · intro round said
    have spoken_ : spoken MODERATOR_ID round log ≠ [] := by
      intro silent
      rw [cells, silent, List.take_nil] at said
      exact said rfl
    rcases tells.closing round spoken_ with ⟨same, whole4, passed, verdict, sent⟩
    exact ⟨same, reaches whole4 passed ⟨verdict, (arrived_ _).mp sent⟩⟩
  · rw [cells]
    by_cases silent : spoken MODERATOR_ID (debate.rounds + 1) log = []
    · rw [silent, List.take_nil]
      exact List.nil_prefix
    · rcases tells.closing _ silent with ⟨-, -, -, verdict, sent⟩
      have begins := take_begins tells.summing MAX_CELL_CHARS
      rw [summed verdict ((arrived_ _).mp sent), synthesisText, List.take_take,
        Nat.min_self] at begins
      exact begins
  · intro done
    rcases sees.done done with ⟨ended, shown⟩
    rcases session.concluded (by rw [ended]; rfl) with ⟨whole4, passed, decided | failed⟩
    · rcases decided with ⟨verdict, sent, -, same, told⟩
      have inside_ := (arrived_ _).mp sent
      refine ⟨reaches whole4 passed ⟨verdict, inside_⟩, ?_, ?_⟩
      · rw [shown, same]
        exact outcome_of_verdict (conformant_verdict conformant verdict (cut.subset inside_))
      · rw [cells, told, summed verdict inside_, synthesisText, List.take_take, Nat.min_self]
    · rw [failed.2.1] at ended
      cases ended

omit cut in
theorem session_rests (complete : received = stream) {state : DebateState}
    (view : SameView state (reduceAll connectingState log))
    (terminal : TERMINAL state.phase = true) :
    Shows debate state (4 * debate.rounds) ∧
      (∀ verdict, debate.outcome = .verdict verdict → state.phase = .done) ∧
      ∀ message, debate.outcome = .failure message → state.phase = .error := by
  subst complete
  rw [view.phase] at terminal
  rcases session.concluded terminal with ⟨whole4, passed, ended⟩
  have shows_ := session_shows conformant (List.prefix_refl _) session (sees_view view)
  have place : script.turns.length = 4 * debate.rounds := by
    by_contra short
    have bound := shows_.inside
    have next := (conformant_rounds conformant (roundAt script.turns.length)).mpr
      (by simp only [roundAt]; omega)
    exact passed (List.mem_append_left _ (List.mem_map_of_mem next))
  have last : debate.outcome.event ∈ received := by
    rcases conformant with ⟨body, -, rfl⟩
    simp [Debate.closing]
  rw [place] at shows_
  rw [view.phase]
  refine ⟨shows_, ?_, ?_⟩
  · intro verdict same
    rw [same] at last
    rcases ended with ⟨_, _, done, _⟩ | ⟨unsent, -, -⟩
    · exact done
    · exact absurd (List.mem_append_left _ (List.mem_map_of_mem last)) (unsent verdict)
  · intro message same
    rcases ended with ⟨verdict, sent, _⟩ | ⟨-, failed, -⟩
    · have inside : .verdict verdict ∈ received := by simpa using sent
      have event := conformant_verdict conformant verdict inside
      rw [same] at event
      cases event
    · exact failed

end Debates

end Council.Screen

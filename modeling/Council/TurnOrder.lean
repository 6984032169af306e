import Council.Spoken

/-!
The turn discipline of playback: whatever is fed, in whatever order and at
whatever pace, the dispatched log is the beginning of one complete script.
-/

namespace Council.TurnOrder
open Protocol DebateReducer DebatePlayer PlayerRuns Playbill Spoken

/-- A verdict, a session or moderator error, or the end of the socket. -/
def IsEnding : DebateInput → Bool
  | .event (.verdict _) => true
  | .event (.error error) => error.terminal
  | .status .closed => true
  | _ => false

/-- Whole rounds, panelist failures only, and exactly one ending. -/
structure Complete (script : Script) : Prop where
  wholeRounds : script.turns.length % 4 = 0
  failures : ∀ shown ∈ script.turns, ∀ error ∈ shown.errors,
    ∃ seat, error.persona = some (panelist seat)
  ending : ∃ finale, script.finale = some finale ∧ IsEnding finale.ending = true

/-- A script that names only failures of panelists and endings that arrived. -/
structure Faithful (arrived : List Arrival) (script : Script) : Prop where
  failures : ∀ shown ∈ script.turns, ∀ error ∈ shown.errors,
    ∃ seat, error.persona = some (panelist seat)
  ending : ∀ finale, script.finale = some finale →
    IsEnding finale.ending = true ∧ ∃ arrival ∈ arrived, asInput arrival = finale.ending

theorem faithful_extends {arrived : List Arrival} {player : Player} {script next : Script}
    (filed : Filed player) (heard : Heard arrived player.toRecording)
    (faithful : Faithful arrived script) (extended : Extends player script next) :
    Faithful arrived next := by
  cases extended with
  | same => exact faithful
  | turn turns turn chunks active seated who inRound told whole =>
      refine ⟨?_, fun finale none => by cases none⟩
      intro shown member error listed
      rcases List.mem_append.mp member with old | new
      · exact faithful.failures shown old error listed
      · rw [List.mem_singleton.mp new, Option.mem_toList] at listed
        have named := (filed _ _ listed).2
        exact ⟨seatAt turns.length, by rw [named, who]⟩
  | finale turns finale ends =>
      refine ⟨faithful.failures, ?_⟩
      intro given same
      cases same
      cases ends with
      -- a failure that ended the session, or the close
      | cut silent untold ending =>
          unfold Recording.finalizeTerminal at ending
          cases failed : player.sessionError with
          | some error =>
              rw [failed] at ending
              injection ending with last
              have known := heard.failure_arrived failed
              rw [← last]
              exact ⟨known.1, _, known.2, rfl⟩
          | none =>
              rw [failed] at ending
              by_cases closed : player.closed = true
              · rw [if_pos closed] at ending
                injection ending with last
                rw [← last]
                exact ⟨rfl, _, heard.closed.mp closed, rfl⟩
              · rw [if_neg closed] at ending
                cases ending
      | plain verdict known empty untold ending =>
          rw [ending]
          exact ⟨rfl, _, heard.verdict_arrived known, rfl⟩
      | told turn verdict active unseated known round whole ending =>
          rw [ending]
          exact ⟨rfl, _, heard.verdict_arrived known, rfl⟩

theorem faithful_grows {arrived : List Arrival} {script : Script} (arrival : Arrival)
    (faithful : Faithful arrived script) : Faithful (arrived ++ [arrival]) script where
  failures := faithful.failures
  ending := by
    intro finale same
    obtain ⟨ending, source, member, shown⟩ := faithful.ending finale same
    exact ⟨ending, source, List.mem_append_left _ member, shown⟩

/-- The recording says what has arrived, and the script names nothing else. -/
structure Sound (arrived : List Arrival) (player : Player) (script : Script) : Prop where
  filed : Filed player
  heard : Heard arrived player.toRecording
  faithful : Faithful arrived script

theorem sound_invariant (admits : Player → Arrival → Prop) :
    Invariant admits anySession Sound where
  start := fun first => ⟨filed_reset first, heard_reset first,
    ⟨fun _ member => (nomatch member), fun _ ended => (nomatch ended)⟩⟩
  arrive := fun arrival _ _ sound _ =>
    ⟨filed_receive arrival sound.filed, heard_receive arrival sound.heard,
      faithful_grows arrival sound.faithful⟩
  pace := fun _ _ _ sound => ⟨sound.filed, sound.heard, sound.faithful⟩
  move := fun _ _ sound move extended =>
    ⟨filed_move move sound.filed, move_recording move ▸ sound.heard,
      faithful_extends sound.filed sound.heard sound.faithful extended⟩

/-- Empty turns up to the end of the round, then the end of the socket. -/
def completed (turns : List Shown) : Script where
  turns := turns ++ List.replicate ((4 - turns.length % 4) % 4) ⟨[], []⟩
  finale := some ⟨0, [], .status .closed⟩

theorem completed_complete (turns : List Shown)
    (failures : ∀ shown ∈ turns, ∀ error ∈ shown.errors,
      ∃ seat, error.persona = some (panelist seat)) : Complete (completed turns) where
  wholeRounds := by
    simp only [completed, List.length_append, List.length_replicate]
    omega
  failures := by
    intro shown member error listed
    rcases List.mem_append.mp member with old | pad
    · exact failures shown old error listed
    · rw [List.eq_of_mem_replicate pad] at listed
      cases listed
  ending := ⟨_, rfl, rfl⟩

theorem turns_prefix_completed (turns : List Shown) :
    renderTurns 0 turns <+: (completed turns).render := by
  unfold Script.render completed
  rw [render_turns_append, List.append_assoc]
  exact List.prefix_append _ _

theorem stage_prefix {player : Player} {log : List DebateInput} {script : Script}
    (stage : Stage player log script)
    (failures : ∀ shown ∈ script.turns, ∀ error ∈ shown.errors,
      ∃ seat, error.persona = some (panelist seat))
    (ending : ∀ finale, script.finale = some finale → IsEnding finale.ending = true) :
    ∃ whole, Complete whole ∧ log <+: whole.render := by
  cases stage with
  | interval turns now =>
      exact ⟨_, completed_complete turns failures,
        (List.prefix_append log _).trans (now.shown ▸ turns_prefix_completed turns)⟩
  | handed turns now =>
      exact ⟨_, completed_complete turns failures,
        (List.prefix_append log _).trans (now.shown ▸ turns_prefix_completed turns)⟩
  | speaking turns turn chunks now =>
      refine ⟨completed (turns ++ [⟨chunks, []⟩]), completed_complete _ ?_, ?_⟩
      · intro shown member error listed
        rcases List.mem_append.mp member with old | new
        · exact failures shown old error listed
        · rw [List.mem_singleton.mp new] at listed
          cases listed
      · refine List.IsPrefix.trans ?_ (turns_prefix_completed _)
        rw [render_turns_snoc, now.shown, renderTurn, ← List.append_assoc]
        exact List.prefix_append _ _
  | closing turns turn chunks now =>
      refine ⟨⟨turns, some ⟨turn.round, chunks, .status .closed⟩⟩,
        ⟨now.whole, failures, _, rfl, rfl⟩, ?_⟩
      rw [now.shown]
      exact ⟨[.status .closed], List.append_assoc _ _ _⟩
  | concluded turns finale now =>
      refine ⟨⟨turns, some finale⟩, ⟨now.whole, failures, finale, rfl, ending finale rfl⟩, ?_⟩
      rw [now.shown]
      exact List.prefix_refl _

theorem tokens_not_ending (persona : PersonaId) (round : Nat) (chunks : List Text)
    (input : DebateInput) (member : input ∈ tokens persona round chunks) :
    IsEnding input = false := by
  obtain ⟨delta, _, rfl⟩ := List.mem_map.mp member
  rfl

theorem turn_not_ending (place : Nat) (shown : Shown)
    (failures : ∀ error ∈ shown.errors, ∃ seat, error.persona = some (panelist seat))
    (input : DebateInput) (member : input ∈ renderTurn place shown) :
    IsEnding input = false := by
  rcases List.mem_append.mp member with token | rest
  · exact tokens_not_ending _ _ _ input token
  · rcases List.mem_append.mp rest with signal | error
    · rcases List.mem_append.mp signal with done | round
      · rw [List.mem_singleton.mp done]
        rfl
      · split at round
        · rw [List.mem_singleton.mp round]
          rfl
        · cases round
    · obtain ⟨failure, listed, rfl⟩ := List.mem_map.mp error
      obtain ⟨seat, named⟩ := failures failure listed
      have moderator := panelist_ne_moderator seat
      simp [IsEnding, ErrorEvent.terminal, named, moderator]

theorem turns_not_ending (place : Nat) (turns : List Shown)
    (failures : ∀ shown ∈ turns, ∀ error ∈ shown.errors,
      ∃ seat, error.persona = some (panelist seat))
    (input : DebateInput) (member : input ∈ renderTurns place turns) :
    IsEnding input = false := by
  induction turns generalizing place with
  | nil => cases member
  | cons shown rest ih =>
      rcases List.mem_append.mp member with first | later
      · exact turn_not_ending place shown (failures shown List.mem_cons_self) input first
      · exact ih (place + 1)
          (fun other listed => failures other (List.mem_cons_of_mem _ listed)) later

theorem stage_ending {player : Player} {log : List DebateInput} {script : Script}
    (stage : Stage player log script)
    (failures : ∀ shown ∈ script.turns, ∀ error ∈ shown.errors,
      ∃ seat, error.persona = some (panelist seat))
    (input : DebateInput) (member : input ∈ log) (ends : IsEnding input = true) :
    ∃ finale, script.finale = some finale ∧ finale.ending = input := by
  have inTurns : ∀ turns : List Shown, script.turns = turns →
      input ∈ renderTurns 0 turns → False := by
    intro turns same listed
    subst same
    rw [turns_not_ending 0 script.turns failures input listed] at ends
    cases ends
  have inTokens : ∀ persona round chunks, input ∈ tokens persona round chunks → False := by
    intro persona round chunks listed
    rw [tokens_not_ending persona round chunks input listed] at ends
    cases ends
  cases stage with
  | interval turns now =>
      exact (inTurns turns rfl (now.shown ▸ List.mem_append_left _ member)).elim
  | handed turns now =>
      exact (inTurns turns rfl (now.shown ▸ List.mem_append_left _ member)).elim
  | speaking turns turn chunks now =>
      rw [now.shown] at member
      rcases List.mem_append.mp member with earlier | told
      · exact (inTurns turns rfl earlier).elim
      · exact (inTokens _ _ _ told).elim
  | closing turns turn chunks now =>
      rw [now.shown] at member
      rcases List.mem_append.mp member with earlier | told
      · exact (inTurns turns rfl earlier).elim
      · exact (inTokens _ _ _ told).elim
  | concluded turns finale now =>
      rw [now.shown] at member
      rcases List.mem_append.mp member with earlier | last
      · exact (inTurns turns rfl earlier).elim
      · rcases List.mem_append.mp last with told | ending
        · exact (inTokens _ _ _ told).elim
        · exact ⟨finale, rfl, (List.mem_singleton.mp ending).symm⟩

theorem session_played {admits : Player → Arrival → Prop} (player : Player) (ops : List Op)
    (inSession : ∀ op ∈ ops, op.inSession = true)
    (admitted : Admits admits (reset player) ops) :
    Played admits (reset player) (arrivals ops)
      ((run (feedStatus player .connecting).1 ops).2.filter ofPlayback)
      (run (feedStatus player .connecting).1 ops).1 := by
  have first : Played admits (reset player) [] [] (reset player) := .start
  have played := first.run ops inSession admitted
  rwa [List.nil_append, List.nil_append] at played

/-- The stage of a run made of feeds, firings, rates and drains only, with an
invariant of all such sessions. -/
theorem run_invariant {admits : Player → Arrival → Prop} {Holds : SessionProp}
    (invariant : Invariant admits anySession Holds) (player : Player) (ops : List Op)
    (plays : ∀ op ∈ ops, op.plays = true) (admitted : Admits admits (reset player) ops) :
    let session := run (reset player) ops
    ∃ script, Stage session.1 session.2 script ∧ Holds (arrivals ops) session.1 script := by
  have inSession : ∀ op ∈ ops, op.inSession = true := fun op member =>
    op.plays_in_session (plays op member)
  have reached := invariant.played (session_played player ops inSession admitted)
  rwa [feedStatus, List.filter_eq_self.mpr (run_of_playback _ ops plays)] at reached

/-- For any calls after `feedStatus("connecting")`, in any order and at any
pace, what playback dispatches is the beginning of a complete script, and its
ending, once dispatched, is one that was fed. -/
theorem turn_discipline (player : Player) (ops : List Op)
    (inSession : ∀ op ∈ ops, op.inSession = true) :
    let log := (run (feedStatus player .connecting).1 ops).2.filter ofPlayback
    (∃ script : Script, Complete script ∧ log <+: script.render) ∧
      ∀ input ∈ log, IsEnding input = true →
        ∃ arrival ∈ arrivals ops, asInput arrival = input := by
  intro log
  obtain ⟨script, stage, _, _, faithful⟩ := (sound_invariant _).played
    (session_played player ops inSession (admits_all _ ops))
  constructor
  · exact stage_prefix stage faithful.failures fun finale same => (faithful.ending finale same).1
  · intro input member ends
    obtain ⟨finale, same, last⟩ := stage_ending stage faithful.failures input member ends
    obtain ⟨_, arrival, arrived, shown⟩ := faithful.ending finale same
    exact ⟨arrival, arrived, shown.trans last⟩

/-- A hostile order: the verdict in the middle of the first turn, a repeated
round and a close before the turn is over. -/
def hostile : List Op :=
  [.feed (.token .skeptic 1 (units "No, not so")), .feed (.roundComplete 1),
    .feed (.verdict (units "no")), .feed (.roundComplete 1), .feedStatus .error,
    .feedStatus .closed] ++ List.replicate 8 .fire

theorem turn_discipline_hostile :
    let log := (run (feedStatus (create false) .connecting).1 hostile).2.filter ofPlayback
    .event (.personaDone .contrarian 1) ∈ log ∧
      (∃ script : Script, Complete script ∧ log <+: script.render) ∧
      ∃ arrival ∈ arrivals hostile, asInput arrival = .event (.verdict (units "no")) := by
  have discipline := turn_discipline (create false) hostile (by decide)
  intro log
  have told : .event (.personaDone .contrarian 1) ∈ log := by decide +kernel
  have ended : .event (.verdict (units "no")) ∈ log := by decide +kernel
  exact ⟨told, discipline.1, discipline.2 _ ended rfl⟩

end Council.TurnOrder

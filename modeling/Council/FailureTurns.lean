import Council.FaithfulReplay

/-!
Panelist failures in playback. The wire does not say in which round a panelist
failed, and the player files a failure under the panelist alone, so a failure
is shown in its own turn as long as playback keeps up with the recording.
-/

namespace Council.FailureTurns
open Protocol DebateReducer DebatePlayer PlayerRuns Playbill TurnOrder Spoken WireStream
  FaithfulReplay Interleavings

/-- Who has failed in which round, going by the rounds completed before. -/
structure Ledger where
  round : Nat
  failures : Nat → PersonaId → Option ErrorEvent

def Ledger.blank : Ledger where
  round := 1
  failures := fun _ _ => none

def note (ledger : Ledger) : Arrival → Ledger
  | .event (.roundComplete round) => { ledger with round := max ledger.round (round + 1) }
  | .event (.error error) =>
      match error.persona with
      | none => ledger
      | some persona =>
          { ledger with
            failures := Function.update ledger.failures ledger.round
              (Function.update (ledger.failures ledger.round) persona (some error)) }
  | _ => ledger

def ledgerOf (arrived : List Arrival) : Ledger := arrived.foldl note .blank

theorem ledger_of_snoc (arrived : List Arrival) (arrival : Arrival) :
    ledgerOf (arrived ++ [arrival]) = note (ledgerOf arrived) arrival := by
  simp [ledgerOf]

/-- The cursor is past this seat's turn of the round. -/
def Past (round : Nat) (seat : Seat) : Cursor → Prop
  | .panelist reached index => round < reached ∨ (round = reached ∧ seat < index)
  | _ => True

instance (round : Nat) (seat : Seat) : DecidablePred (Past round seat) := fun cursor =>
  match cursor with
  | .panelist reached index =>
      inferInstanceAs (Decidable (round < reached ∨ (round = reached ∧ seat < index)))
  | .moderator => isTrue trivial
  | .done => isTrue trivial

/-- A panelist's failure is fed only once playback is past that panelist's turn
of the last completed round. -/
def InStep (player : Player) : Arrival → Prop
  | .event (.error ⟨some persona, _⟩) =>
      ∀ seat, panelist seat = persona → Past player.maxPanelRound seat player.cursor
  | _ => True

instance (player : Player) : DecidablePred (InStep player) := fun arrival =>
  match arrival with
  | .event (.error ⟨some persona, _⟩) =>
      inferInstanceAs (Decidable (∀ seat, panelist seat = persona →
        Past player.maxPanelRound seat player.cursor))
  | .event (.error ⟨none, _⟩) => isTrue trivial
  | .event (.token _ _ _) => isTrue trivial
  | .event (.personaDone _ _) => isTrue trivial
  | .event (.roundComplete _) => isTrue trivial
  | .event (.verdict _) => isTrue trivial
  | .close => isTrue trivial

/-- The failure the ledger has for a place in the playing order. -/
def Ledger.due (ledger : Ledger) (place : Nat) : Option ErrorEvent :=
  ledger.failures (roundAt place) (panelist (seatAt place))

/-- Shown turns carry what was due in them, the next turn of every panelist
will carry what waits for it, and nothing is due later. -/
structure Accounted (ledger : Ledger) (player : Player) (script : Script) : Prop where
  recording : ledger.round = player.maxPanelRound + 1
  shown : ∀ index (inside : index < script.turns.length),
    roundAt index < ledger.round ∧ script.turns[index].errors = (ledger.due index).toList
  waiting : ∀ place, script.turns.length ≤ place → place < script.turns.length + 4 →
    player.personaErrors (panelist (seatAt place)) = ledger.due place
  nothing : ∀ place, script.turns.length + 4 ≤ place → ledger.due place = none
  leaving : (∀ round seat, player.cursor ≠ .panelist round seat) →
    player.terminalKnown = true

theorem accounted_reset (player : Player) :
    Accounted .blank (reset player) ⟨[], none⟩ where
  recording := rfl
  shown := fun _ inside => nomatch inside
  waiting := fun _ _ _ => rfl
  nothing := fun _ _ => rfl
  leaving := fun leaving => absurd rfl (leaving 1 0)

section Arrivals
variable {final : Nat} {whole arrived : List Arrival} {player after : Player}
  {script : Script} {log : List DebateInput} {ledger later : Ledger}

theorem accounted_frame (accounted : Accounted ledger player script)
    (round : later.round = ledger.round) (due : ∀ place, later.due place = ledger.due place)
    (rounds : after.roundComplete = player.roundComplete)
    (waiting : ∀ seat, after.personaErrors (panelist seat) =
      player.personaErrors (panelist seat))
    (cursor : after.cursor = player.cursor)
    (terminal : player.terminalKnown = true → after.terminalKnown = true) :
    Accounted later after script where
  recording := by
    have same : after.maxPanelRound = player.maxPanelRound := congrArg (·.sup id) rounds
    rw [round, accounted.recording, same]
  shown := by
    intro index inside
    rw [round, due]
    exact accounted.shown index inside
  waiting := by
    intro place low high
    rw [waiting, due]
    exact accounted.waiting place low high
  nothing := by
    intro place beyond
    rw [due]
    exact accounted.nothing place beyond
  leaving := by
    rw [cursor]
    exact fun leaving => terminal (accounted.leaving leaving)

theorem accounted_round (accounted : Accounted ledger player script) (round : Nat) :
    Accounted (note ledger (.event (.roundComplete round)))
      (receive player (.event (.roundComplete round))) script where
  recording := by
    have last : (insert round player.roundComplete).sup id = max round player.maxPanelRound :=
      Finset.sup_insert
    change max ledger.round (round + 1) = (insert round player.roundComplete).sup id + 1
    rw [last, accounted.recording]
    omega
  shown := by
    intro index inside
    have old := accounted.shown index inside
    exact ⟨Nat.lt_of_lt_of_le old.1 (Nat.le_max_left _ _), old.2⟩
  waiting := accounted.waiting
  nothing := accounted.nothing
  leaving := accounted.leaving

theorem stage_cursor (stage : Stage player log script) :
    player.cursor = .panelist (roundAt script.turns.length) (seatAt script.turns.length) ∨
      ∀ round seat, player.cursor ≠ .panelist round seat := by
  cases stage with
  | interval turns now => exact .inl now.next
  | speaking turns turn chunks now => exact .inl now.next
  | handed turns now => exact .inr (by simp [now.next])
  | closing turns turn chunks now => exact .inr (by simp [now.next])
  | concluded turns finale now => exact .inr (by simp [now.next])

theorem caught_up_place (stage : Stage player log script)
    (accounted : Accounted ledger player script)
    (seated : player.terminalKnown = false) (seat : Seat)
    (caughtUp : Past player.maxPanelRound seat player.cursor) :
    script.turns.length ≤ 4 * player.maxPanelRound + seat.val ∧
      4 * player.maxPanelRound + seat.val < script.turns.length + 4 := by
  have seatBelow := seat.isLt
  constructor
  · by_contra beyond
    have last := (accounted.shown (script.turns.length - 1) (by omega)).1
    rw [accounted.recording, roundAt] at last
    omega
  · rcases stage_cursor stage with next | leaving
    · rw [next] at caughtUp
      rcases caughtUp with ahead | ⟨level, passed⟩
      · rw [roundAt] at ahead
        omega
      · have position : seat.val < script.turns.length % 4 := passed
        rw [roundAt] at level
        omega
    · rw [accounted.leaving leaving] at seated
      cases seated

theorem same_seat_place (place target turns : Nat) (low : turns ≤ place)
    (high : place < turns + 4) (targetLow : turns ≤ target) (targetHigh : target < turns + 4)
    (same : seatAt place = seatAt target) : place = target := by
  have seats : place % 4 = target % 4 := congrArg Fin.val same
  omega

theorem accounted_failure (accounted : Accounted ledger player script) (seat : Seat)
    (event : ErrorEvent) (named : event.persona = some (panelist seat))
    (low : script.turns.length ≤ 4 * player.maxPanelRound + seat.val)
    (high : 4 * player.maxPanelRound + seat.val < script.turns.length + 4) :
    Accounted (note ledger (.event (.error event))) (receive player (.event (.error event)))
      script := by
  have seatBelow := seat.isLt
  -- the turn this failure waits for
  have place : ∃ target, target = 4 * player.maxPanelRound + seat.val := ⟨_, rfl⟩
  obtain ⟨target, position⟩ := place
  have seatTarget : seatAt target = seat := by
    apply Fin.ext
    change target % 4 = seat.val
    omega
  have roundTarget : roundAt target = ledger.round := by
    rw [accounted.recording, roundAt]
    omega
  have noted : note ledger (.event (.error event)) =
      { ledger with
        failures := Function.update ledger.failures ledger.round
          (Function.update (ledger.failures ledger.round) (panelist seat) (some event)) } := by
    simp [note, named]
  have recorded := record_failure player event _ named (panelist_ne_moderator seat)
  have dueTarget : (note ledger (.event (.error event))).due target = some event := by
    rw [noted, Ledger.due, seatTarget, roundTarget]
    simp
  -- no other turn waits for it
  have dueOther : ∀ place, place ≠ target →
      (note ledger (.event (.error event))).due place = ledger.due place := by
    intro place apart
    rw [noted, Ledger.due]
    by_cases sameRound : roundAt place = ledger.round
    · have otherSeat : panelist (seatAt place) ≠ panelist seat := fun same =>
        apart (place_unique _ _ ((panelist_injective _ _ same).trans seatTarget.symm)
          (sameRound.trans roundTarget.symm))
      simp [Ledger.due, sameRound, otherSeat]
    · simp [Ledger.due, sameRound]
  refine ⟨?_, ?_, ?_, ?_, ?_⟩
  · rw [noted, receive, recorded]
    exact accounted.recording
  -- a turn already played lies before the target
  · intro index inside
    have old := accounted.shown index inside
    have apart : index ≠ target := by omega
    rw [dueOther index apart, noted]
    exact old
  · intro place atLeast below
    rw [receive, recorded]
    change Function.update player.personaErrors (panelist seat) (some event) _ = _
    by_cases same : seatAt place = seat
    · have here : place = target := same_seat_place place target _ atLeast below
        (by omega) (by omega) (same.trans seatTarget.symm)
      rw [here, dueTarget, seatTarget, Function.update_self]
    · have otherSeat : panelist (seatAt place) ≠ panelist seat :=
        fun equal => same (panelist_injective _ _ equal)
      have apart : place ≠ target := fun equal => same (equal ▸ seatTarget)
      rw [Function.update_of_ne otherSeat, dueOther place apart]
      exact accounted.waiting place atLeast below
  · intro place beyond
    rw [dueOther place (by omega)]
    exact accounted.nothing place beyond
  · rw [receive, recorded]
    exact accounted.leaving

theorem note_terminal (ledger : Ledger) (event : ErrorEvent) (terminal : event.terminal = true) :
    (note ledger (.event (.error event))).round = ledger.round ∧
      ∀ place, (note ledger (.event (.error event))).due place = ledger.due place := by
  cases named : event.persona with
  | none => simp [note, named]
  | some persona =>
      have moderator : persona = MODERATOR_ID := by
        simpa [ErrorEvent.terminal, named] using terminal
      refine ⟨by simp [note, named], fun place => ?_⟩
      have apart : panelist (seatAt place) ≠ persona := moderator ▸ panelist_ne_moderator _
      by_cases here : roundAt place = ledger.round
      · simp [note, named, Ledger.due, here, apart]
      · simp [note, named, Ledger.due, here]

theorem accounted_arrive (orderly : Orderly final whole) (stage : Stage player log script)
    (heard : Heard arrived player.toRecording) (arrival : Arrival)
    (begun : arrived ++ [arrival] <+: whole)
    (accounted : Accounted ledger player script) (inStep : InStep player arrival) :
    Accounted (note ledger arrival) (receive player arrival) script := by
  cases arrival with
  | close =>
      exact accounted_frame accounted rfl (fun _ => rfl) rfl (fun _ => rfl) rfl
        (fun _ => by simp [receive, Recording.terminalKnown])
  | event event =>
      cases event with
      | token =>
          exact accounted_frame accounted rfl (fun _ => rfl) rfl (fun _ => rfl) rfl id
      | personaDone =>
          exact accounted_frame accounted rfl (fun _ => rfl) rfl (fun _ => rfl) rfl id
      | roundComplete round =>
          exact accounted_round accounted round
      | verdict =>
          exact accounted_frame accounted rfl (fun _ => rfl) rfl (fun _ => rfl) rfl
            (fun _ => rfl)
      | error event =>
          rcases terminal_or_seated event with terminal | ⟨persona, named, seated⟩
          · have recorded := record_terminal player event terminal
            have unseated := note_terminal ledger event terminal
            apply accounted_frame accounted unseated.1 unseated.2
            all_goals rw [receive, recorded]
            · exact fun _ => rfl
            · exact fun _ => by simp [Recording.terminalKnown]
          · obtain ⟨seat, rfl⟩ := seat_of_panelist persona seated
            have running : player.terminalKnown = false := by
              by_contra known
              obtain ⟨ending, member, last⟩ :=
                terminal_arrived heard (by simpa using known)
              obtain ⟨rest, split⟩ := begun
              rw [List.append_assoc] at split
              cases (orderly_precedes orderly split _ _ member List.mem_cons_self).ended last
            obtain ⟨persona, message⟩ := event
            cases named
            have place := caught_up_place stage accounted running seat (inStep seat rfl)
            exact accounted_failure accounted seat _ rfl place.1 place.2

end Arrivals

section Moves
variable {before after : Player} {script next : Script} {log dispatched : List DebateInput}
  {ledger : Ledger}

theorem accounted_kept (stage : Stage before log script)
    (accounted : Accounted ledger before script) (move : Move before dispatched after)
    (ongoing : Ongoing before) :
    Accounted ledger after script := by
  obtain ⟨recording, shown, waiting, nothing, leaving⟩ := accounted
  cases move with
  | handOff round index idle next missing terminal =>
      exact ⟨recording, shown, waiting, nothing, fun _ => terminal⟩
  | finish idle next =>
      exact ⟨recording, shown, waiting, nothing, fun _ => leaving (by simp [next])⟩
  | announce verdict idle next =>
      exact ⟨recording, shown, waiting, nothing, fun _ => leaving (by simp [next])⟩
  | openPanelist => exact ⟨recording, shown, waiting, nothing, leaving⟩
  | openModerator => exact ⟨recording, shown, waiting, nothing, leaving⟩
  | reveal => exact ⟨recording, shown, waiting, nothing, leaving⟩
  | defer turn index speaking told seated =>
      have more := ongoing turn index speaking seated
      omega
  | conclude turn speaking told unseated =>
      refine ⟨recording, shown, waiting, nothing, fun _ => ?_⟩
      obtain ⟨turns, chunks, rfl, now | now⟩ := stage.at_turn turn speaking
      · cases now.seated.symm.trans unseated
      · exact leaving (by simp [now.next])

/-- The end of a turn shows the failure that waits for it. -/
theorem accounted_turn {turns : List Shown} {turn : ActiveTurn} {chunks : List Text}
    (accounted : Accounted ledger before ⟨turns, none⟩) (index : Seat)
    (recorded : roundAt turns.length ∈ before.roundComplete)
    (who : turn.persona = panelist (seatAt turns.length)) :
    Accounted ledger (deferTurn before turn index)
      ⟨turns ++ [⟨chunks, (before.personaErrors turn.persona).toList⟩], none⟩ where
  recording := accounted.recording
  shown := by
    intro position inside
    simp only [List.length_append, List.length_singleton] at inside
    by_cases old : position < turns.length
    · simp only [List.getElem_append_left old]
      exact accounted.shown position old
    · have last : position = turns.length := by omega
      subst last
      have waiting := accounted.waiting turns.length (Nat.le_refl _) (by simp)
      have known := recorded_round_le before _ recorded
      constructor
      · rw [accounted.recording]
        omega
      · simp [who, waiting]
  waiting := by
    intro place low high
    simp only [List.length_append, List.length_singleton] at low high
    change Function.update before.personaErrors turn.persona none _ = _
    by_cases again : place = turns.length + 4
    · have seat : seatAt place = seatAt turns.length := by
        apply Fin.ext
        change place % 4 = turns.length % 4
        omega
      rw [seat, who, Function.update_self, accounted.nothing place (by simp; omega)]
    · have apart : panelist (seatAt place) ≠ turn.persona := by
        rw [who]
        intro same
        have seats : place % 4 = turns.length % 4 :=
          congrArg Fin.val (panelist_injective _ _ same)
        omega
      rw [Function.update_of_ne apart]
      exact accounted.waiting place (by simp; omega) (by simp; omega)
  nothing := by
    intro place beyond
    simp only [List.length_append, List.length_singleton] at beyond
    exact accounted.nothing place (by simp; omega)
  leaving := by
    intro leaving
    obtain ⟨round, seat, same⟩ := next_cursor_panelist turn.round index
    exact absurd same (leaving round seat)

theorem accounted_move (stage : Stage before log script)
    (accounted : Accounted ledger before script) (move : Move before dispatched after)
    (extended : Extends before script next) : Accounted ledger after next := by
  cases extended with
  | same script ongoing => exact accounted_kept stage accounted move ongoing
  | finale turns finale ends ongoing =>
      have kept := accounted_kept stage accounted move ongoing
      exact ⟨kept.recording, kept.shown, kept.waiting, kept.nothing, kept.leaving⟩
  | turn turns turn chunks active seated who inRound told whole =>
      obtain ⟨current, _, same, now | now⟩ := stage.at_turn turn active
      · cases same
        cases move with
        | handOff round index idle => cases idle.symm.trans active
        | finish idle => cases idle.symm.trans active
        | announce verdict idle => cases idle.symm.trans active
        | openPanelist round index idle => cases idle.symm.trans active
        | openModerator idle => cases idle.symm.trans active
        | reveal current speaking more =>
            cases speaking.symm.trans active
            omega
        | defer current index speaking =>
            cases speaking.symm.trans active
            exact accounted_turn accounted index now.buffered who
        | conclude current speaking _ unseated =>
            cases speaking.symm.trans active
            cases unseated.symm.trans seated
      · cases now.unseated.symm.trans seated

end Moves

/-- The accounts hold in every session that keeps in step with an orderly
stream. -/
theorem accounted_invariant {final : Nat} {whole : List Arrival}
    (orderly : Orderly final whole) :
    Invariant InStep Sound (fun arrived player script =>
      arrived <+: whole → Accounted (ledgerOf arrived) player script) where
  start := fun first _ => accounted_reset first
  arrive := by
    intro arrived log player script arrival stage sound holds inStep begun
    rw [ledger_of_snoc]
    exact accounted_arrive orderly stage sound.heard arrival begun
      (holds ((List.prefix_append _ _).trans begun)) inStep
  pace := by
    intro arrived player script timer rate draining holds begun
    exact accounted_frame (holds begun) rfl (fun _ => rfl) rfl (fun _ => rfl) rfl id
  move := fun stage _ holds move extended begun =>
    accounted_move stage (holds begun) move extended

def failed (debate : Debate) (round : Nat) (seat : Seat) : Option ErrorEvent :=
  (debate.contribution round seat).failure.map fun message =>
    ⟨some (panelist seat), message⟩

/-- A completed round is settled: later arrivals leave it alone. -/
theorem ledger_settled (ledger : Ledger) (arrived : List Arrival) (round : Nat)
    (settled : round < ledger.round) :
    (arrived.foldl note ledger).failures round = ledger.failures round := by
  induction arrived generalizing ledger with
  | nil => rfl
  | cons arrival rest ih =>
      have first : round < (note ledger arrival).round ∧
          (note ledger arrival).failures round = ledger.failures round := by
        cases arrival with
        | close => exact ⟨settled, rfl⟩
        | event event =>
            cases event with
            | roundComplete other =>
                exact ⟨Nat.lt_of_lt_of_le settled (Nat.le_max_left _ _), rfl⟩
            | error error =>
                cases named : error.persona with
                | none => simp [note, named, settled]
                | some persona =>
                    have apart : round ≠ ledger.round := Nat.ne_of_lt settled
                    simp [note, named, settled, apart]
            | _ => exact ⟨settled, rfl⟩
      rw [List.foldl_cons, ih _ first.1, first.2]

def errorOf (persona : PersonaId) : DebateEvent → Option ErrorEvent
  | .error error => if error.persona = some persona then some error else none
  | _ => none

theorem note_segment (ledger : Ledger) (events : List DebateEvent)
    (unmarked : ∀ round, .roundComplete round ∉ events) :
    ((events.map .event).foldl note ledger).round = ledger.round ∧
      ∀ round persona, ((events.map .event).foldl note ledger).failures round persona =
        if round = ledger.round then
          ((events.filterMap (errorOf persona)).getLast?).or (ledger.failures round persona)
        else ledger.failures round persona := by
  induction events using List.reverseRecOn with
  | nil => exact ⟨rfl, fun round persona => by simp⟩
  | append_singleton rest event ih =>
      have before := ih fun round member => unmarked round (List.mem_append_left _ member)
      rw [List.map_append, List.foldl_append]
      generalize (rest.map Arrival.event).foldl note ledger = reached at before ⊢
      obtain ⟨here, entries⟩ := before
      -- an event that is no failure of the panelist changes nothing for it
      have quiet : ∀ persona, errorOf persona event = none →
          ((rest ++ [event]).filterMap (errorOf persona)).getLast? =
            (rest.filterMap (errorOf persona)).getLast? := by
        intro persona silent
        simp [silent]
      cases event with
      | roundComplete round => exact absurd (by simp) (unmarked round)
      | error error =>
          cases named : error.persona with
          | none =>
              refine ⟨by simpa [note, named] using here, fun round persona => ?_⟩
              rw [quiet persona (by simp [errorOf, named])]
              simpa [note, named] using entries round persona
          | some failing =>
              refine ⟨by simpa [note, named] using here, fun round persona => ?_⟩
              by_cases same : persona = failing
              · subst same
                by_cases sameRound : round = ledger.round
                · simp [note, named, here, sameRound, errorOf]
                · simpa [note, named, here, sameRound] using entries round persona
              · have other : ¬ failing = persona := fun equal => same equal.symm
                rw [quiet persona (by simp [errorOf, named, other])]
                by_cases sameRound : round = ledger.round
                · simpa [note, named, here, sameRound, same] using entries round persona
                · simpa [note, named, here, sameRound] using entries round persona
      | token => exact ⟨here, fun round persona => by rw [quiet persona rfl]; exact entries _ _⟩
      | personaDone =>
          exact ⟨here, fun round persona => by rw [quiet persona rfl]; exact entries _ _⟩
      | verdict => exact ⟨here, fun round persona => by rw [quiet persona rfl]; exact entries _ _⟩

theorem lane_errors (debate : Debate) (round : Nat) (seat : Seat) :
    (debate.lane round seat).filterMap (errorOf (panelist seat)) =
      (failed debate round seat).toList := by
  have tokens : ∀ words : List Text, (words.map fun delta =>
      DebateEvent.token (panelist seat) round delta).filterMap (errorOf (panelist seat)) = [] := by
    intro words
    simp [errorOf]
  rw [Debate.lane, List.filterMap_append, tokens, failed, Contribution.ending]
  cases (debate.contribution round seat).failure <;> simp [errorOf]

theorem lane_errors_apart (debate : Debate) (round : Nat) (seat other : Seat)
    (apart : other ≠ seat) (event : DebateEvent) (member : event ∈ debate.lane round other) :
    errorOf (panelist seat) event = none := by
  have different : panelist other ≠ panelist seat :=
    fun same => apart (panelist_injective _ _ same)
  rcases lane_cases debate round other event member with ⟨delta, rfl⟩ | rfl | ⟨message, rfl⟩
  · rfl
  · rfl
  · simp [errorOf, different]

theorem ledger_rounds {debate : Debate} {first count : Nat} {body : List DebateEvent}
    (rounds : Rounds debate.lane .roundComplete first count body) (ledger : Ledger)
    (here : ledger.round = first)
    (blank : ∀ round, first ≤ round → ∀ persona, ledger.failures round persona = none) :
    ((body.map .event).foldl note ledger).round = first + count ∧
      ∀ round seat, first ≤ round → round < first + count →
        ((body.map .event).foldl note ledger).failures round (panelist seat) =
          failed debate round seat := by
  induction rounds generalizing ledger with
  | empty => exact ⟨here, fun round seat low high => by omega⟩
  | @more first count block rest interleaves tail ih =>
      have unmarked : ∀ round, .roundComplete round ∉ block := by
        intro round member
        obtain ⟨seat, inside⟩ := interleaves.mem _ member
        rcases lane_cases _ _ _ _ inside with ⟨_, same⟩ | same | ⟨_, same⟩ <;> cases same
      -- the block of the first round files its failures, then its mark moves on
      have segment := note_segment ledger block unmarked
      rw [List.map_append, List.map_cons, List.foldl_append, List.foldl_cons]
      generalize (block.map Arrival.event).foldl note ledger = reached at segment
      have next : (note reached (.event (.roundComplete first))).round = first + 1 := by
        simp [note, segment.1, here]
      have entries : ∀ seat, (note reached (.event (.roundComplete first))).failures first
          (panelist seat) = failed debate first seat := by
        intro seat
        have errors := interleaves.filter_map (errorOf (panelist seat)) seat
          (fun other apart => lane_errors_apart debate first seat other apart)
        change reached.failures first (panelist seat) = _
        rw [segment.2, if_pos here.symm, errors, lane_errors, blank first (Nat.le_refl _)]
        cases failed debate first seat <;> rfl
      have later := ih _ next fun round low persona => by
        change reached.failures round persona = none
        rw [segment.2, if_neg (by omega)]
        exact blank round (by omega) persona
      refine ⟨by rw [later.1]; omega, fun round seat low high => ?_⟩
      by_cases same : round = first
      · subst same
        rw [ledger_settled _ _ _ (by omega), entries seat]
      · exact later.2 round seat (by omega) (by omega)

theorem ledger_conformant {debate : Debate} {stream : List DebateEvent}
    (conformant : Conformant debate stream) (round : Nat) (seat : Seat) (low : 0 < round)
    (high : round ≤ debate.rounds) :
    (ledgerOf (stream.map .event)).failures round (panelist seat) =
      failed debate round seat := by
  obtain ⟨body, rounds, rfl⟩ := conformant
  have entries := ledger_rounds rounds .blank rfl fun _ _ _ => rfl
  rw [ledgerOf, List.map_append, List.foldl_append, ledger_settled _ _ _ (by omega)]
  exact entries.2 round seat low (by omega)

theorem ledger_cut {debate : Debate} {stream : List DebateEvent} {arrived : List Arrival}
    (conformant : Conformant debate stream) (begun : arrived <+: stream.map .event)
    (place : Nat) (settled : roundAt place < (ledgerOf arrived).round)
    (high : roundAt place ≤ debate.rounds) :
    (ledgerOf arrived).due place = failed debate (roundAt place) (seatAt place) := by
  obtain ⟨rest, split⟩ := begun
  have whole := ledger_conformant conformant (roundAt place) (seatAt place)
    (Nat.succ_pos _) high
  have kept := ledger_settled (ledgerOf arrived) rest _ settled
  rw [← split, ledgerOf, List.foldl_append, ← ledgerOf.eq_def, kept] at whole
  exact whole

/-- The log is the beginning of a script that has every seat of every round,
each with exactly the failure the debate has there. -/
def FailuresInTurn (debate : Debate) (log : List DebateInput) : Prop :=
  ∃ script : Script, script.turns.length = 4 * debate.rounds ∧
    (∀ index (inside : index < script.turns.length), script.turns[index].errors =
      (failed debate (roundAt index) (seatAt index)).toList) ∧
    log <+: script.render

section Scripts
variable {debate : Debate} {player : Player} {log : List DebateInput} {turns : List Shown}

/-- The turns still to come, silent but for their failures. -/
def remaining (debate : Debate) (place : Nat) : List Shown :=
  (List.range' place (4 * debate.rounds - place)).map fun index =>
    ⟨[], (failed debate (roundAt index) (seatAt index)).toList⟩

theorem remaining_complete (fits : turns.length ≤ 4 * debate.rounds)
    (due : ∀ index (inside : index < turns.length), turns[index].errors =
      (failed debate (roundAt index) (seatAt index)).toList) :
    (turns ++ remaining debate turns.length).length = 4 * debate.rounds ∧
      ∀ index (inside : index < (turns ++ remaining debate turns.length).length),
        (turns ++ remaining debate turns.length)[index].errors =
          (failed debate (roundAt index) (seatAt index)).toList := by
  constructor
  · simp [remaining]
    omega
  · intro index inside
    by_cases old : index < turns.length
    · rw [List.getElem_append_left old]
      exact due index old
    · rw [List.getElem_append_right (Nat.le_of_not_lt old)]
      simp only [remaining, List.getElem_map, List.getElem_range', Nat.one_mul]
      rw [Nat.add_sub_cancel' (Nat.le_of_not_lt old)]

theorem turns_in_turn (turns : List Shown) (fits : turns.length ≤ 4 * debate.rounds)
    (due : ∀ index (inside : index < turns.length), turns[index].errors =
      (failed debate (roundAt index) (seatAt index)).toList)
    (shown : log <+: renderTurns 0 turns) : FailuresInTurn debate log := by
  have complete := remaining_complete fits due
  refine ⟨⟨turns ++ remaining debate turns.length, none⟩, complete.1, complete.2, ?_⟩
  apply shown.trans
  rw [Script.render, render_turns_append, List.append_assoc]
  exact List.prefix_append _ _

theorem stage_in_turn {script : Script} (stage : Stage player log script)
    (due : ∀ index (inside : index < script.turns.length), script.turns[index].errors =
      (failed debate (roundAt index) (seatAt index)).toList)
    (fits : script.turns.length ≤ 4 * debate.rounds)
    (speaking : roundAt script.turns.length ∈ player.roundComplete →
      script.turns.length < 4 * debate.rounds)
    (settled : (∀ round seat, player.cursor ≠ .panelist round seat) →
      script.turns.length = 4 * debate.rounds) : FailuresInTurn debate log := by
  cases stage with
  | interval turns now =>
      exact turns_in_turn turns fits due (now.shown ▸ List.prefix_append log _)
  | handed turns now =>
      exact turns_in_turn turns fits due (now.shown ▸ List.prefix_append log _)
  | speaking turns turn chunks now =>
      have more := speaking now.buffered
      refine turns_in_turn (turns ++
        [⟨chunks, (failed debate (roundAt turns.length) (seatAt turns.length)).toList⟩])
        (by rw [List.length_append]; exact more) ?_ ?_
      · intro index inside
        by_cases old : index < turns.length
        · rw [List.getElem_append_left old]
          exact due index old
        · have last : index = turns.length := by
            simp only [List.length_append, List.length_singleton] at inside
            omega
          subst last
          simp
      · rw [render_turns_snoc, now.shown, renderTurn, ← List.append_assoc]
        exact List.prefix_append _ _
  | closing turns turn chunks now =>
      refine ⟨⟨turns, some ⟨turn.round, chunks, .status .closed⟩⟩,
        settled (by simp [now.next]), due, ?_⟩
      rw [now.shown]
      exact ⟨[.status .closed], List.append_assoc _ _ _⟩
  | concluded turns finale now =>
      refine ⟨⟨turns, some finale⟩, settled (by simp [now.next]), due, ?_⟩
      rw [now.shown]
      exact List.prefix_refl _

end Scripts

/-- The failures among inputs that do not end the debate. -/
def survivable : DebateInput → Option ErrorEvent
  | .event (.error error) => if error.terminal then none else some error
  | _ => none

def failuresIn (inputs : List DebateInput) : List ErrorEvent := inputs.filterMap survivable

def failures (debate : Debate) (first count : Nat) : List ErrorEvent :=
  (List.range' first count).flatMap fun round =>
    (List.finRange 4).flatMap fun seat => (failed debate round seat).toList

theorem failed_survivable (debate : Debate) (round : Nat) (seat : Seat) (error : ErrorEvent)
    (known : failed debate round seat = some error) :
    survivable (.event (.error error)) = some error := by
  unfold failed at known
  obtain ⟨message, _, rfl⟩ := Option.map_eq_some_iff.mp known
  simp [survivable, ErrorEvent.terminal, panelist_ne_moderator seat]

theorem failures_lane (debate : Debate) (round : Nat) (seat : Seat) :
    failuresIn ((debate.lane round seat).map .event) = (failed debate round seat).toList := by
  have tokens : ∀ words : List Text, (words.map fun delta =>
      DebateInput.event (.token (panelist seat) round delta)).filterMap survivable = [] := by
    intro words
    simp [survivable]
  have shows := failed_survivable debate round seat
  rw [failuresIn, Debate.lane, List.map_append, List.filterMap_append, List.map_map]
  change (List.map _ _).filterMap survivable ++ _ = _
  rw [Function.comp_def, tokens]
  unfold failed Contribution.ending at *
  cases known : (debate.contribution round seat).failure with
  | none => simp [survivable]
  | some message =>
      rw [known] at shows
      simp [shows _ rfl]

theorem failures_rounds {debate : Debate} {first count : Nat} {body : List DebateEvent}
    (rounds : Rounds debate.lane .roundComplete first count body) :
    (failuresIn (body.map .event)).Perm (failures debate first count) := by
  induction rounds with
  | empty => exact .refl _
  | @more first count block rest interleaves tail ih =>
      have here : (failuresIn (block.map .event)).Perm
          ((List.finRange 4).flatMap fun seat => (failed debate first seat).toList) := by
        have lanes := (interleaves.perm.map DebateInput.event).filterMap survivable
        rw [List.map_flatMap, List.filterMap_flatMap] at lanes
        simpa only [← failures_lane, failuresIn] using lanes
      rw [failures, List.range'_succ, List.flatMap_cons, failuresIn, List.map_append,
        List.filterMap_append]
      exact here.append ih

theorem failures_places (debate : Debate) (count : Nat) :
    ((List.range (4 * count)).flatMap fun place =>
      (failed debate (roundAt place) (seatAt place)).toList) = failures debate 1 count := by
  induction count with
  | zero => rfl
  | succ count ih =>
      have seats : ∀ offset (below : offset < 4),
          roundAt (4 * count + offset) = 1 + count ∧
            seatAt (4 * count + offset) = ⟨offset, below⟩ := by
        intro offset below
        refine ⟨?_, Fin.ext ?_⟩
        · unfold roundAt
          omega
        · change (4 * count + offset) % 4 = offset
          omega
      have first := seats 0 (by decide)
      rw [Nat.add_zero] at first
      have order : List.finRange 4 = [⟨0, by decide⟩, ⟨1, by decide⟩, ⟨2, by decide⟩,
        ⟨3, by decide⟩] := by decide
      have places : 4 * (count + 1) = 4 * count + 4 := by omega
      rw [places, List.range_add, List.flatMap_append, ih, failures, failures, List.range'_concat,
        List.flatMap_append, order]
      simp [List.range_succ, seats, first]

theorem failures_turn (place : Nat) (shown : Shown)
    (failures : ∀ error ∈ shown.errors, ∃ seat, error.persona = some (panelist seat)) :
    failuresIn (renderTurn place shown) = shown.errors := by
  have tokens : (tokens (panelist (seatAt place)) (roundAt place) shown.chunks).filterMap
      survivable = [] := by
    simp [Playbill.tokens, survivable]
  have signals : ([DebateInput.event (.personaDone (panelist (seatAt place)) (roundAt place))] ++
      (if (seatAt place).val = 3 then [DebateInput.event (.roundComplete (roundAt place))]
        else [])).filterMap survivable = [] := by
    split <;> simp [survivable]
  have errors : (shown.errors.map fun error => DebateInput.event (.error error)).filterMap
      survivable = shown.errors := by
    rw [List.filterMap_map]
    refine (List.filterMap_congr fun error member => ?_).trans List.filterMap_some
    obtain ⟨seat, named⟩ := failures error member
    simp [survivable, ErrorEvent.terminal, named, panelist_ne_moderator seat]
  rw [failuresIn, renderTurn, afterTurn, List.filterMap_append, List.filterMap_append, tokens,
    signals, errors, List.nil_append, List.nil_append]

theorem failures_turns (first : Nat) (turns : List Shown)
    (failures : ∀ shown ∈ turns, ∀ error ∈ shown.errors,
      ∃ seat, error.persona = some (panelist seat)) :
    failuresIn (renderTurns first turns) = turns.flatMap Shown.errors := by
  induction turns generalizing first with
  | nil => rfl
  | cons shown rest ih =>
      have here := failures_turn first shown (failures shown List.mem_cons_self)
      have later := ih (first + 1) fun other member =>
        failures other (List.mem_cons_of_mem shown member)
      rw [renderTurns, failuresIn, List.filterMap_append, List.flatMap_cons]
      exact congrArg₂ _ here later

theorem failures_finale (finale : Finale) (ending : IsEnding finale.ending = true) :
    failuresIn finale.render = [] := by
  have last : survivable finale.ending = none := by
    cases shown : finale.ending with
    | event event =>
        rw [shown] at ending
        cases event with
        | error error =>
            have terminal : error.terminal = true := ending
            simp [survivable, terminal]
        | _ => rfl
    | _ => rfl
  simp [failuresIn, Finale.render, tokens, survivable.eq_def (.event (.token _ _ _)), last]

theorem failures_closing (debate : Debate) :
    failuresIn (debate.closing.map .event) = [] := by
  have last : survivable (.event debate.outcome.event) = none := by
    cases debate.outcome <;> rfl
  simp [failuresIn, Debate.closing, survivable.eq_def (.event (.token _ _ _)), last]

theorem failures_of_script (debate : Debate) (turns : List Shown)
    (whole : turns.length = 4 * debate.rounds)
    (due : ∀ index (inside : index < turns.length), turns[index].errors =
      (failed debate (roundAt index) (seatAt index)).toList) :
    turns.flatMap Shown.errors = failures debate 1 debate.rounds := by
  rw [← failures_places, ← whole, List.flatMap_def, List.flatMap_def]
  refine congrArg List.flatten (List.ext_getElem (by simp) fun index inside _ => ?_)
  simpa using due index (by simpa using inside)

/-- In every session of a conformant stream in which each panelist's failure is
fed once playback is past that panelist's previous turn, failures are shown
exactly once and in their own turn. -/
theorem failures_in_turn {debate : Debate} {stream : List DebateEvent}
    (conformant : Conformant debate stream) (player : Player) (ops : List Op)
    (plays : ∀ op ∈ ops, op.plays = true) (fed : arrivals ops <+: stream.map .event)
    (inStep : Admits InStep (feedStatus player .connecting).1 ops) :
    let session := run (feedStatus player .connecting).1 ops
    FailuresInTurn debate session.2 ∧
      (arrivals ops = stream.map .event → session.1.timer = none →
        (failuresIn session.2).Perm (failuresIn (stream.map .event))) := by
  have orderly := conformant_orderly conformant (List.prefix_refl stream)
  have begun := fed.trans (List.prefix_append (stream.map Arrival.event) [.close])
  obtain ⟨script, stage, ⟨⟨_, heard, faithful⟩, replaying⟩, accounting⟩ := run_invariant
    (((sound_invariant _).and (replays_invariant orderly _)).and
      ((accounted_invariant orderly).weaken And.left)) player ops plays inStep
  have replays := replaying begun
  have accounted := accounting begun
  have completed : ∀ round, .event (.roundComplete round) ∈
      stream.map Arrival.event ++ [.close] ↔ 0 < round ∧ round ≤ debate.rounds := by
    intro round
    rw [← conformant_rounds conformant round]
    simp
  have inRange : ∀ index, index < script.turns.length → roundAt index ≤ debate.rounds :=
    fun index inside => ((completed _).mp (replays.told index inside).1).2
  have due : ∀ index (inside : index < script.turns.length), script.turns[index].errors =
      (failed debate (roundAt index) (seatAt index)).toList := by
    intro index inside
    have shown := accounted.shown index inside
    rw [shown.2, ledger_cut conformant fed index shown.1 (inRange index inside)]
  -- no turn is played beyond the last round
  have fits : script.turns.length ≤ 4 * debate.rounds := by
    by_contra beyond
    have last := inRange (script.turns.length - 1) (by omega)
    unfold roundAt at last
    omega
  -- playback leaves the panelists after all their turns
  have left : (∀ round seat,
      (run (reset player) ops).1.cursor ≠ .panelist round seat) →
      script.turns.length = 4 * debate.rounds := by
    intro leaving
    have missing : ¬ (0 < roundAt script.turns.length ∧
        roundAt script.turns.length ≤ debate.rounds) :=
      fun range => replays.passed leaving ((completed _).mpr range)
    unfold roundAt at missing
    omega
  constructor
  · refine stage_in_turn stage due fits (fun recorded => ?_) left
    have range := ((completed _).mp (begun.subset ((heard.rounds _).mp recorded))).2
    unfold roundAt at range
    omega
  -- with everything fed and nothing pending the script has its finale
  · intro whole idle
    have rested := run_rests (reset player) ops (reset_rests player) idle
    have last : debate.outcome.event ∈ stream := by
      obtain ⟨body, _, rfl⟩ := conformant
      simp [Debate.closing]
    have terminal : (run (reset player) ops).1.terminalKnown = true := by
      apply terminal_of_arrived heard (.event debate.outcome.event)
      · rw [whole]
        exact List.mem_map.mpr ⟨_, last, rfl⟩
      · cases debate.outcome <;> rfl
    obtain ⟨turns, finale, rfl, ended⟩ := rested_concluded stage terminal rested
    have ending := (faithful.ending finale rfl).1
    obtain ⟨body, rounds, rfl⟩ := conformant
    change (failuresIn (run (reset player) ops).2).Perm _
    have shown : failuresIn (renderTurns 0 turns ++ finale.render) =
        failures debate 1 debate.rounds := by
      rw [failuresIn, List.filterMap_append]
      change failuresIn _ ++ failuresIn _ = _
      rw [failures_turns 0 turns faithful.failures, failures_finale finale ending,
        List.append_nil, failures_of_script debate turns (left (by simp [ended.next])) due]
    have sent :
        failuresIn ((body ++ debate.closing).map .event) = failuresIn (body.map .event) := by
      rw [failuresIn, List.map_append, List.filterMap_append]
      change failuresIn _ ++ failuresIn _ = _
      rw [failures_closing, List.append_nil]
    rw [ended.shown, shown, sent]
    exact (failures_rounds rounds).symm

theorem in_turn_failures {debate : Debate} {log : List DebateInput}
    (inTurn : FailuresInTurn debate log) :
    ∃ rest, failuresIn log <+: failures debate 1 debate.rounds ++ rest := by
  obtain ⟨script, whole, due, shown⟩ := inTurn
  refine ⟨failuresIn ((script.finale.map Finale.render).getD []), ?_⟩
  have panelists : ∀ shown ∈ script.turns, ∀ error ∈ shown.errors,
      ∃ seat, error.persona = some (panelist seat) := by
    intro shown member error listed
    obtain ⟨index, inside, rfl⟩ := List.getElem_of_mem member
    rw [due index inside, Option.mem_toList, failed, Option.map_eq_some_iff] at listed
    obtain ⟨message, _, rfl⟩ := listed
    exact ⟨_, rfl⟩
  rw [← failures_of_script debate script.turns whole due, ← failures_turns 0 _ panelists]
  have projected := shown.filterMap survivable
  rwa [Script.render, List.filterMap_append] at projected

/-- Two rounds in both of which the second panelist fails. -/
def flakyDebate : Debate where
  rounds := 2
  contribution := fun round seat =>
    if seat.val = 1 then ⟨[], some (units (if round = 1 then "timeout" else "refused"))⟩
    else ⟨[], none⟩
  synthesis := []
  outcome := .verdict (units "So.")

def flakyStream : List DebateEvent :=
  [.personaDone .skeptic 1, .error ⟨some .optimist, units "timeout"⟩,
    .personaDone .expert 1, .personaDone .contrarian 1, .roundComplete 1,
    .personaDone .skeptic 2, .error ⟨some .optimist, units "refused"⟩,
    .personaDone .expert 2, .personaDone .contrarian 2, .roundComplete 2,
    .verdict (units "So.")]

theorem flaky_conformant : Conformant flakyDebate flakyStream := by
  have first : Interleaves (flakyDebate.lane 1) (flakyStream.take 4) :=
    .of_keyed seatOf _ _ (by decide)
  have second : Interleaves (flakyDebate.lane 2) ((flakyStream.drop 5).take 4) :=
    .of_keyed seatOf _ _ (by decide)
  exact ⟨_, .more first (.more second (.empty 3)), by decide⟩

/-- Fed as a whole before the second panelist's first turn is over, the stream
loses one of the two failures: the later one takes its place. -/
theorem failure_overwritten :
    let ops := flakyStream.map Op.feed ++ List.replicate 12 Op.fire
    let session := run (feedStatus (create false) .connecting).1 ops
    Conformant flakyDebate flakyStream ∧ flakyDebate.outcome = .verdict (units "So.") ∧
      (∀ op ∈ ops, op.plays = true) ∧ arrivals ops = flakyStream.map .event ∧
      session.1.timer = none ∧ ¬ (failuresIn session.2).Perm
        (failuresIn (flakyStream.map .event)) ∧ ¬ FailuresInTurn flakyDebate session.2 := by
  intro ops session
  have shown : failuresIn session.2 = [⟨some .optimist, units "refused"⟩] := by decide +kernel
  have sent : failuresIn (flakyStream.map .event) =
      [⟨some .optimist, units "timeout"⟩, ⟨some .optimist, units "refused"⟩] := by decide
  have due : failures flakyDebate 1 flakyDebate.rounds =
      [⟨some .optimist, units "timeout"⟩, ⟨some .optimist, units "refused"⟩] := by decide
  refine ⟨flaky_conformant, rfl, by decide, by decide, by decide +kernel, ?_, ?_⟩
  · intro same
    have lengths := same.length_eq
    rw [shown, sent] at lengths
    exact absurd lengths (by decide)
  · intro inTurn
    obtain ⟨rest, early⟩ := in_turn_failures inTurn
    rw [shown, due] at early
    have first := (List.cons_prefix_cons.mp early).1
    exact absurd first (by decide)

/-- The same stream, the second round fed after the first has been played. -/
def flakyInStep : List Op :=
  (flakyStream.take 5).map Op.feed ++ List.replicate 8 Op.fire ++
    (flakyStream.drop 5).map Op.feed ++ List.replicate 8 Op.fire

theorem failures_in_turn_flaky :
    let session := run (feedStatus (create false) .connecting).1 flakyInStep
    FailuresInTurn flakyDebate session.2 ∧
      (arrivals flakyInStep = flakyStream.map .event → session.1.timer = none →
        (failuresIn session.2).Perm (failuresIn (flakyStream.map .event))) :=
  failures_in_turn flaky_conformant (create false) flakyInStep (by decide) (by decide)
    (by decide +kernel)

end Council.FailureTurns

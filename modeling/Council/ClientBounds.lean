import Council.JsonText
import Council.SessionPhases

/-!
What a stream of arbitrary frames can make the client keep. A frame is bounded
before it is parsed and an event before it is recorded; the player caps what it
records and drops what it has shown, and the reducer caps what it is shown
again. Each bound is kept by every arrival and every playback move.
-/

namespace Council.ClientBounds

open Council.Protocol Council.EventWire Council.JsonText
open DebateReducer DebatePlayer PlayerRuns UseDebate SessionPhases CappedAppend

/-- An event within the bounds of its schema and of the frame it came in. -/
def Allowed (event : DebateEvent) : Prop :=
  debateEventSchema event = true ∧ ∀ verdict, event = .verdict verdict →
    verdict.length ≤ MAX_FRAME_CHARS

def AllowedArrival : Player → Arrival → Prop
  | _, .event event => Allowed event
  | _, .close => True

section Frames

variable {fields : List (Text × Json)} {bound : Nat}

theorem property_sized (sized : Sized bound (.object fields)) {key : String} {text : Text}
    (found : property fields key = some (.string text)) : text.length ≤ bound := by
  rcases Option.map_eq_some_iff.mp found with ⟨field, listed, same⟩
  have member := List.mem_reverse.mp (List.mem_of_find?_eq_some listed)
  exact sized field member text same

theorem text_schema_sized (sized : Sized bound (.object fields)) {key : String} {text : Text}
    (read : textSchema (property fields key) = some text) : text.length ≤ bound := by
  unfold textSchema at read
  split at read
  · cases read
    exact Nat.zero_le bound
  next found =>
    cases read
    exact property_sized sized found
  · cases read

theorem verdict_fields {json : Json} {verdict : Text}
    (accepted : eventSchema json = some (.verdict verdict)) :
    ∃ fields, json = .object fields ∧ textSchema (property fields "verdict") = some verdict := by
  unfold eventSchema at accepted
  split at accepted
  next fields =>
    split at accepted
    · split_ifs at accepted
      · rcases Option.bind_eq_some_iff.mp accepted with ⟨persona, -, accepted⟩
        rcases Option.bind_eq_some_iff.mp accepted with ⟨round, -, accepted⟩
        rcases Option.bind_eq_some_iff.mp accepted with ⟨delta, -, same⟩
        cases same
      · rcases Option.bind_eq_some_iff.mp accepted with ⟨persona, -, accepted⟩
        rcases Option.bind_eq_some_iff.mp accepted with ⟨round, -, same⟩
        cases same
      · rcases Option.bind_eq_some_iff.mp accepted with ⟨round, -, same⟩
        cases same
      · rcases Option.bind_eq_some_iff.mp accepted with ⟨text, read, same⟩
        cases same
        exact ⟨fields, rfl, read⟩
      · rcases Option.bind_eq_some_iff.mp accepted with ⟨error, -, accepted⟩
        rcases Option.bind_eq_some_iff.mp accepted with ⟨persona, -, same⟩
        cases same
    · cases accepted
  · cases accepted

theorem parsed_allowed {toNumber : Text → JsNumber} {issue : Json → Text} {data : Text}
    {event : DebateEvent} (short : data.length ≤ MAX_FRAME_CHARS)
    (parsed : parseEvent (parse toNumber) issue data = .ok event) : Allowed event := by
  unfold parseEvent at parsed
  split at parsed
  · cases parsed
  next json read =>
    split at parsed
    · cases parsed
    next found accepted =>
      cases parsed
      constructor
      · exact eventSchema_valid accepted
      · rintro verdict rfl
        rcases verdict_fields accepted with ⟨fields, rfl, text⟩
        exact Nat.le_trans (text_schema_sized (parse_sized read) text) short

end Frames

/-- What the player keeps within bounds. While a turn is shown nothing of the
turn before is pending, and a turn with text has a round of the wire. -/
structure Recorded (player : Player) : Prop where
  cells : ∀ persona round text, player.text persona round = some text →
    roundSchema round = true ∧ text.length ≤ MAX_TURN_CHARS
  rounds : ∀ round ∈ player.roundComplete, roundSchema round = true
  verdict : ∀ verdict, player.verdict = some verdict → verdict.length ≤ MAX_FRAME_CHARS
  failures : ∀ persona event, player.personaErrors persona = some event →
    event.persona = some persona ∧ persona ≠ MODERATOR_ID
  pending : player.pendingErrors.length ≤ 1
  flushed : ∀ turn, player.active = some turn → player.pendingErrors = [] ∧
    (turn.text ≠ [] → roundSchema turn.round = true)

/-- An input within the bounds of what was recorded. -/
def Mild : DebateInput → Prop
  | .event (.token _ round _) => roundSchema round = true
  | .event (.verdict verdict) => verdict.length ≤ MAX_FRAME_CHARS
  | _ => True

theorem clip_le {Item : Type} (limit : Nat) (items : List Item) :
    (clip limit items).length ≤ limit := by
  rw [clip_eq_take, List.length_take]
  exact Nat.min_le_left _ _

theorem append_cells {text : Transcript} {persona : PersonaId} {round : Nat} {delta : Text}
    (valid : roundSchema round = true)
    (cells : ∀ persona round cell, text persona round = some cell →
      roundSchema round = true ∧ cell.length ≤ MAX_TURN_CHARS)
    (other : PersonaId) (otherRound : Nat) (cell : Text)
    (found : appendText text persona round delta other otherRound = some cell) :
    roundSchema otherRound = true ∧ cell.length ≤ MAX_TURN_CHARS := by
  unfold appendText at found
  by_cases same : other = persona
  · subst same
    rw [Function.update_self] at found
    by_cases here : otherRound = round
    · subst here
      rw [Function.update_self] at found
      cases found
      exact ⟨valid, clip_le _ _⟩
    · rw [Function.update_of_ne here] at found
      exact cells other otherRound cell found
  · rw [Function.update_of_ne same] at found
    exact cells other otherRound cell found

section Players

variable {player after start : Player} {dispatched log : List DebateInput}
  {arrived : List Arrival}

theorem recorded_reset (player : Player) : Recorded (reset player) where
  cells := nofun
  rounds := fun _ member => absurd member (Finset.notMem_empty _)
  verdict := nofun
  failures := nofun
  pending := Nat.zero_le 1
  flushed := nofun

theorem recorded_receive (recorded : Recorded player) (arrival : Arrival)
    (allowed : AllowedArrival player arrival) : Recorded (receive player arrival) := by
  cases arrival with
  | close => exact ⟨recorded.cells, recorded.rounds, recorded.verdict, recorded.failures,
      recorded.pending, recorded.flushed⟩
  | event event =>
      cases event with
      | token persona round delta =>
          exact { recorded with cells := append_cells allowed.1 recorded.cells }
      | personaDone persona round => exact recorded
      | roundComplete round =>
          exact { recorded with
            rounds := fun other member => by
              rcases Finset.mem_insert.mp member with same | earlier
              · rw [same]
                exact allowed.1
              · exact recorded.rounds other earlier }
      | verdict verdict =>
          exact { recorded with
            verdict := fun other same => by
              cases same
              exact allowed.2 verdict rfl }
      | error event =>
          rcases terminal_or_seated event with terminal | ⟨persona, named, seated⟩
          · rw [receive, record_terminal player event terminal]
            exact { recorded with }
          · rw [receive, record_failure player event persona named seated]
            exact { recorded with
              failures := fun other error found => by
                change Function.update player.personaErrors persona (some event) other =
                  some error at found
                by_cases same : other = persona
                · rw [same, Function.update_self] at found
                  cases found
                  exact ⟨same ▸ named, same ▸ seated⟩
                · rw [Function.update_of_ne same] at found
                  exact recorded.failures other error found }

theorem pending_mild (player : Player) : ∀ input ∈ pendingInputs player, Mild input := by
  intro input member
  simp only [pendingInputs, List.mem_append, Option.mem_toList, Option.map_eq_some_iff,
    List.mem_map] at member
  rcases member with (⟨done, _, rfl⟩ | ⟨round, _, rfl⟩) | ⟨error, _, rfl⟩ <;> trivial

theorem finalize_mild (recording : Recording) :
    ∀ input ∈ recording.finalizeTerminal, Mild input := by
  intro input member
  unfold Recording.finalizeTerminal at member
  split at member
  · rw [List.mem_singleton.mp member]
    trivial
  · split at member
    · rw [List.mem_singleton.mp member]
      trivial
    · cases member

theorem text_round (recorded : Recorded player) {persona : PersonaId} {round : Nat}
    (spoken : player.getText persona round ≠ []) : roundSchema round = true := by
  unfold Recording.getText cell at spoken
  cases found : player.text persona round with
  | none =>
      rw [found] at spoken
      exact absurd rfl spoken
  | some text => exact (recorded.cells persona round text found).1

theorem recorded_flush (recorded : Recorded player) : Recorded (flushPending player) where
  cells := recorded.cells
  rounds := recorded.rounds
  verdict := recorded.verdict
  failures := recorded.failures
  pending := Nat.zero_le 1
  flushed := fun turn active => ⟨rfl, (recorded.flushed turn active).2⟩

theorem recorded_move (recorded : Recorded player) (move : Move player dispatched after) :
    Recorded after ∧ ∀ input ∈ dispatched, Mild input := by
  have flushed := recorded_flush recorded
  cases move with
  | handOff => exact ⟨{ recorded with }, nofun⟩
  | finish =>
      refine ⟨{ flushed with }, fun input member => ?_⟩
      rcases List.mem_append.mp member with owed | last
      · exact pending_mild player input owed
      · exact finalize_mild _ input last
  | announce verdict idle next known empty =>
      refine ⟨{ flushed with }, fun input member => ?_⟩
      rcases List.mem_append.mp member with owed | last
      · exact pending_mild player input owed
      · rw [List.mem_singleton.mp last]
        exact recorded.verdict verdict known
  | openPanelist round index idle next buffered =>
      refine ⟨{ flushed with flushed := ?_ }, pending_mild player⟩
      rintro turn active
      cases active
      exact ⟨rfl, fun _ => recorded.rounds round buffered⟩
  | openModerator idle next known spoken =>
      refine ⟨{ flushed with flushed := ?_ }, pending_mild player⟩
      rintro turn active
      cases active
      exact ⟨rfl, text_round recorded⟩
  | reveal turn speaking more =>
      have shown := recorded.flushed turn speaking
      have worded : turn.text ≠ [] := by
        intro empty
        rw [empty] at more
        cases more
      refine ⟨{ recorded with flushed := ?_ }, ?_⟩
      · rintro later active
        cases active
        exact shown
      · intro input member
        rw [List.mem_singleton.mp member]
        exact shown.2 worded
  | defer turn index speaking told seated =>
      have shown := recorded.flushed turn speaking
      refine ⟨{ recorded with failures := ?_, pending := ?_, flushed := nofun }, nofun⟩
      · intro other error found
        change Function.update player.personaErrors turn.persona none other = some error at found
        by_cases same : other = turn.persona
        · rw [same, Function.update_self] at found
          cases found
        · rw [Function.update_of_ne same] at found
          exact recorded.failures other error found
      · change (player.pendingErrors ++ (player.personaErrors turn.persona).toList).length ≤ 1
        rw [shown.1, List.nil_append]
        exact Option.length_toList_le
  | conclude turn speaking told unseated =>
      refine ⟨{ recorded with flushed := nofun }, fun input member => ?_⟩
      rw [List.mem_singleton.mp member]
      cases known : player.verdict with
      | none => exact Nat.zero_le _
      | some verdict => exact recorded.verdict verdict known

theorem recorded_played (recorded : Recorded start)
    (played : Played AllowedArrival start arrived log player) :
    Recorded player ∧ ∀ input ∈ log, Mild input := by
  induction played with
  | start => exact ⟨recorded, nofun⟩
  | arrive arrival earlier admitted ih =>
      exact ⟨recorded_receive ih.1 arrival admitted, ih.2⟩
  | pace timer rate draining earlier ih => exact ⟨{ ih.1 with }, ih.2⟩
  | move earlier move ih =>
      have moved := recorded_move ih.1 move
      refine ⟨moved.1, fun input member => ?_⟩
      rcases List.mem_append.mp member with before | now
      · exact ih.2 input before
      · exact moved.2 input now

end Players

/-- The calls that feed the player nothing but allowed events. -/
def AllowedOp (op : Op) : Prop := ∀ event, op = .feed event → Allowed event

theorem of_playback_or_mild (input : DebateInput) : ofPlayback input = true ∨ Mild input := by
  cases input with
  | event event => exact .inl rfl
  | status status => exact .inr trivial
  | transport message => exact .inr trivial
  | cancel => exact .inr trivial

theorem recorded_apply {player : Player} {op : Op} (recorded : Recorded player)
    (allowed : AllowedOp op) :
    Recorded (apply player op).1 ∧ ∀ input ∈ (apply player op).2, Mild input := by
  by_cases inSession : op.inSession = true
  · have admitted : ∀ arrival, op.arrival = some arrival → AllowedArrival player arrival := by
      intro arrival arrives
      cases op with
      | feed event =>
          cases arrives
          exact allowed event rfl
      | feedStatus status =>
          cases status with
          | closed =>
              cases arrives
              trivial
          | _ => cases arrives
      | _ => cases arrives
    have begun : Played AllowedArrival player [] [] player := .start
    have path := begun.apply op inSession admitted
    have kept := recorded_played recorded path
    refine ⟨kept.1, fun input member => ?_⟩
    rcases of_playback_or_mild input with played | mild
    · exact kept.2 input (List.mem_append_right _ (List.mem_filter.mpr ⟨member, played⟩))
    · exact mild
  · cases op with
    | reset => exact ⟨recorded_reset player, nofun⟩
    | feedStatus status =>
        cases status with
        | connecting =>
            refine ⟨recorded_reset player, fun input member => ?_⟩
            rw [List.mem_singleton.mp member]
            trivial
        | _ => exact absurd rfl inSession
    | _ => exact absurd rfl inSession

theorem recorded_run {player : Player} {ops : List Op} (recorded : Recorded player)
    (allowed : ∀ op ∈ ops, AllowedOp op) :
    Recorded (run player ops).1 ∧ ∀ input ∈ (run player ops).2, Mild input := by
  induction ops generalizing player with
  | nil => exact ⟨recorded, nofun⟩
  | cons op rest ih =>
      have first := recorded_apply recorded (allowed op List.mem_cons_self)
      have later := ih first.1 fun other member => allowed other (List.mem_cons_of_mem op member)
      refine ⟨later.1, fun input member => ?_⟩
      rcases List.mem_append.mp member with now | after
      · exact first.2 input now
      · exact later.2 input after

/-- What the reducer keeps within bounds. -/
structure Reduced (state : DebateState) : Prop where
  cells : ∀ persona round text, state.transcript persona round = some text →
    roundSchema round = true ∧ text.length ≤ MAX_CELL_CHARS
  errors : state.errors.length ≤ MAX_ERRORS
  speakers : state.activeSpeakers.Nodup
  verdict : state.verdict.length ≤ MAX_FRAME_CHARS

theorem reduced_initial : Reduced initialState where
  cells := nofun
  errors := Nat.zero_le _
  speakers := List.nodup_nil
  verdict := Nat.zero_le _

theorem with_error_le (errors : List DebateError) (error : DebateError)
    (short : errors.length ≤ MAX_ERRORS) : (withError errors error).length ≤ MAX_ERRORS := by
  unfold withError
  simp only
  split
  · rw [List.length_drop]
    omega
  · omega

theorem with_active_nodup {active : List PersonaId} (persona : PersonaId)
    (nodup : active.Nodup) : (withActive active persona).Nodup := by
  unfold withActive
  split
  · exact nodup
  next silent =>
    rw [List.nodup_append]
    refine ⟨nodup, List.nodup_singleton persona, ?_⟩
    intro speaker member other last
    rw [List.mem_singleton.mp last]
    rintro rfl
    exact silent member

theorem reduced_step {state : DebateState} {input : DebateInput} (reduced : Reduced state)
    (mild : Mild input) : Reduced (debateReducer state input) := by
  have quieter : ∀ persona, (withoutActive state.activeSpeakers persona).Nodup :=
    fun persona => reduced.speakers.filter _
  cases input with
  | event event =>
      cases event with
      | token persona round delta =>
          refine { reduced with cells := ?_, speakers := ?_ }
          · intro other otherRound text found
            have capped : appendText state.transcript persona round delta other otherRound =
                some text := found
            exact append_cells mild reduced.cells other otherRound text capped
          · exact with_active_nodup persona reduced.speakers
      | personaDone persona round => exact { reduced with speakers := quieter persona }
      | roundComplete round => exact { reduced with }
      | verdict verdict =>
          exact { reduced with speakers := quieter MODERATOR_ID, verdict := mild }
      | error event =>
          refine { reduced with errors := with_error_le _ _ reduced.errors, speakers := ?_ }
          cases named : event.persona with
          | none =>
              simp only [debateReducer, reduceEvent, named]
              exact List.nodup_nil
          | some persona =>
              simp only [debateReducer, reduceEvent, named]
              split
              · exact List.nodup_nil
              · exact quieter persona
  | status status =>
      cases status with
      | connecting => exact { reduced_initial with }
      | closed =>
          change Reduced (if TERMINAL state.phase = true then state else _)
          split
          · exact reduced
          · exact { reduced with
              errors := with_error_le _ _ reduced.errors
              speakers := List.nodup_nil }
      | _ => exact reduced
  | transport message => exact { reduced with errors := with_error_le _ _ reduced.errors }
  | cancel =>
      change Reduced (if TERMINAL state.phase = true then state else _)
      split
      · exact reduced
      · exact { reduced with speakers := List.nodup_nil }

theorem reduced_all {state : DebateState} {inputs : List DebateInput} (reduced : Reduced state)
    (mild : ∀ input ∈ inputs, Mild input) : Reduced (reduceAll state inputs) := by
  induction inputs generalizing state with
  | nil => exact reduced
  | cons input rest ih =>
      exact ih (reduced_step reduced (mild input List.mem_cons_self))
        fun other member => mild other (List.mem_cons_of_mem input member)

section Hooks

variable (parseEvent : Text → Except Text DebateEvent)

/-- What a hook step asks of the player: calls that feed it nothing but parsed
frames that passed the size check. -/
structure Asks (hook : Hook) (answer : Hook × List DebateInput) (ops : List Op) : Prop where
  heard : ∀ op ∈ ops, ∀ event, op = .feed event →
    ∃ data : Text, data.length ≤ MAX_FRAME_CHARS ∧ parseEvent data = .ok event
  player : answer.1.player = (run hook.player ops).1
  state : answer.1.state = reduceAll hook.state answer.2
  dispatched : ∀ input ∈ answer.2, input ∈ (run hook.player ops).2 ∨ input = .cancel

theorem asks_one {hook : Hook} {op : Op} {answer : Hook × List DebateInput}
    (heard : ∀ event, op = .feed event →
      ∃ data : Text, data.length ≤ MAX_FRAME_CHARS ∧ parseEvent data = .ok event)
    (player : answer.1.player = (apply hook.player op).1)
    (state : answer.1.state = reduceAll hook.state answer.2)
    (dispatched : answer.2 = (apply hook.player op).2) : Asks parseEvent hook answer [op] where
  heard := fun other member event same => by
    rw [List.mem_singleton.mp member] at same
    exact heard event same
  player := player
  state := state
  dispatched := fun input member => by
    rw [dispatched] at member
    exact .inl (List.mem_append_left _ member)

theorem on_message_asks (player : Player) (frame : Frame) :
    ∃ op, onMessage parseEvent player frame = apply player op ∧ ∀ event, op = .feed event →
      ∃ data : Text, data.length ≤ MAX_FRAME_CHARS ∧ parseEvent data = .ok event := by
  cases frame with
  | binary => exact ⟨.feedTransport _, rfl, nofun⟩
  | text data =>
      by_cases short : data.length ≤ MAX_FRAME_CHARS
      · simp only [onMessage, if_neg (Nat.not_lt.mpr short)]
        cases parsed : parseEvent data with
        | error message => exact ⟨.feedTransport message, rfl, nofun⟩
        | ok event =>
            refine ⟨.feed event, rfl, ?_⟩
            rintro other same
            cases same
            exact ⟨data, short, parsed⟩
      · simp only [onMessage, if_pos (Nat.lt_of_not_le short)]
        exact ⟨.feedTransport _, rfl, nofun⟩

theorem asks_reset {hook : Hook} {op : Op} {answer : Hook × List DebateInput}
    (unfed : ∀ event, op ≠ .feed event)
    (player : answer.1.player = (apply (reset hook.player) op).1)
    (state : answer.1.state = reduceAll hook.state answer.2)
    (dispatched : answer.2 = (apply (reset hook.player) op).2) :
    Asks parseEvent hook answer [.reset, op] where
  heard := fun other member event same => by
    rcases List.mem_cons.mp member with first | last
    · rw [first] at same
      cases same
    · rw [List.mem_singleton.mp last] at same
      exact absurd same (unfed event)
  player := player
  state := state
  dispatched := fun input member => by
    rw [dispatched] at member
    exact .inl (List.mem_append_right _ (List.mem_append_left _ member))

theorem ask_asks (hook : Hook) (question : Text) (rounds : Option JsNumber) :
    ∃ op, Asks parseEvent hook (ask hook question rounds) [.reset, op] := by
  cases built : buildAsk question rounds with
  | error message =>
      rw [ask_rejected hook question rounds message built]
      exact ⟨.feedTransport message, asks_reset parseEvent nofun rfl rfl rfl⟩
  | ok message =>
      rw [ask_accepted hook question rounds message built]
      exact ⟨.feedStatus .connecting, asks_reset parseEvent nofun rfl rfl rfl⟩

theorem stop_asks (hook : Hook) : Asks parseEvent hook (stop hook) [.reset] where
  heard := fun other member event same => by
    rw [List.mem_singleton.mp member] at same
    cases same
  player := (stop_state hook).1
  state := (stop_state hook).2
  dispatched := fun _ member => .inr (List.mem_singleton.mp member)

theorem ignored_asks (hook : Hook) : Asks parseEvent hook (hook, []) [] where
  heard := nofun
  player := rfl
  state := rfl
  dispatched := nofun

theorem on_socket_asks (hook : Hook) (index : Nat) (event : SocketEvent) :
    ∃ ops, Asks parseEvent hook (onSocket parseEvent hook index event) ops := by
  unfold onSocket
  cases found : hook.clients[index]? with
  | none => exact ⟨_, ignored_asks parseEvent hook⟩
  | some client =>
      simp only
      cases attached : client.attached with
      | false => exact ⟨_, ignored_asks parseEvent hook⟩
      | true =>
          cases event with
          | opened => exact ⟨[.feedStatus .opened], asks_one parseEvent nofun rfl rfl rfl⟩
          | message frame =>
              rcases on_message_asks parseEvent hook.player frame with ⟨op, answer, heard⟩
              simp only [Bool.not_true, Bool.false_eq_true, if_false, answer]
              exact ⟨[op], asks_one parseEvent heard rfl rfl rfl⟩
          | error => exact ⟨[.feedStatus .error], asks_one parseEvent nofun rfl rfl rfl⟩
          | close => exact ⟨[.feedStatus .closed], asks_one parseEvent nofun rfl rfl rfl⟩

theorem hook_step_asks (hook : Hook) (op : HookOp) :
    ∃ ops, Asks parseEvent hook (hookStep parseEvent hook op) ops := by
  cases op with
  | ask question rounds =>
      rcases ask_asks parseEvent hook question rounds with ⟨op, asks⟩
      exact ⟨_, asks⟩
  | stop => exact ⟨_, stop_asks parseEvent hook⟩
  | setRate multiplier => exact ⟨[.setRate multiplier], asks_one parseEvent nofun rfl rfl rfl⟩
  | goToLive => exact ⟨[.skipToLive], asks_one parseEvent nofun rfl rfl rfl⟩
  | fire => exact ⟨[.fire], asks_one parseEvent nofun rfl rfl rfl⟩
  | socket client event => exact on_socket_asks parseEvent hook client event

end Hooks

/-- The hook with everything the reducer received since `start`. -/
structure Bounded (start : DebateState) (hook : Hook) (log : List DebateInput) : Prop where
  player : Recorded hook.player
  state : hook.state = reduceAll start log
  log : ∀ input ∈ log, Mild input

section Runs

variable (toNumber : Text → JsNumber) (issue : Json → Text)

theorem bounded_step {start : DebateState} {hook : Hook} {log : List DebateInput}
    (bounded : Bounded start hook log) (op : HookOp) :
    Bounded start (hookStep (parseEvent (parse toNumber) issue) hook op).1
      (log ++ (hookStep (parseEvent (parse toNumber) issue) hook op).2) := by
  rcases hook_step_asks (parseEvent (parse toNumber) issue) hook op with ⟨ops, asks⟩
  have kept : Recorded (run hook.player ops).1 ∧
      ∀ input ∈ (run hook.player ops).2, Mild input := by
    refine recorded_run bounded.player ?_
    intro call member event same
    rcases asks.heard call member event same with ⟨data, short, parsed⟩
    exact parsed_allowed short parsed
  constructor
  · rw [asks.player]
    exact kept.1
  · rw [asks.state, bounded.state, reduce_all_append]
  · intro input member
    rcases List.mem_append.mp member with before | now
    · exact bounded.log input before
    · rcases asks.dispatched input now with played | rfl
      · exact kept.2 input played
      · trivial

theorem bounded_run {start : DebateState} {hook : Hook} {log : List DebateInput}
    (bounded : Bounded start hook log) (ops : List HookOp) :
    Bounded start (runHook (parseEvent (parse toNumber) issue) hook ops).1
      (log ++ (runHook (parseEvent (parse toNumber) issue) hook ops).2) := by
  induction ops generalizing hook log with
  | nil =>
      rw [runHook, List.append_nil]
      exact bounded
  | cons op rest ih =>
      rw [runHook, ← List.append_assoc]
      exact ih (bounded_step toNumber issue bounded op)

/-- Text in at most 5 * 9 cells of at most 200000 characters each. -/
def TranscriptBounded (transcript : Transcript) : Prop :=
  ∃ cells : Finset (PersonaId × Nat), cells.card ≤ 5 * 9 ∧
    ∀ persona round text, transcript persona round = some text →
      (persona, round) ∈ cells ∧ text.length ≤ 200000

structure PlayerBounded (player : Player) : Prop where
  text : TranscriptBounded player.text
  rounds : player.roundComplete.card ≤ 9
  failures : ∀ persona event, player.personaErrors persona = some event →
    event.persona = some persona ∧ persona ≠ MODERATOR_ID
  pending : player.pendingErrors.length ≤ 1

structure StateBounded (state : DebateState) : Prop where
  transcript : TranscriptBounded state.transcript
  errors : state.errors.length ≤ 50
  speakers : state.activeSpeakers.Nodup
  verdict : state.verdict.length ≤ 256 * 1024

theorem round_between {round : Nat} (valid : roundSchema round = true) :
    round ∈ Finset.Icc 1 MAX_WIRE_ROUND := by
  simp only [roundSchema, Bool.and_eq_true, decide_eq_true_eq] at valid
  exact Finset.mem_Icc.mpr valid

theorem transcript_bounded {transcript : Transcript}
    (cells : ∀ persona round text, transcript persona round = some text →
      roundSchema round = true ∧ text.length ≤ 200000) : TranscriptBounded transcript := by
  refine ⟨PERSONA_IDS.toFinset ×ˢ Finset.Icc 1 MAX_WIRE_ROUND, ?_, ?_⟩
  · rw [Finset.card_product]
    decide
  · intro persona round text found
    have listed : persona ∈ PERSONA_IDS.toFinset := by cases persona <;> decide
    have within := cells persona round text found
    exact ⟨Finset.mem_product.mpr ⟨listed, round_between within.1⟩, within.2⟩

theorem player_bounded {player : Player} (recorded : Recorded player) :
    PlayerBounded player where
  text := transcript_bounded recorded.cells
  rounds := by
    have within : player.roundComplete ⊆ Finset.Icc 1 MAX_WIRE_ROUND :=
      fun round member => round_between (recorded.rounds round member)
    exact Nat.le_trans (Finset.card_le_card within) (by decide)
  failures := recorded.failures
  pending := recorded.pending

theorem state_bounded {state : DebateState} (reduced : Reduced state) : StateBounded state where
  transcript := transcript_bounded reduced.cells
  errors := reduced.errors
  speakers := reduced.speakers
  verdict := reduced.verdict

/-- Whatever the frames hold and however they interleave, the player and every
state the reducer passes through stay within bounds. -/
theorem client_bounded (reducedMotion : Bool) (ops : List HookOp) :
    let run := runHook (parseEvent (parse toNumber) issue) (createHook reducedMotion) ops
    PlayerBounded run.1.player ∧ StateBounded run.1.state ∧
      ∀ front, front <+: run.2 → StateBounded (reduceAll initialState front) := by
  intro run
  have started : Bounded initialState (createHook reducedMotion) [] :=
    ⟨recorded_reset (create reducedMotion), rfl, nofun⟩
  have bounded := bounded_run toNumber issue started ops
  rw [List.nil_append] at bounded
  have passed : ∀ front, front <+: run.2 → StateBounded (reduceAll initialState front) := by
    intro front begun
    refine state_bounded (reduced_all reduced_initial ?_)
    exact fun input member => bounded.log input (begun.subset member)
  refine ⟨player_bounded bounded.player, ?_, passed⟩
  rw [bounded.state]
  exact passed run.2 (List.prefix_refl run.2)

end Runs

end Council.ClientBounds

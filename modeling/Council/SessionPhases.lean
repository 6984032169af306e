import Council.UseDebate

/-!
What the user sees of a session. A phase in progress has a socket or a timeout
behind it, and a terminal phase stays until the next `ask`: the player has then
come to rest for good, or has been reset with every socket detached.
-/

namespace Council.SessionPhases
open Protocol DebateReducer DebatePlayer PlayerRuns Playbill TurnOrder Spoken WireStream
  FaithfulReplay UseDebate

/-- The states agree on everything but the list of errors. -/
structure SameView (left right : DebateState) : Prop where
  phase : left.phase = right.phase
  currentRound : left.currentRound = right.currentRound
  transcript : left.transcript = right.transcript
  activeSpeakers : left.activeSpeakers = right.activeSpeakers
  verdict : left.verdict = right.verdict

theorem SameView.refl (state : DebateState) : SameView state state := ⟨rfl, rfl, rfl, rfl, rfl⟩

theorem SameView.trans {first second third : DebateState} (left : SameView first second)
    (right : SameView second third) : SameView first third where
  phase := left.phase.trans right.phase
  currentRound := left.currentRound.trans right.currentRound
  transcript := left.transcript.trans right.transcript
  activeSpeakers := left.activeSpeakers.trans right.activeSpeakers
  verdict := left.verdict.trans right.verdict

theorem reduce_view {left right : DebateState} (same : SameView left right)
    (input : DebateInput) :
    SameView (debateReducer left input) (debateReducer right input) := by
  obtain ⟨phase, currentRound, transcript, activeSpeakers, verdict⟩ := same
  cases input with
  | event event =>
      cases event <;>
        constructor <;>
          simp [debateReducer, reduceEvent, phase, currentRound, transcript, activeSpeakers,
            verdict]
  | status status =>
      cases status with
      | closed =>
          simp only [debateReducer, reduceStatus, phase]
          split <;> constructor <;> simp [phase, currentRound, transcript, activeSpeakers, verdict]
      | connecting => exact .refl _
      | _ => exact ⟨phase, currentRound, transcript, activeSpeakers, verdict⟩
  | transport => exact ⟨phase, currentRound, transcript, activeSpeakers, verdict⟩
  | cancel =>
      simp only [debateReducer, phase]
      split <;> constructor <;> simp [phase, currentRound, transcript, activeSpeakers, verdict]

def advisory : DebateInput → Bool
  | .status .idle => true
  | .status .opened => true
  | .status .error => true
  | .transport _ => true
  | _ => false

theorem advisory_view (state : DebateState) (input : DebateInput)
    (idle : advisory input = true) : SameView (debateReducer state input) state := by
  cases input with
  | event => cases idle
  | status status => cases status <;> first | exact .refl _ | cases idle
  | transport => exact ⟨rfl, rfl, rfl, rfl, rfl⟩
  | cancel => cases idle

theorem filtered_view {left right : DebateState} (same : SameView left right)
    (inputs : List DebateInput)
    (known : ∀ input ∈ inputs, ofPlayback input = true ∨ advisory input = true) :
    SameView (reduceAll left inputs) (reduceAll right (inputs.filter ofPlayback)) := by
  induction inputs generalizing left right with
  | nil => exact same
  | cons input rest ih =>
      have later := fun other member => known other (List.mem_cons_of_mem input member)
      by_cases plays : ofPlayback input = true
      · rw [List.filter_cons_of_pos plays]
        exact ih (reduce_view same input) later
      · rw [List.filter_cons_of_neg plays]
        have idle := (known input List.mem_cons_self).resolve_left plays
        exact ih ((advisory_view left input idle).trans same) later

theorem apply_known (player : Player) (op : Op) (inSession : op.inSession = true) :
    ∀ input ∈ (apply player op).2, ofPlayback input = true ∨ advisory input = true := by
  intro input member
  by_cases plays : op.plays = true
  · exact .inl (apply_of_playback player op plays input member)
  · right
    cases op with
    | feedStatus status =>
        cases status with
        | connecting => cases inSession
        | closed => exact absurd rfl plays
        | _ =>
            rw [List.mem_singleton.mp member]
            rfl
    | feedTransport message =>
        rw [List.mem_singleton.mp member]
        rfl
    | reset => cases inSession
    | _ => exact absurd rfl plays

/-- What an accepted `ask` leaves of the state before. -/
def connectingState : DebateState := { initialState with phase := .connecting }

def anyArrival : Player → Arrival → Prop := fun _ _ => True

section Phases
variable {first player : Player} {arrived : List Arrival} {log : List DebateInput}

theorem played_of_playback {admits : Player → Arrival → Prop} {start : Player}
    (played : Played admits start arrived log player) :
    ∀ input ∈ log, ofPlayback input = true := by
  induction played with
  | start => exact fun _ member => nomatch member
  | arrive _ _ _ ih => exact ih
  | pace _ _ _ _ ih => exact ih
  | move _ taken ih =>
      intro input member
      rcases List.mem_append.mp member with old | new
      · exact ih input old
      · exact move_of_playback taken input new

theorem session_phase (played : Played anyArrival (reset first) arrived log player) :
    TERMINAL (reduceAll connectingState log).phase = true ↔
      player.active = none ∧ player.cursor = .done := by
  have playback := played_of_playback played
  obtain ⟨script, stage, _, _, faithful⟩ := (sound_invariant _).played played
  have running : script.finale = none →
      TERMINAL (reduceAll connectingState log).phase = false := by
    intro open'
    refine (running_phase connectingState log playback (fun input member => ?_) rfl).1
    by_contra ends
    obtain ⟨finale, known, _⟩ := stage_ending stage faithful.failures input member
      (by simpa using ends)
    cases open'.symm.trans known
  cases stage with
  | interval turns now => simp [running rfl, now.next]
  | handed turns now => simp [running rfl, now.next]
  | speaking turns turn chunks now => simp [running rfl, now.active]
  | closing turns turn chunks now => simp [running rfl, now.active]
  | concluded turns finale now =>
      have ending := (faithful.ending finale rfl).1
      rw [now.shown] at playback ⊢
      have phase := concluded_phase connectingState turns finale faithful.failures playback
        ending rfl
      refine ⟨fun _ => ⟨now.idle, now.next⟩, fun _ => ?_⟩
      by_cases decided : ∃ verdict, finale.ending = .event (.verdict verdict)
      · obtain ⟨verdict, same⟩ := decided
        rw [(phase.1 verdict same).1]
        rfl
      · rw [phase.2 fun verdict same => decided ⟨verdict, same⟩]
        rfl

theorem step_blocked (player : Player) (blocked : hasReadyWork player = false) :
    (step player).player = player ∧ (step player).dispatched = [] ∧
      ∀ ms, (step player).delay ≠ .after ms := by
  have steps := step_steps player
  generalize step player = answer at steps
  cases steps with
  | parked => exact ⟨rfl, rfl, fun _ same => nomatch same⟩
  | finished => exact ⟨rfl, rfl, fun _ same => nomatch same⟩
  | ended _ _ _ ready => cases blocked.symm.trans ready
  | went _ _ ready => cases blocked.symm.trans ready

theorem pump_blocked (player : Player) (blocked : hasReadyWork player = false) :
    pump player = (player, []) := by
  have still := step_blocked player blocked
  unfold pump
  split
  · rfl
  · generalize step player = answer at still
    obtain ⟨delay, after, dispatched⟩ := answer
    obtain ⟨rfl, rfl, stopped⟩ := still
    cases delay with
    | after ms => exact absurd rfl (stopped ms)
    | _ => rfl

theorem drain_blocked (player : Player) (blocked : hasReadyWork player = false) :
    drain player = (player, []) := by
  have still := step_blocked player blocked
  rw [drain]
  split
  · rw [still.1, still.2.1]
  · rw [still.1, still.2.1]
  · rename_i ms taken
    exact absurd taken (still.2.2 ms)

theorem skip_blocked (player : Player) (blocked : hasReadyWork player = false) :
    skipToLive player = ({ player with timer := none, draining := false }, []) := by
  unfold skipToLive
  rw [drain_blocked { player with timer := none, draining := true } blocked]

theorem halted_silent (player : Player) (op : Op) (inSession : op.inSession = true)
    (idle : player.active = none) (halted : player.cursor = .done) :
    (apply player op).2.filter ofPlayback = [] := by
  have silent : ∀ next : Player, next.active = none → next.cursor = .done →
      (pump next).2.filter ofPlayback = [] := by
    intro next nextIdle nextHalted
    rw [pump_blocked next (by simp [hasReadyWork, nextIdle, nextHalted])]
    rfl
  cases op with
  | feed event =>
      have same := receive_same_schedule player (.event event)
      exact silent _ (same.active.trans idle) (same.cursor.trans halted)
  | feedStatus status =>
      cases status with
      | connecting => cases inSession
      | closed => exact silent _ idle halted
      | _ => rfl
  | feedTransport => rfl
  | setRate => rfl
  | skipToLive =>
      rw [apply, skip_blocked player (by simp [hasReadyWork, idle, halted])]
      rfl
  | reset => cases inSession
  | fire =>
      change (fire player).2.filter ofPlayback = []
      unfold fire
      split
      · exact silent _ idle halted
      · rfl

end Phases

/-- Only the current client's socket has handlers, and its client knows it. -/
def Exclusive (hook : Hook) : Prop :=
  ∀ index client, hook.clients[index]? = some client → client.attached = true →
    hook.clientRef = some index ∧ client.held = true

/-- No socket has handlers. -/
def Deaf (hook : Hook) : Prop := ∀ client ∈ hook.clients, client.attached = false

/-- Between sessions the player is without work and nothing can feed it;
within one, the player and the reducer have seen the same stream, and a socket
without handlers is one whose close has been recorded. -/
inductive Situation (hook : Hook) : Prop where
  | quiet (deaf : Deaf hook) (unarmed : hook.player.timer = none)
      (blocked : hasReadyWork hook.player = false)
      (resting : hook.state.phase = .idle ∨ TERMINAL hook.state.phase = true) :
      Situation hook
  | session (first : Player) (arrived : List Arrival) (log : List DebateInput)
      (played : Played anyArrival (reset first) arrived log hook.player)
      (rested : Rested hook.player)
      (view : SameView hook.state (reduceAll connectingState log))
      (gone : Deaf hook → .close ∈ arrived) : Situation hook

theorem situation_backed {hook : Hook} (exclusive : Exclusive hook)
    (situation : Situation hook)
    (progressing : hook.state.phase = .connecting ∨ hook.state.phase = .debating ∨
      hook.state.phase = .moderating) :
    hook.listening ∨ hook.player.timer.isSome = true := by
  cases situation with
  | quiet _ _ _ resting =>
      rcases progressing with phase | phase | phase <;> rw [phase] at resting <;>
        rcases resting with resting | resting <;> cases resting
  | session first arrived log played rested view gone =>
      by_contra neither
      obtain ⟨unheard, unarmed⟩ := not_or.mp neither
      have deaf : Deaf hook := by
        intro client member
        obtain ⟨index, found⟩ := List.getElem?_of_mem member
        by_contra attached
        have current := exclusive index client found (by simpa using attached)
        exact unheard ⟨index, client, current.1, found, current.2, by simpa using attached⟩
      obtain ⟨script, stage, _, heard, _⟩ := (sound_invariant _).played played
      have closed : hook.player.terminalKnown = true := by
        simp [Recording.terminalKnown, heard.closed.mpr (gone deaf)]
      have still := rested (by simpa using unarmed)
      obtain ⟨turns, finale, rfl, ended⟩ := rested_concluded stage closed still
      have terminal := (session_phase played).mpr ⟨ended.idle, ended.next⟩
      rw [← view.phase] at terminal
      rcases progressing with phase | phase | phase <;> rw [phase] at terminal <;> cases terminal

/-- Calls that reach the player whether or not a socket is open. -/
def steers : Op → Bool
  | .setRate _ => true
  | .skipToLive => true
  | .fire => true
  | _ => false

/-- What a call or event other than `ask` and `stop` does to the hook. -/
inductive Effect (hook : Hook) : Hook × List DebateInput → Prop where
  | ignored : Effect hook (hook, [])
  | steered (op : Op) (control : steers op = true) :
      Effect hook (hook.absorb (apply hook.player op))
  | heard (op : Op) (inSession : op.inSession = true) (index : Nat) (client : Client)
      (found : hook.clients[index]? = some client) (attached : client.attached = true)
      (update : Client → Client)
      (keeps : ∀ other, (update other).attached = other.attached ∧
        (update other).held = other.held) :
      Effect hook ({ (hook.absorb (apply hook.player op)).1 with
        clients := hook.clients.modify index update }, (apply hook.player op).2)
  | dropped (index : Nat) (client : Client) (found : hook.clients[index]? = some client)
      (attached : client.attached = true) :
      Effect hook ({ (hook.absorb (apply hook.player (.feedStatus .closed))).1 with
        clients := hook.clients.modify index Client.drop },
          (apply hook.player (.feedStatus .closed)).2)

theorem send_keeps (client : Client) :
    client.send.attached = client.attached ∧ client.send.held = client.held := by
  unfold Client.send
  split <;> exact ⟨rfl, rfl⟩

section Steps
variable (parseEvent : Text → Except Text DebateEvent)

theorem on_message_heard (player : Player) (frame : Frame) :
    ∃ op : Op, op.inSession = true ∧ onMessage parseEvent player frame = apply player op := by
  cases frame with
  | binary => exact ⟨.feedTransport _, rfl, rfl⟩
  | text data =>
      unfold onMessage
      simp only
      split
      · exact ⟨.feedTransport _, rfl, rfl⟩
      · cases parseEvent data with
        | error message => exact ⟨.feedTransport message, rfl, rfl⟩
        | ok event => exact ⟨.feed event, rfl, rfl⟩

theorem on_socket_effect (hook : Hook) (index : Nat) (event : SocketEvent) :
    Effect hook (onSocket parseEvent hook index event) := by
  unfold onSocket
  cases found : hook.clients[index]? with
  | none => exact .ignored
  | some client =>
      simp only
      cases attached : client.attached with
      | false => exact .ignored
      | true =>
          have same : ∀ op : Op, op.inSession = true →
              Effect hook (hook.absorb (apply hook.player op)) := by
            intro op inSession
            have effect := Effect.heard op inSession index client found attached id
              fun _ => ⟨rfl, rfl⟩
            rwa [List.modify_id] at effect
          cases event with
          | opened =>
              exact .heard (.feedStatus .opened) rfl index client found attached Client.send
                send_keeps
          | message frame =>
              obtain ⟨op, inSession, answer⟩ := on_message_heard parseEvent hook.player frame
              simp only [Bool.not_true, Bool.false_eq_true, if_false, answer]
              exact same op inSession
          | error => exact same (.feedStatus .error) rfl
          | close => exact .dropped index client found attached

theorem hook_step_effect (hook : Hook) (op : HookOp) (unasked : op.isAsk = false)
    (unstopped : op ≠ .stop) : Effect hook (hookStep parseEvent hook op) := by
  cases op with
  | ask => cases unasked
  | stop => exact absurd rfl unstopped
  | setRate multiplier => exact .steered (.setRate multiplier) rfl
  | goToLive => exact .steered .skipToLive rfl
  | fire => exact .steered .fire rfl
  | socket client event => exact on_socket_effect parseEvent hook client event

end Steps

section Sockets
variable {hook : Hook}

theorem modify_cases (clients : List Client) (index position : Nat) (update : Client → Client)
    (client : Client) (found : (clients.modify index update)[position]? = some client) :
    ∃ before, clients[position]? = some before ∧
      client = if index = position then update before else before := by
  rw [List.getElem?_modify] at found
  obtain ⟨before, known, same⟩ := Option.map_eq_some_iff.mp found
  refine ⟨before, known, ?_⟩
  rw [← same]

theorem deaf_dispose (exclusive : Exclusive hook) : Deaf hook.disposeClient := by
  intro client member
  obtain ⟨position, found⟩ := List.getElem?_of_mem member
  unfold Hook.disposeClient at found
  cases current : hook.clientRef with
  | none =>
      rw [current] at found
      by_contra attached
      cases current.symm.trans (exclusive position client found (by simpa using attached)).1
  | some index =>
      rw [current] at found
      obtain ⟨before, known, rfl⟩ := modify_cases _ _ _ _ _ found
      by_contra attached
      by_cases here : index = position
      · rw [if_pos here, Client.dispose] at attached
        by_cases held : before.held = true
        · simp [held] at attached
        · rw [if_neg held] at attached
          exact held (exclusive position before known (by simpa using attached)).2
      · rw [if_neg here] at attached
        have owner := (exclusive position before known (by simpa using attached)).1
        rw [current] at owner
        exact here (Option.some.inj owner)

theorem exclusive_of_deaf (deaf : Deaf hook) : Exclusive hook := by
  intro index client found attached
  rw [deaf client (List.mem_of_getElem? found)] at attached
  cases attached

theorem dispose_state (hook : Hook) :
    hook.disposeClient.state = hook.state ∧ hook.disposeClient.player = hook.player := by
  unfold Hook.disposeClient
  split <;> exact ⟨rfl, rfl⟩

theorem modify_last (clients : List Client) (client : Client) (update : Client → Client) :
    (clients ++ [client]).modify clients.length update = clients ++ [update client] := by
  induction clients with
  | nil => rfl
  | cons first rest ih => simp [ih]

theorem accepted_built (question : Text) (rounds : Option JsNumber)
    (accepted : (HookOp.ask question rounds).accepted = true) :
    ∃ message, buildAsk question rounds = .ok message := by
  cases built : buildAsk question rounds with
  | error message => simp [HookOp.accepted, built, Except.toOption] at accepted
  | ok message => exact ⟨message, rfl⟩

/-- An accepted question resets the player, announces the session and leaves
one socket with handlers. -/
theorem ask_accepted (hook : Hook) (question : Text) (rounds : Option JsNumber)
    (message : AskMessage) (built : buildAsk question rounds = .ok message) :
    ask hook question rounds =
      ({ state := connectingState
         player := reset (reset hook.player)
         clients := hook.disposeClient.clients ++ [createWsClient.connect message]
         clientRef := some hook.disposeClient.clients.length }, [.status .connecting]) := by
  have fresh : (hook.disposeClient.clients ++ [createWsClient])[
      hook.disposeClient.clients.length]? = some createWsClient := by simp
  simp only [ask, clientAsk, built, fresh]
  rw [if_neg (by simp [createWsClient])]
  simp only [Hook.absorb, feedStatus, modify_last, (dispose_state hook).2]
  rfl

theorem ask_rejected (hook : Hook) (question : Text) (rounds : Option JsNumber)
    (message : Text) (built : buildAsk question rounds = .error message) :
    ask hook question rounds =
      ({ state := debateReducer hook.state (.transport message)
         player := reset hook.player
         clients := hook.disposeClient.clients ++ [createWsClient]
         clientRef := some hook.disposeClient.clients.length }, [.transport message]) := by
  have same := dispose_state hook
  simp only [ask, clientAsk, built, Hook.absorb, feedTransport, same.1, same.2]
  rfl

theorem ask_rejected_deaf (exclusive : Exclusive hook) (question : Text)
    (rounds : Option JsNumber) (message : Text)
    (built : buildAsk question rounds = .error message) :
    Deaf (ask hook question rounds).1 := by
  rw [ask_rejected hook question rounds message built]
  intro client member
  rcases List.mem_append.mp member with old | new
  · exact deaf_dispose exclusive client old
  · rw [List.mem_singleton.mp new]
    rfl

theorem ask_exclusive (exclusive : Exclusive hook) (question : Text)
    (rounds : Option JsNumber) : Exclusive (ask hook question rounds).1 := by
  cases built : buildAsk question rounds with
  | error message =>
      exact exclusive_of_deaf (ask_rejected_deaf exclusive question rounds message built)
  | ok message =>
      rw [ask_accepted hook question rounds message built]
      intro index client found attached
      change (hook.disposeClient.clients ++ [createWsClient.connect message])[index]? =
        some client at found
      by_cases old : index < hook.disposeClient.clients.length
      · rw [List.getElem?_append_left old] at found
        rw [deaf_dispose exclusive client (List.mem_of_getElem? found)] at attached
        cases attached
      · rw [List.getElem?_append_right (Nat.le_of_not_lt old), List.getElem?_singleton] at found
        by_cases last : index - hook.disposeClient.clients.length = 0
        · rw [if_pos last] at found
          cases found
          have same : index = hook.disposeClient.clients.length := by omega
          exact ⟨same ▸ rfl, rfl⟩
        · rw [if_neg last] at found
          cases found

theorem stop_deaf (exclusive : Exclusive hook) : Deaf (stop hook).1 := by
  have other : Exclusive (hook.absorb (reset hook.player, [.cancel])).1 := exclusive
  exact deaf_dispose other

theorem effect_exclusive {answer : Hook × List DebateInput} (exclusive : Exclusive hook)
    (effect : Effect hook answer) : Exclusive answer.1 := by
  cases effect with
  | ignored => exact exclusive
  | steered => exact exclusive
  | heard op inSession index client found attached update keeps =>
      intro position other listed heard
      obtain ⟨before, known, rfl⟩ := modify_cases _ _ _ _ _ listed
      by_cases here : index = position
      · rw [if_pos here, (keeps before).1] at heard
        rw [if_pos here, (keeps before).2]
        exact exclusive position before known heard
      · rw [if_neg here] at heard ⊢
        exact exclusive position before known heard
  | dropped index client found attached =>
      intro position other listed heard
      obtain ⟨before, known, rfl⟩ := modify_cases _ _ _ _ _ listed
      by_cases here : index = position
      · rw [if_pos here] at heard
        simp only [Client.drop, Bool.and_eq_true, Bool.not_eq_true'] at heard
        have held := (exclusive position before known heard.1).2
        rw [held] at heard
        cases heard.2
      · rw [if_neg here] at heard ⊢
        exact exclusive position before known heard

end Sockets

section Situations
variable {hook : Hook}

theorem ask_situation (question : Text) (rounds : Option JsNumber) (message : AskMessage)
    (built : buildAsk question rounds = .ok message) :
    Situation (ask hook question rounds).1 := by
  rw [ask_accepted hook question rounds message built]
  refine .session (reset hook.player) [] [] .start (reset_rests _) (.refl _) fun deaf => ?_
  have attached := deaf (createWsClient.connect message) (List.mem_append_right _ (by simp))
  cases attached

theorem cancel_terminal (state : DebateState) :
    TERMINAL (debateReducer state .cancel).phase = true := by
  simp only [debateReducer]
  split
  · assumption
  · rfl

theorem stop_state (hook : Hook) :
    (stop hook).1.player = reset hook.player ∧
      (stop hook).1.state = debateReducer hook.state .cancel := by
  have same := dispose_state (hook.absorb (reset hook.player, [.cancel])).1
  exact ⟨same.2, same.1⟩

theorem stop_situation (exclusive : Exclusive hook) : Situation (stop hook).1 := by
  have same := stop_state hook
  refine .quiet (stop_deaf exclusive) ?_ ?_ (.inr ?_)
  · rw [same.1]
    rfl
  · rw [same.1]
    rfl
  · rw [same.2]
    exact cancel_terminal hook.state

theorem steered_quiet (player : Player) (unarmed : player.timer = none)
    (blocked : hasReadyWork player = false) (op : Op) (control : steers op = true) :
    (apply player op).1.timer = none ∧ hasReadyWork (apply player op).1 = false ∧
      (apply player op).2 = [] := by
  cases op with
  | setRate => exact ⟨unarmed, blocked, rfl⟩
  | skipToLive =>
      rw [apply, skip_blocked player blocked]
      exact ⟨rfl, blocked, rfl⟩
  | fire =>
      change (fire player).1.timer = none ∧ hasReadyWork (fire player).1 = false ∧
        (fire player).2 = []
      unfold fire
      rw [unarmed]
      exact ⟨unarmed, blocked, rfl⟩
  | _ => cases control

theorem steers_in_session (op : Op) (control : steers op = true) : op.inSession = true := by
  cases op with
  | setRate => rfl
  | skipToLive => rfl
  | fire => rfl
  | _ => cases control

theorem session_apply {first player : Player} {state : DebateState} {arrived : List Arrival}
    {log : List DebateInput} (played : Played anyArrival (reset first) arrived log player)
    (view : SameView state (reduceAll connectingState log)) (op : Op)
    (inSession : op.inSession = true) :
    ∃ later, Played anyArrival (reset first) (arrived ++ op.arrival.toList) later
        (apply player op).1 ∧
      SameView (reduceAll state (apply player op).2) (reduceAll connectingState later) := by
  refine ⟨_, played.apply op inSession fun _ _ => trivial, ?_⟩
  rw [reduce_all_append]
  exact filtered_view view _ (apply_known player op inSession)

theorem session_settled {first player : Player} {state : DebateState} {arrived : List Arrival}
    {log : List DebateInput} (played : Played anyArrival (reset first) arrived log player)
    (view : SameView state (reduceAll connectingState log)) (op : Op)
    (inSession : op.inSession = true) (terminal : TERMINAL state.phase = true) :
    SameView (reduceAll state (apply player op).2) state := by
  rw [view.phase] at terminal
  obtain ⟨idle, halted⟩ := (session_phase played).mp terminal
  have same := filtered_view (.refl state) _ (apply_known player op inSession)
  rwa [halted_silent player op inSession idle halted] at same

/-- What an effect leaves of a hook that no event can reach. -/
structure Unmoved (hook : Hook) (answer : Hook × List DebateInput) : Prop where
  deaf : Deaf answer.1
  unarmed : answer.1.player.timer = none
  blocked : hasReadyWork answer.1.player = false
  state : answer.1.state = hook.state
  silent : answer.2 = []

theorem deaf_effect {answer : Hook × List DebateInput} (deaf : Deaf hook)
    (unarmed : hook.player.timer = none) (blocked : hasReadyWork hook.player = false)
    (effect : Effect hook answer) : Unmoved hook answer := by
  have unheard : ∀ {index : Nat} {client : Client}, hook.clients[index]? = some client →
      client.attached = true → False := by
    intro index client found attached
    rw [deaf client (List.mem_of_getElem? found)] at attached
    cases attached
  cases effect with
  | ignored => exact ⟨deaf, unarmed, blocked, rfl, rfl⟩
  | steered op control =>
      obtain ⟨timer, work, silent⟩ := steered_quiet hook.player unarmed blocked op control
      refine ⟨deaf, timer, work, ?_, silent⟩
      change reduceAll hook.state (apply hook.player op).2 = hook.state
      rw [silent]
      rfl
  | heard op inSession index client found attached => exact (unheard found attached).elim
  | dropped index client found attached => exact (unheard found attached).elim

/-- What a call within the session leaves of the hook. -/
structure Called (hook : Hook) (op : Op) (answer : Hook × List DebateInput) : Prop where
  inSession : op.inSession = true
  player : answer.1.player = (apply hook.player op).1
  state : answer.1.state = reduceAll hook.state (apply hook.player op).2
  dispatched : answer.2 = (apply hook.player op).2

theorem effect_called {answer : Hook × List DebateInput} (effect : Effect hook answer) :
    answer = (hook, []) ∨ ∃ op, Called hook op answer := by
  cases effect with
  | ignored => exact .inl rfl
  | steered op control => exact .inr ⟨op, steers_in_session op control, rfl, rfl, rfl⟩
  | heard op inSession => exact .inr ⟨op, inSession, rfl, rfl, rfl⟩
  | dropped => exact .inr ⟨.feedStatus .closed, rfl, rfl, rfl, rfl⟩

theorem effect_situation {answer : Hook × List DebateInput} (situation : Situation hook)
    (effect : Effect hook answer) :
    Situation answer.1 ∧
      (TERMINAL hook.state.phase = true → SameView answer.1.state hook.state) := by
  cases situation with
  -- without a session nothing reaches the player
  | quiet deaf unarmed blocked resting =>
      have unmoved := deaf_effect deaf unarmed blocked effect
      constructor
      · refine .quiet unmoved.deaf unmoved.unarmed unmoved.blocked ?_
        rwa [unmoved.state]
      · intro terminal
        rw [unmoved.state]
        exact .refl _
  -- the op continues the session it finds
  | session first arrived log played rested view gone =>
      cases effect with
      | ignored => exact ⟨.session first arrived log played rested view gone, fun _ => .refl _⟩
      | steered op control =>
          have inSession := steers_in_session op control
          obtain ⟨later, path, sees⟩ := session_apply played view op inSession
          refine ⟨.session first _ later path (apply_rests _ op rested) sees fun deaf => ?_,
            session_settled played view op inSession⟩
          exact List.mem_append_left _ (gone deaf)
      | heard op inSession index client found attached update keeps =>
          obtain ⟨later, path, sees⟩ := session_apply played view op inSession
          refine ⟨.session first _ later path (apply_rests _ op rested) sees fun deaf => ?_,
            session_settled played view op inSession⟩
          have listed : (hook.clients.modify index update)[index]? = some (update client) := by
            rw [List.getElem?_modify_eq, found]
            rfl
          have silent := deaf (update client) (List.mem_of_getElem? listed)
          rw [(keeps client).1, attached] at silent
          cases silent
      | dropped index client found attached =>
          obtain ⟨later, path, sees⟩ := session_apply played view (.feedStatus .closed) rfl
          refine ⟨.session first _ later path (apply_rests _ _ rested) sees fun _ => ?_,
            session_settled played view (.feedStatus .closed) rfl⟩
          exact List.mem_append_right _ List.mem_cons_self

end Situations

section Runs
variable (parseEvent : Text → Except Text DebateEvent)

theorem hook_step_state (hook : Hook) (op : HookOp) :
    (hookStep parseEvent hook op).1.state =
      reduceAll hook.state (hookStep parseEvent hook op).2 := by
  by_cases asked : op.isAsk = true
  · cases op with
    | ask question rounds =>
        rw [hookStep]
        cases built : buildAsk question rounds with
        | error message =>
            rw [ask_rejected hook question rounds message built]
            rfl
        | ok message =>
            rw [ask_accepted hook question rounds message built]
            rfl
    | _ => cases asked
  · by_cases stopped : op = .stop
    · subst stopped
      exact (stop_state hook).2
    · have effect := hook_step_effect parseEvent hook op (by simpa using asked) stopped
      generalize hookStep parseEvent hook op = answer at effect
      cases effect <;> rfl

theorem exclusive_create (reducedMotion : Bool) : Exclusive (createHook reducedMotion) :=
  fun _ _ found => nomatch found

theorem exclusive_step {hook : Hook} (exclusive : Exclusive hook) (op : HookOp) :
    Exclusive (hookStep parseEvent hook op).1 := by
  by_cases asked : op.isAsk = true
  · cases op with
    | ask question rounds => exact ask_exclusive exclusive question rounds
    | _ => cases asked
  · by_cases stopped : op = .stop
    · subst stopped
      exact exclusive_of_deaf (stop_deaf exclusive)
    · exact effect_exclusive exclusive
        (hook_step_effect parseEvent hook op (by simpa using asked) stopped)

theorem exclusive_run {hook : Hook} (exclusive : Exclusive hook) (ops : List HookOp) :
    Exclusive (runHook parseEvent hook ops).1 := by
  induction ops generalizing hook with
  | nil => exact exclusive
  | cons op rest ih => exact ih (exclusive_step parseEvent exclusive op)

/-- What a hook reached by accepted questions keeps. -/
structure Kept (hook : Hook) : Prop where
  exclusive : Exclusive hook
  situation : Situation hook

theorem kept_create (reducedMotion : Bool) : Kept (createHook reducedMotion) where
  exclusive := exclusive_create reducedMotion
  situation := .quiet (fun _ member => nomatch member) rfl rfl (.inl rfl)

theorem kept_step {hook : Hook} (kept : Kept hook) (op : HookOp)
    (accepted : op.accepted = true) : Kept (hookStep parseEvent hook op).1 := by
  refine ⟨exclusive_step parseEvent kept.exclusive op, ?_⟩
  by_cases asked : op.isAsk = true
  · cases op with
    | ask question rounds =>
        obtain ⟨message, built⟩ := accepted_built question rounds accepted
        exact ask_situation question rounds message built
    | _ => cases asked
  · by_cases stopped : op = .stop
    · subst stopped
      exact stop_situation kept.exclusive
    · have effect := hook_step_effect parseEvent hook op (by simpa using asked) stopped
      exact (effect_situation kept.situation effect).1

theorem kept_run {hook : Hook} (kept : Kept hook) (ops : List HookOp)
    (accepted : ∀ op ∈ ops, op.accepted = true) : Kept (runHook parseEvent hook ops).1 := by
  induction ops generalizing hook with
  | nil => exact kept
  | cons op rest ih =>
      exact ih (kept_step parseEvent kept op (accepted op List.mem_cons_self))
        fun other member => accepted other (List.mem_cons_of_mem op member)

theorem accepted_of_unasked (op : HookOp) (unasked : op.isAsk = false) :
    op.accepted = true := by
  cases op with
  | ask => cases unasked
  | _ => rfl

theorem terminal_step {hook : Hook} (kept : Kept hook)
    (terminal : TERMINAL hook.state.phase = true) (op : HookOp) (unasked : op.isAsk = false) :
    SameView (hookStep parseEvent hook op).1.state hook.state := by
  by_cases stopped : op = .stop
  · subst stopped
    rw [hookStep, (stop_state hook).2]
    simp only [debateReducer, terminal]
    exact .refl _
  · have effect := hook_step_effect parseEvent hook op unasked stopped
    exact (effect_situation kept.situation effect).2 terminal

theorem terminal_run {hook : Hook} (kept : Kept hook)
    (terminal : TERMINAL hook.state.phase = true) (ops : List HookOp)
    (unasked : ∀ op ∈ ops, op.isAsk = false) :
    SameView (runHook parseEvent hook ops).1.state hook.state := by
  induction ops generalizing hook with
  | nil => exact .refl _
  | cons op rest ih =>
      have here := unasked op List.mem_cons_self
      have first := terminal_step parseEvent kept terminal op here
      have next := kept_step parseEvent kept op (accepted_of_unasked op here)
      refine (ih next (by rw [first.phase, terminal]) fun other member => ?_).trans first
      exact unasked other (List.mem_cons_of_mem op member)

/-- In every reachable state a phase in progress has an open socket or a
timeout behind it, and a terminal phase keeps the view until the next `ask`. -/
theorem no_zombie_sessions (reducedMotion : Bool) (ops : List HookOp)
    (accepted : ∀ op ∈ ops, op.accepted = true) :
    let hook := (runHook parseEvent (createHook reducedMotion) ops).1
    (hook.state.phase = .connecting ∨ hook.state.phase = .debating ∨
        hook.state.phase = .moderating →
      hook.listening ∨ hook.player.timer.isSome = true) ∧
    (TERMINAL hook.state.phase = true → ∀ later : List HookOp,
      (∀ op ∈ later, op.isAsk = false) →
        SameView (runHook parseEvent hook later).1.state hook.state) := by
  intro hook
  have kept := kept_run parseEvent (kept_create reducedMotion) ops accepted
  exact ⟨situation_backed kept.exclusive kept.situation, terminal_run parseEvent kept⟩

end Runs

/-- Every frame is a word of the skeptic's; an empty one ends the first round. -/
def skeptical : Text → Except Text DebateEvent
  | [] => .ok (.roundComplete 1)
  | words => .ok (.token .skeptic 1 words)

/-- A session is closed before anything arrives and asked for again; its socket
closes while the skeptic speaks. -/
def reopened : List HookOp :=
  [.ask (units "Why?") none, .socket 0 .opened, .socket 0 .close,
    .ask (units "Why?") (some (.finite 4)), .socket 1 .opened,
    .socket 1 (.message (.text (units "Because it is so"))), .socket 1 (.message (.text [])),
    .socket 1 .close]

def reopenedHook (later : List HookOp) : Hook :=
  (runHook skeptical (createHook false) (reopened ++ later)).1

/-- The debate goes on from the timeout alone, and once it is stopped nothing
brings it back. -/
theorem no_zombie_sessions_reopened :
    ((reopenedHook []).state.phase = .debating ∧
      ((reopenedHook []).listening ∨ (reopenedHook []).player.timer.isSome = true)) ∧
    SameView (runHook skeptical (reopenedHook [.stop])
      [.socket 1 (.message (.text [])), .fire, .goToLive, .stop]).1.state
        (reopenedHook [.stop]).state := by
  have debating : (reopenedHook []).state.phase = .debating := by decide +kernel
  have terminal : TERMINAL (reopenedHook [.stop]).state.phase = true := by decide +kernel
  have goes := no_zombie_sessions skeptical false (reopened ++ []) (by decide)
  have ends := no_zombie_sessions skeptical false (reopened ++ [.stop]) (by decide)
  exact ⟨⟨debating, goes.1 (.inr (.inl debating))⟩, ends.2 terminal _ (by decide)⟩

end Council.SessionPhases

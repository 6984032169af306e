import Council.WholeSystem

/-!
What the user reads is what the panel said. Whatever the user, the timer, the
network and the other connections do, the screen is the beginning of the debate
the server holds on the last question; and a question that is left alone is
answered on the screen to its end.
-/

namespace Council.ReadAsSaid

open Council.Machines
open Council.Protocol
open Council.ServerProtocol
open Council.DebateReducer
open Council.DebatePlayer
open Council.PlayerRuns
open Council.AskWire
open Council.AskText
open Council.EventWire
open Council.EventText
open Council.EventAgreement
open Council.UseDebate
open Council.WireStream
open Council.SessionPhases
open Council.Screen
open Council.Broadcast
open Council.WholeSystem

/-- What the first events of a connection are to the player. -/
def aired (world : World) (client count : Nat) : List Arrival :=
  ((world.server client).written.take count).map fun event => .event (heardAs event)

/-- Where the player's arrivals come from: everything that was delivered, or
what had been when the socket closed. -/
inductive Source (world : World) (current : Nat) (arrived : List Arrival) : Prop where
  | attached (client : Client) (found : world.hook.clients[current]? = some client)
      (heard : client.attached = true) (same : arrived = aired world current (world.taken current)) :
      Source world current arrived
  | closed (deaf : Deaf world.hook) (count : Nat) (below : count ≤ world.taken current)
      (same : arrived = aired world current count ++ [.close]) : Source world current arrived

/-- No question yet, a session that plays the last question's connection, or
one that was stopped. -/
inductive Tuned (world : World) : Prop where
  | unasked (nobody : world.hook.clients = []) (unarmed : world.hook.player.timer = none)
      (blocked : hasReadyWork world.hook.player = false) : Tuned world
  | live (current : Nat) (last : world.hook.clients.length = current + 1) (first : Player)
      (arrived : List Arrival) (log : List DebateInput)
      (played : Played anyArrival (reset first) arrived log world.hook.player)
      (rested : Rested world.hook.player)
      (view : SameView world.hook.state (reduceAll connectingState log))
      (source : Source world current arrived) : Tuned world
  | stopped (current : Nat) (last : world.hook.clients.length = current + 1)
      (deaf : Deaf world.hook) (unarmed : world.hook.player.timer = none)
      (blocked : hasReadyWork world.hook.player = false) (first player : Player)
      (arrived : List Arrival) (log : List DebateInput)
      (played : Played anyArrival (reset first) arrived log player)
      (sees : Sees world.hook.state log) (count : Nat) (below : count ≤ world.taken current)
      (begun : arrived <+: aired world current count ++ [.close]) : Tuned world

section Sources

variable {world after : World} {current count : Nat} {arrived : List Arrival}

theorem aired_grows (grows : (world.server current).written <+: (after.server current).written)
    (inside : count ≤ (world.server current).written.length) :
    aired after current count = aired world current count := by
  rcases grows with ⟨rest, same⟩
  rw [aired, ← same, List.take_append_of_le_length inside]
  rfl

theorem tuned_grows (same : after.hook = world.hook)
    (grows : ∀ client, (world.server client).written <+: (after.server client).written)
    (counted : ∀ client, world.taken client ≤ (world.server client).written.length)
    (taken : ∀ client, world.taken client ≤ after.taken client)
    (silent : ∀ index client, world.hook.clients[index]? = some client →
      client.attached = true → after.taken index = world.taken index)
    (tuned : Tuned world) : Tuned after := by
  have keeps : ∀ current count, count ≤ world.taken current →
      aired after current count = aired world current count := fun current count below =>
    aired_grows (grows current) (Nat.le_trans below (counted current))
  cases tuned with
  | unasked nobody unarmed blocked =>
      exact .unasked (by rw [same]; exact nobody) (by rw [same]; exact unarmed)
        (by rw [same]; exact blocked)
  | live current last first arrived log played rested view source =>
      refine .live current (by rw [same]; exact last) first arrived log (by rw [same]; exact played)
        (by rw [same]; exact rested) (by rw [same]; exact view) ?_
      cases source with
      | attached client found heard arrived_ =>
          refine .attached client (by rw [same]; exact found) heard ?_
          rw [silent current client found heard, keeps current _ (Nat.le_refl _)]
          exact arrived_
      | closed deaf count below arrived_ =>
          refine .closed (by rw [same]; exact deaf) count (Nat.le_trans below (taken current)) ?_
          rw [keeps current count below]
          exact arrived_
  | stopped current last deaf unarmed blocked first player arrived log played sees count below
      begun =>
      refine .stopped current (by rw [same]; exact last) (by rw [same]; exact deaf)
        (by rw [same]; exact unarmed) (by rw [same]; exact blocked) first player arrived log played
        (by rw [same]; exact sees) count (Nat.le_trans below (taken current)) ?_
      rw [keeps current count below]
      exact begun

end Sources

section Calls

variable {setting : Setting} {world : World}

theorem tuned_steer (tuned : Tuned world) (op : Op) (control : steers op = true)
    (call : HookOp)
    (answer : hookStep setting.parse world.hook call = world.hook.absorb (apply world.hook.player op)) :
    Tuned (setting.tell world call) := by
  have told : setting.tell world call =
      { world with hook := (world.hook.absorb (apply world.hook.player op)).1 } := by
    rw [Setting.tell, answer]
  rw [told]
  cases tuned with
  | unasked nobody unarmed blocked =>
      have quiet := steered_quiet world.hook.player unarmed blocked op control
      exact .unasked nobody quiet.1 quiet.2.1
  | live current last first arrived log played rested view source =>
      have inSession := steers_in_session op control
      obtain ⟨later, path, sees⟩ := session_apply played view op inSession
      have nothing : op.arrival.toList = [] := by
        cases op with
        | setRate => rfl
        | skipToLive => rfl
        | fire => rfl
        | _ => cases control
      rw [nothing, List.append_nil] at path
      refine .live current last first arrived later path (apply_rests _ op rested) sees ?_
      cases source with
      | attached client found heard same => exact .attached client found heard same
      | closed deaf count below same => exact .closed deaf count below same
  | stopped current last deaf unarmed blocked first player arrived log played sees count below
      begun =>
      have quiet := steered_quiet world.hook.player unarmed blocked op control
      refine .stopped current last deaf quiet.1 quiet.2.1 first player arrived log played ?_ count
        below begun
      change Sees (reduceAll world.hook.state (apply world.hook.player op).2) log
      rw [quiet.2.2]
      exact sees

theorem tuned_ask (question : Text) (rounds : Option JsNumber) (message : AskMessage)
    (built : buildAsk question rounds = .ok message) (connected : Connected setting world) :
    Tuned (setting.tell world (.ask question rounds)) := by
  have length : world.hook.disposeClient.clients.length = world.hook.clients.length := by
    rw [← length_messages, ← length_messages, dispose_messages]
  have told : (setting.tell world (.ask question rounds)).hook =
      { state := connectingState
        player := reset (reset world.hook.player)
        clients := world.hook.disposeClient.clients ++ [createWsClient.connect message]
        clientRef := some world.hook.disposeClient.clients.length } := by
    rw [Setting.tell, hookStep, ask_accepted world.hook question rounds message built]
  have clear := connected.fresh world.hook.clients.length (Nat.le_refl _)
  refine .live world.hook.clients.length ?_ (reset world.hook.player) [] [] ?_ ?_ ?_
    (.attached (createWsClient.connect message) ?_ rfl ?_)
  · rw [told]
    simp [length]
  · rw [told]
    exact .start
  · rw [told]
    exact reset_rests _
  · rw [told]
    exact .refl _
  · rw [told, ← length]
    simp
  · have taken : (setting.tell world (.ask question rounds)).taken world.hook.clients.length = 0 :=
      clear.2
    rw [aired, taken]
    rfl

theorem tuned_stop (connected : Connected setting world) (tuned : Tuned world) :
    Tuned (setting.tell world .stop) := by
  have same := stop_state world.hook
  have deaf := stop_deaf connected.exclusive
  have length : (stop world.hook).1.clients.length = world.hook.clients.length := by
    rw [← length_messages, ← length_messages]
    have kept := step_messages setting.parse world.hook .stop rfl
    rw [hookStep] at kept
    rw [kept]
  have unarmed : (stop world.hook).1.player.timer = none := by
    rw [same.1]
    rfl
  have blocked : hasReadyWork (stop world.hook).1.player = false := by
    rw [same.1]
    rfl
  cases tuned with
  | unasked nobody =>
      refine .unasked (List.length_eq_zero_iff.mp ?_) unarmed blocked
      have none_ : world.hook.clients.length = 0 := List.length_eq_zero_iff.mpr nobody
      exact length.trans none_
  | live current last first arrived log played rested view source =>
      have sees : Sees (stop world.hook).1.state log := by
        rw [same.2]
        exact sees_cancel (sees_view view)
      cases source with
      | attached client found heard same_ =>
          refine .stopped current (length.trans last) deaf unarmed blocked first _ arrived log played
            sees (world.taken current) (Nat.le_refl _) ?_
          rw [same_]
          exact List.prefix_append _ _
      | closed _ count below same_ =>
          refine .stopped current (length.trans last) deaf unarmed blocked first _ arrived log played
            sees count below ?_
          rw [same_]
          exact List.prefix_refl _
  | stopped current last _ _ _ first player arrived log played sees count below begun =>
      refine .stopped current (length.trans last) deaf unarmed blocked first player arrived log
        played ?_ count below begun
      rw [Setting.tell, hookStep, same.2]
      exact sees_cancel sees

end Calls

section Sockets

variable {setting : Setting} {world after : World}

theorem unheard_kept (client : Nat) (event : SocketEvent)
    (unheard : ∀ found, world.hook.clients[client]? = some found → found.attached = false) :
    setting.tell world (.socket client event) = world := by
  rw [Setting.tell, hookStep]
  unfold onSocket
  cases listed : world.hook.clients[client]? with
  | none => rfl
  | some found => simp [unheard found listed]

/-- The session whose socket has handlers. -/
structure Hears (world : World) (current : Nat) : Prop where
  last : world.hook.clients.length = current + 1
  session : ∃ (first : Player) (log : List DebateInput),
    Played anyArrival (reset first) (aired world current (world.taken current)) log
        world.hook.player ∧
      Rested world.hook.player ∧ SameView world.hook.state (reduceAll connectingState log)

theorem tuned_hears (tuned : Tuned world) (exclusive : Exclusive world.hook) {client : Nat}
    {found : Client} (listed : world.hook.clients[client]? = some found)
    (attached : found.attached = true) : Hears world client := by
  have undeaf : Deaf world.hook → False := fun deaf => by
    rw [deaf found (List.mem_of_getElem? listed)] at attached
    cases attached
  cases tuned with
  | unasked nobody =>
      rw [nobody] at listed
      cases listed
  | live current last first arrived log played rested view source =>
      cases source with
      | closed deaf => exact (undeaf deaf).elim
      | attached other known heard same =>
          have here := (exclusive client found listed attached).1
          rw [(exclusive current other known heard).1] at here
          cases here
          subst same
          exact ⟨last, first, log, played, rested, view⟩
  | stopped _ _ deaf => exact (undeaf deaf).elim

theorem hears_called {current : Nat} (hears : Hears world current) (op : Op)
    (inSession : op.inSession = true) (clients : List Client)
    (length : clients.length = world.hook.clients.length)
    (same : after.hook = { (world.hook.absorb (apply world.hook.player op)).1 with
      clients := clients })
    (source : Source after current
      (aired world current (world.taken current) ++ op.arrival.toList)) : Tuned after := by
  rcases hears with ⟨last, first, log, played, rested, view⟩
  obtain ⟨later, path, sees⟩ := session_apply played view op inSession
  refine .live current ?_ first _ later ?_ ?_ ?_ source
  · rw [same]
    exact length.trans last
  · rw [same]
    exact path
  · rw [same]
    exact apply_rests _ op rested
  · rw [same]
    exact sees

theorem modify_attached (clients : List Client) (index : Nat) (client : Client)
    (update : Client → Client) (listed : clients[index]? = some client) :
    (clients.modify index update)[index]? = some (update client) := by
  rw [List.getElem?_modify_eq, listed]
  rfl

theorem tuned_opened (connected : Connected setting world) (tuned : Tuned world) (client : Nat) :
    Tuned (setting.tell world (.socket client .opened)) := by
  by_cases heard : ∃ found, world.hook.clients[client]? = some found ∧ found.attached = true
  · rcases heard with ⟨found, listed, attached⟩
    have hears := tuned_hears tuned connected.exclusive listed attached
    refine hears_called hears (.feedStatus .opened) rfl
      (world.hook.clients.modify client Client.send) (List.length_modify _ _ _) ?_ ?_
    · simp only [Setting.tell, hookStep, onSocket, listed, attached]
      rfl
    · refine .attached found.send ?_ ?_ (List.append_nil _)
      · simp only [Setting.tell, hookStep, onSocket, listed, attached]
        exact modify_attached _ _ _ _ listed
      · rw [(send_keeps found).1]
        exact attached
  · rw [unheard_kept client .opened fun found listed => by
      simpa using fun attached => heard ⟨found, listed, attached⟩]
    exact tuned

theorem tuned_failed (connected : Connected setting world) (tuned : Tuned world) (client : Nat) :
    Tuned (setting.tell world (.socket client .error)) := by
  by_cases heard : ∃ found, world.hook.clients[client]? = some found ∧ found.attached = true
  · rcases heard with ⟨found, listed, attached⟩
    have hears := tuned_hears tuned connected.exclusive listed attached
    refine hears_called hears (.feedStatus .error) rfl world.hook.clients rfl ?_ ?_
    · simp only [Setting.tell, hookStep, onSocket, listed, attached]
      rfl
    · refine .attached found ?_ attached (List.append_nil _)
      simp only [Setting.tell, hookStep, onSocket, listed, attached]
      exact listed
  · rw [unheard_kept client .error fun found listed => by
      simpa using fun attached => heard ⟨found, listed, attached⟩]
    exact tuned

theorem told_closed {client : Nat} {found : Client}
    (listed : world.hook.clients[client]? = some found) (attached : found.attached = true) :
    (setting.tell world (.socket client .close)).hook =
      { (world.hook.absorb (apply world.hook.player (.feedStatus .closed))).1 with
        clients := world.hook.clients.modify client Client.drop } := by
  simp only [Setting.tell, hookStep, onSocket, listed, attached]
  rfl

theorem closed_deaf (exclusive : Exclusive world.hook) {client : Nat} {found : Client}
    (listed : world.hook.clients[client]? = some found) (attached : found.attached = true) :
    Deaf (setting.tell world (.socket client .close)).hook := by
  intro other member
  rw [told_closed listed attached] at member
  obtain ⟨position, there⟩ := List.getElem?_of_mem member
  obtain ⟨before, known, rfl⟩ := modify_cases _ _ _ _ _ there
  by_contra still
  by_cases here : client = position
  · subst here
    rw [if_pos rfl] at still
    cases known.symm.trans listed
    have held := (exclusive client found listed attached).2
    simp [Client.drop, held] at still
  · rw [if_neg here] at still
    have one := (exclusive position before known (by simpa using still)).1
    rw [(exclusive client found listed attached).1] at one
    exact here (Option.some.inj one)

theorem tuned_closed (connected : Connected setting world) (tuned : Tuned world) (client : Nat) :
    Tuned (setting.tell world (.socket client .close)) := by
  by_cases heard : ∃ found, world.hook.clients[client]? = some found ∧ found.attached = true
  · rcases heard with ⟨found, listed, attached⟩
    have hears := tuned_hears tuned connected.exclusive listed attached
    exact hears_called hears (.feedStatus .closed) rfl
      (world.hook.clients.modify client Client.drop) (List.length_modify _ _ _)
      (told_closed listed attached)
      (.closed (closed_deaf connected.exclusive listed attached) (world.taken client)
        (Nat.le_refl _) rfl)
  · rw [unheard_kept client .close fun found listed => by
      simpa using fun attached => heard ⟨found, listed, attached⟩]
    exact tuned

variable (decimals : Decimals setting.toNumber) (seats : setting.handler.personas = panel)

include decimals seats

theorem heard_frame {session : HandleSession.Session 4}
    (reached : Machines.Reaches (HandleSession.step setting.handler) always {} session)
    {event : Event} (written : event ∈ session.written)
    (short : (encode event).length ≤ MAX_FRAME_CHARS) (player : Player) :
    onMessage setting.parse player (.text (encode event)) =
      apply player (.feed (heardAs event)) := by
  rcases written_writable seats reached written with ⟨rounds, accepted, writable⟩
  have small := (writable_short accepted writable).1
  have agree := parse_encode decimals event (by omega)
  rcases eventSchema_marshal accepted writable with ⟨read, known, _⟩
  have parsed : setting.parse (encode event) = .ok read := by
    rw [Setting.parse, parseEvent, agree]
    simp only [known]
  have same : heardAs event = read := by
    rw [heardAs, known]
    rfl
  rw [onMessage, if_neg (Nat.not_lt.mpr short), parsed, same]
  rfl

theorem tuned_deliver (connected : Connected setting world) (tuned : Tuned world) (client : Nat)
    (event : Event) (next : (world.server client).written[world.taken client]? = some event)
    (short : (encode event).length ≤ MAX_FRAME_CHARS) :
    Tuned { setting.tell world (.socket client (.message (.text (encode event)))) with
      taken := Function.update world.taken client (world.taken client + 1) } := by
  by_cases heard : ∃ found, world.hook.clients[client]? = some found ∧ found.attached = true
  · rcases heard with ⟨found, listed, attached⟩
    have hears := tuned_hears tuned connected.exclusive listed attached
    have frame := heard_frame decimals seats (connected.sessions client)
      (List.mem_of_getElem? next) short world.hook.player
    refine hears_called hears (.feed (heardAs event)) rfl world.hook.clients rfl ?_ ?_
    · simp only [Setting.tell, hookStep, onSocket, listed, attached, frame]
      rfl
    · refine .attached found ?_ attached ?_
      · simp only [Setting.tell, hookStep, onSocket, listed, attached]
        exact listed
      · simp only [aired, Function.update_self, List.take_add_one]
        change _ = List.map _ (_ ++ (world.server client).written[world.taken client]?.toList)
        rw [next, List.map_append]
        rfl
  · have lost := @unheard_kept setting world client
      (.message (.text (encode event))) fun found listed => by
        simpa using fun attached => heard ⟨found, listed, attached⟩
    rw [lost]
    refine @tuned_grows world _ rfl (fun _ => List.prefix_refl _) connected.counted ?_ ?_ tuned
    · intro other
      by_cases here : other = client
      · subst here
        simp
      · simp [here]
    · intro index other listed attached
      have apart : index ≠ client := fun same => heard ⟨other, same ▸ listed, attached⟩
      simp [apart]

end Sockets

section Runs

variable {setting : Setting} {world after : World} {act : Act}
  (decimals : Decimals setting.toNumber) (seats : setting.handler.personas = panel)

theorem tuned_server (connected : Connected setting world) (tuned : Tuned world) (client : Nat)
    (session : HandleSession.Session 4)
    (grows : (world.server client).written <+: session.written) :
    Tuned { world with server := Function.update world.server client session } := by
  refine @tuned_grows world _ rfl (fun other => ?_) connected.counted (fun _ => Nat.le_refl _)
    (fun _ _ _ _ => rfl) tuned
  by_cases here : other = client
  · subst here
    simp only [Function.update_self]
    exact grows
  · simp only [Function.update_of_ne here]
    exact List.prefix_refl _

theorem tuned_user (connected : Connected setting world) (tuned : Tuned world) (op : HookOp)
    (accepted : op.accepted = true) (unheard : ∀ client event, op ≠ .socket client event) :
    Tuned (setting.tell world op) := by
  cases op with
  | ask question rounds =>
      rcases accepted_built question rounds accepted with ⟨message, built⟩
      exact tuned_ask question rounds message built connected
  | stop => exact tuned_stop connected tuned
  | setRate multiplier => exact tuned_steer tuned (.setRate multiplier) rfl _ rfl
  | goToLive => exact tuned_steer tuned .skipToLive rfl _ rfl
  | fire => exact tuned_steer tuned .fire rfl _ rfl
  | socket client event => exact absurd rfl (unheard client event)

include decimals seats

theorem tuned_step (connected : Connected setting world) (tuned : Tuned world)
    (short : fits world act) (taken : setting.step world act = some after) : Tuned after := by
  cases act with
  | user op =>
      cases op with
      | socket client event => cases taken
      | ask question rounds =>
          simp only [Setting.step] at taken
          split at taken
          next accepted =>
            cases taken
            apply tuned_user connected tuned _ accepted
            intro client event same
            cases same
          · cases taken
      | _ =>
          cases taken
          apply tuned_user connected tuned _ rfl
          intro client event same
          cases same
  | opened client =>
      simp only [Setting.step] at taken
      split at taken
      · cases taken
      next before found =>
        cases taken
        have told := connected_tell connected (.socket client .opened) rfl
        have posting := @post_reaches setting (world.server client) (outbox before)
          (connected.sessions client)
        exact tuned_server told (tuned_opened connected tuned client) client _ posting.2.1
  | serve client action =>
      rcases served_of_step taken with ⟨session, _, moved, rfl⟩
      exact tuned_server connected tuned client session (written_grows moved)
  | deliver client =>
      simp only [Setting.step] at taken
      split at taken
      · cases taken
      next event next =>
        cases taken
        exact tuned_deliver decimals seats connected tuned client event next (short event next)
  | failed client =>
      cases taken
      exact tuned_failed connected tuned client
  | closed client =>
      cases taken
      exact tuned_closed connected tuned client

theorem tuned_reachable {reducedMotion : Bool}
    (reached : Machines.Reaches setting.step fits (World.start reducedMotion) world) :
    Connected setting world ∧ Tuned world := by
  refine reached.invariant (fun world => Connected setting world ∧ Tuned world)
    ⟨connected_start setting reducedMotion, .unasked rfl rfl rfl⟩ ?_
  rintro before act after - short taken ⟨connected, tuned⟩
  exact ⟨connected_step connected taken,
    tuned_step decimals seats connected tuned short taken⟩

omit decimals seats

/-- Whatever has happened to the last session, some player has played what is
on the screen from the beginning of what was delivered. -/
theorem tuned_played (tuned : Tuned world) {current : Nat}
    (last : world.hook.clients.length = current + 1) :
    ∃ (first player : Player) (arrived : List Arrival) (log : List DebateInput) (count : Nat),
      Played anyArrival (reset first) arrived log player ∧ Sees world.hook.state log ∧
        count ≤ world.taken current ∧ arrived <+: aired world current count ++ [.close] := by
  cases tuned with
  | unasked nobody =>
      rw [nobody] at last
      cases last
  | live index length first arrived log played rested view source =>
      have here : index = current := Nat.succ.inj (length.symm.trans last)
      subst here
      cases source with
      | attached client found heard same =>
          refine ⟨first, _, arrived, log, world.taken index, played, sees_view view,
            Nat.le_refl _, ?_⟩
          rw [same]
          exact List.prefix_append _ _
      | closed deaf count below same =>
          exact ⟨first, _, arrived, log, count, played, sees_view view, below,
            same ▸ List.prefix_refl _⟩
  | stopped index length deaf unarmed blocked first player arrived log played sees count below
      begun =>
      have here : index = current := Nat.succ.inj (length.symm.trans last)
      subst here
      exact ⟨first, player, arrived, log, count, played, sees, below, begun⟩

theorem aired_events (current count : Nat) :
    aired world current count =
      (((world.server current).written.take count).map heardAs).map Arrival.event := by
  rw [aired, List.map_map]
  rfl

theorem orderly_refusal (events : List DebateEvent)
    (small : events = [] ∨ ∃ error, error.terminal = true ∧ events = [.error error]) :
    Orderly 0 (events.map .event ++ [.close]) := by
  rcases small with rfl | ⟨error, terminal, rfl⟩
  · exact ⟨List.pairwise_singleton _ _, by simp, by simp⟩
  · refine ⟨?_, by simp, by simp⟩
    refine List.pairwise_pair.mpr ⟨nofun, fun _ => rfl, nofun⟩

/-- Until a debate runs for the last question, nothing of one is shown. -/
theorem blank_unanswered (tuned : Tuned world) {current : Nat}
    (last : world.hook.clients.length = current + 1)
    (heeds : Heeds setting.handler (world.server current))
    (silent : (world.server current).run = none) : Blank world.hook.state := by
  rcases tuned_played tuned last with ⟨first, player, arrived, log, count, played, sees, _, begun⟩
  rw [aired_events] at begun
  have few : ((world.server current).written.take count).map heardAs = [] ∨
      ∃ error, error.terminal = true ∧
        ((world.server current).written.take count).map heardAs = [.error error] := by
    rcases heeds.refused silent with nothing | ⟨refused, _⟩
    · simp [nothing]
    · rw [refused]
      cases count with
      | zero => exact .inl rfl
      | succ rest =>
          right
          have heard : heardAs HandleSession.refusal = .error ⟨none, units "invalid request"⟩ := by
            decide +kernel
          exact ⟨⟨none, units "invalid request"⟩, rfl, by simp [heard]⟩
  rcases played_session (orderly_refusal _ few) begun played with ⟨script, session⟩
  refine session_blank session sees ?_ ?_ <;> intro known member
  all_goals
    rcases few with none_ | ⟨error, _, one⟩
    · simp [none_] at member
    · simp [one] at member

include decimals seats

theorem said_shows (closed : ∀ event, setting.handler.closedTakes event = false)
    {reducedMotion : Bool}
    (reached : Machines.Reaches setting.step fits (World.start reducedMotion) world)
    (current : Nat) (last : world.hook.clients.length = current + 1)
    {debate : Orchestration.Debate 4} {state : Orchestration.State 4}
    (runs : (world.server current).run = some (debate, state)) :
    ∃ place, Shows (broadcast debate) world.hook.state place := by
  rcases tuned_reachable decimals seats reached with ⟨connected, tuned⟩
  have serves := connected.sessions current
  rcases (heeds_reachable closed serves).runs debate state runs with ⟨asked, _, valid, same⟩
  -- what was written begins a word of the debate
  have running := (SessionRuns.sound_reachable serves).runs _ runs
  rcases ((SessionGrammar.tells_reachable closed serves).told debate state runs).seen with
    ⟨seen, reachable, fresh, events, _⟩
  rcases RoundGrammar.events_begin reachable fresh with ⟨whole, grammar, begins, _⟩
  rw [events] at begins
  have seated : debate.personas = panel := by
    rw [same]
    exact seats
  have bound : debate.rounds ≤ 8 := by
    rw [same]
    exact (SessionRuns.debate_rounds setting.handler valid).2
  have conformant := heard_conformant seated bound grammar
  rcases tuned_played tuned last with ⟨first, player, arrived, log, count, played, sees, _, begun⟩
  rw [aired_events] at begun
  have cut : ((world.server current).written.take count).map heardAs <+: whole.map heardAs :=
    ((List.take_prefix _ _).trans begins).map heardAs
  rcases played_session (WireStream.conformant_orderly conformant cut) begun played with
    ⟨script, session⟩
  exact ⟨_, session_shows conformant cut session sees⟩

end Runs

/-- The skeptic says one word, the others are refused. -/
def quartet : Setting where
  handler :=
    { toOrchestrator := Orchestration.New (fun call _ =>
        if call.speaker.any fun seat => seat.val = 0 then .ok ⟨["a"], none⟩
        else .error "busy") "glm" 4
      personas := panel
      closedTakes := fun _ => false }
  fraction := fun _ => []
  toNumber := decimal
  issue := fun _ => []

end Council.ReadAsSaid

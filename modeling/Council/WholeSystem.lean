import Council.AskText
import Council.Broadcast
import Council.Screen

/-!
The page and the server together. Every client the hook creates has a
connection of its own to a handler of the server: the `ask` it sends is a text
frame the handler reads, and the events the handler writes arrive at its socket
one after another, in order, whenever the browser delivers them. Between the
steps of one connection the user, the player's timer, the network and the other
connections may do anything.
-/

namespace Council.WholeSystem

open Council.Machines
open Council.Protocol
open Council.ServerProtocol
open Council.AskWire
open Council.AskBytes
open Council.AskText
open Council.EventWire
open Council.EventText
open Council.UseDebate
open Council.HandleSession

/-- The handler, and what the model leaves to the browser: the text of a number
that is no integer, the value of a numeric literal and the text of an issue. -/
structure Setting where
  handler : Handler 4
  fraction : Rat → Text
  toNumber : Text → JsNumber
  issue : Json → Text

def Setting.parse (setting : Setting) : Text → Except Text DebateEvent :=
  parseEvent (JsonText.parse setting.toNumber) setting.issue

/-- The page, the session of each of its clients at the server, and how many of
the events that were written the browser has delivered. -/
structure World where
  hook : Hook
  server : Nat → Session 4
  taken : Nat → Nat

def World.start (reducedMotion : Bool) : World where
  hook := createHook reducedMotion
  server := fun _ => {}
  taken := fun _ => 0

inductive Act where
  | user (op : HookOp)
  | opened (client : Nat)
  | serve (client : Nat) (action : HandleSession.Action 4)
  | deliver (client : Nat)
  | failed (client : Nat)
  | closed (client : Nat)

/-- What the handler of `open` sends. -/
def outbox (client : Client) : List AskMessage :=
  if client.attached && client.held then client.message.toList else []

def Setting.frame (setting : Setting) (message : AskMessage) : Option ClientMessage :=
  readMessage (decode (stringify setting.fraction message))

/-- Frames reach a server that has not been left. -/
def Setting.post (setting : Setting) : Session 4 → List AskMessage → Session 4
  | session, [] => session
  | session, message :: rest =>
      setting.post
        ((HandleSession.step setting.handler session (.send (setting.frame message))).getD session)
        rest

def Setting.tell (setting : Setting) (world : World) (op : HookOp) : World :=
  { world with hook := (hookStep setting.parse world.hook op).1 }

def Setting.step (setting : Setting) (world : World) : Act → Option World
  | .user (.socket _ _) => none
  | .user op => if op.accepted then some (setting.tell world op) else none
  | .opened client =>
      match world.hook.clients[client]? with
      | none => none
      | some before =>
          some { setting.tell world (.socket client .opened) with
            server := Function.update world.server client
              (setting.post (world.server client) (outbox before)) }
  | .serve _ (.send _) => none
  | .serve client action =>
      if client < world.hook.clients.length then
        (HandleSession.step setting.handler (world.server client) action).map fun session =>
          { world with server := Function.update world.server client session }
      else none
  | .deliver client =>
      match (world.server client).written[world.taken client]? with
      | none => none
      | some event =>
          some { setting.tell world (.socket client (.message (.text (encode event)))) with
            taken := Function.update world.taken client (world.taken client + 1) }
  | .failed client => some (setting.tell world (.socket client .error))
  | .closed client => some (setting.tell world (.socket client .close))

def fits (world : World) : Act → Prop
  | .deliver client =>
      ∀ event, (world.server client).written[world.taken client]? = some event →
        (encode event).length ≤ MAX_FRAME_CHARS
  | _ => True

instance (world : World) : (act : Act) → Decidable (fits world act)
  | .deliver client =>
      inferInstanceAs (Decidable (∀ event,
        (world.server client).written[world.taken client]? = some event →
          (encode event).length ≤ MAX_FRAME_CHARS))
  | .user _ | .opened _ | .serve _ _ | .failed _ | .closed _ => .isTrue trivial

def messages (hook : Hook) : List (Option AskMessage) := hook.clients.map Client.message

section Server

variable {handler : Handler 4} {session after : Session 4} {action : HandleSession.Action 4}

/-- A handler says nothing before it has read a frame; its debate is that of a
frame, and without a debate it only refuses. -/
structure Heeds (handler : Handler 4) (session : Session 4) : Prop where
  validating : ∀ message, session.phase = .validating message → some message ∈ session.frames
  refusing : session.phase = .refusing → session.frames ≠ []
  runs : ∀ debate state, session.run = some (debate, state) →
    ∃ message, some message ∈ session.frames ∧ message.validate = none ∧
      debate = handler.debate message
  written : session.written ≠ [] → session.frames ≠ []
  refused : session.run = none → session.written = [] ∨
    session.written = [refusal] ∧ ∃ complete, session.phase = .returned complete

theorem heeds_step
    (taken : HandleSession.step handler session action = some after)
    (sound : SessionRuns.Sound handler session) (tells : SessionGrammar.Tells session)
    (heeds : Heeds handler session) : Heeds handler after := by
  have filled : ∀ {frames : List (Option ClientMessage)} {frame : Option ClientMessage},
      frame ∈ frames → frames ≠ [] := by
    intro frames frame member empty
    rw [empty] at member
    cases member
  have ran : ∀ {debate : Orchestration.Debate 4} {state next : Orchestration.State 4},
      session.run = some (debate, state) → ∀ other kept, some (debate, next) = some (other, kept) →
        ∃ message, some message ∈ session.frames ∧ message.validate = none ∧
          other = handler.debate message := by
    rintro debate state next runs other kept same
    cases same
    exact heeds.runs debate state runs
  have early : ∀ {phase : Phase}, session.phase = phase → SessionRuns.Early phase →
      session.run = none ∧ session.written = [] := by
    intro phase at_ early
    exact ⟨sound.early (by rw [at_]; exact early), tells.before (by rw [at_]; exact early)⟩
  cases HandleSession.moves_of_step handler session after action taken with
  | send frame present =>
      constructor
      · exact fun message at_ => List.mem_append_left _ (heeds.validating message at_)
      · exact fun _ => by simp
      · intro debate state runs
        rcases heeds.runs debate state runs with ⟨message, member, valid, same⟩
        exact ⟨message, List.mem_append_left _ member, valid, same⟩
      · exact fun _ => by simp
      · exact heeds.refused
  | leave present =>
      exact ⟨heeds.validating, heeds.refusing, heeds.runs, heeds.written, heeds.refused⟩
  | accept at_ succeeds =>
      rcases early at_ trivial with ⟨none_, nothing⟩
      refine ⟨?_, ?_, heeds.runs, heeds.written, fun _ => .inl nothing⟩
      · intro message at_
        cases succeeds <;> cases at_
      · intro at_
        cases succeeds <;> cases at_
  | read at_ first =>
      rcases early at_ trivial with ⟨none_, nothing⟩
      refine ⟨?_, nofun, heeds.runs, heeds.written, fun _ => .inl nothing⟩
      intro message same
      cases same
      simp [first]
  | garbled at_ first =>
      rcases early at_ trivial with ⟨none_, nothing⟩
      exact ⟨nofun, nofun, heeds.runs, heeds.written, fun _ => .inl nothing⟩
  | interrupt at_ gone =>
      rcases early at_ trivial with ⟨none_, nothing⟩
      exact ⟨nofun, nofun, heeds.runs, heeds.written, fun _ => .inl nothing⟩
  | invalid at_ wrong =>
      rcases early at_ trivial with ⟨none_, nothing⟩
      exact ⟨nofun, fun _ => filled (heeds.validating _ at_), heeds.runs, heeds.written,
        fun _ => .inl nothing⟩
  | valid at_ accepted =>
      refine ⟨nofun, nofun, ?_, heeds.written, nofun⟩
      intro debate state same
      cases same
      exact ⟨_, heeds.validating _ at_, accepted, rfl⟩
  | refuse at_ succeeds =>
      rcases early at_ trivial with ⟨none_, nothing⟩
      refine ⟨nofun, nofun, heeds.runs, fun _ => heeds.refusing at_, fun _ => ?_⟩
      cases succeeds with
      | false => exact .inl nothing
      | true => exact .inr ⟨by simp [nothing], _, rfl⟩
  | inner runs kept moved silent =>
      exact ⟨heeds.validating, heeds.refusing, ran runs, heeds.written, nofun⟩
  | receive at_ runs kept moved offers => exact ⟨nofun, nofun, ran runs, heeds.written, nofun⟩
  | drained at_ runs shut => exact ⟨nofun, nofun, ran runs, heeds.written, nofun⟩
  | wrote at_ took =>
      have runs := sound.looping (by rw [at_]; trivial)
      rcases Option.isSome_iff_exists.mp runs with ⟨⟨debate, state⟩, same⟩
      rcases heeds.runs debate state same with ⟨message, member, _⟩
      refine ⟨nofun, nofun, heeds.runs, fun _ => filled member, fun none_ => ?_⟩
      rw [same] at none_
      cases none_
  | failed at_ =>
      have runs := sound.looping (by rw [at_]; trivial)
      rcases Option.isSome_iff_exists.mp runs with ⟨⟨debate, state⟩, same⟩
      refine ⟨nofun, nofun, ?_, heeds.written, ?_⟩
      · rw [same]
        exact ran same
      · rw [same]
        exact nofun
  | disconnect runs cause fresh =>
      exact ⟨heeds.validating, heeds.refusing, ran runs, heeds.written, nofun⟩

theorem heeds_reachable (closed : ∀ event, handler.closedTakes event = false)
    (reached : Reaches (HandleSession.step handler) always {} session) :
    Heeds handler session := by
  refine reached.invariant (Heeds handler)
    ⟨nofun, nofun, nofun, fun written => absurd rfl written, fun _ => .inl rfl⟩ ?_
  intro before action after earlier _ taken heeds
  exact heeds_step taken (SessionRuns.sound_reachable earlier)
    (SessionGrammar.tells_reachable closed earlier) heeds

theorem written_grows (taken : HandleSession.step handler session action = some after) :
    session.written <+: after.written := by
  cases HandleSession.moves_of_step handler session after action taken with
  | refuse at_ succeeds =>
      cases succeeds with
      | false => exact List.prefix_refl _
      | true => exact List.prefix_append _ _
  | wrote at_ took => exact List.prefix_append _ _
  | _ => exact List.prefix_refl _

theorem frames_kept (taken : HandleSession.step handler session action = some after)
    (served : ∀ frame, action ≠ .send frame) : after.frames = session.frames := by
  cases HandleSession.moves_of_step handler session after action taken with
  | send frame present => exact absurd rfl (served frame)
  | _ => rfl

end Server

section Page

variable {setting : Setting} {hook : Hook}

theorem modify_messages (clients : List Client) (index : Nat) (update : Client → Client)
    (keeps : ∀ client, (update client).message = client.message) :
    (clients.modify index update).map Client.message = clients.map Client.message := by
  apply List.ext_getElem?
  intro position
  rw [List.getElem?_map, List.getElem?_map, List.getElem?_modify]
  cases clients[position]? with
  | none => rfl
  | some client =>
      by_cases here : index = position
      · simp [here, keeps]
      · simp [here]

theorem dispose_messages (hook : Hook) : messages hook.disposeClient = messages hook := by
  have keeps : ∀ client : Client, client.dispose.message = client.message := by
    intro client
    unfold Client.dispose
    split <;> rfl
  unfold Hook.disposeClient
  split
  · rfl
  · exact modify_messages _ _ _ keeps

theorem socket_messages (parse : Text → Except Text DebateEvent) (hook : Hook) (index : Nat)
    (event : SocketEvent) : messages (onSocket parse hook index event).1 = messages hook := by
  have sends : ∀ client : Client, client.send.message = client.message := by
    intro client
    unfold Client.send
    split <;> rfl
  unfold onSocket
  split
  · rfl
  · split
    · rfl
    · cases event with
      | opened => exact modify_messages _ _ _ sends
      | message frame => rfl
      | error => rfl
      | close => exact modify_messages _ _ _ fun _ => rfl

theorem step_messages (parse : Text → Except Text DebateEvent) (hook : Hook) (op : HookOp)
    (unasked : op.isAsk = false) : messages (hookStep parse hook op).1 = messages hook := by
  cases op with
  | ask => cases unasked
  | stop =>
      rw [hookStep]
      unfold UseDebate.stop
      exact dispose_messages _
  | socket index event => exact socket_messages parse hook index event
  | _ => rfl

theorem length_messages (hook : Hook) : (messages hook).length = hook.clients.length :=
  List.length_map _

theorem ask_messages (parse : Text → Except Text DebateEvent) (hook : Hook) (question : Text)
    (rounds : Option JsNumber) (message : AskMessage)
    (built : buildAsk question rounds = .ok message) :
    messages (hookStep parse hook (.ask question rounds)).1 =
      messages hook ++ [some message] := by
  rw [hookStep, SessionPhases.ask_accepted hook question rounds message built]
  have earlier := dispose_messages hook
  simp only [messages, List.map_append] at earlier ⊢
  rw [earlier]
  rfl

end Page

/-- The part of the system that no step of the player changes: the handlers
are in reachable states and have read what was asked. -/
structure Connected (setting : Setting) (world : World) : Prop where
  exclusive : SessionPhases.Exclusive world.hook
  sessions : ∀ client, Reaches (HandleSession.step setting.handler) always {}
    (world.server client)
  counted : ∀ client, world.taken client ≤ (world.server client).written.length
  posted : ∀ client, ∀ frame ∈ (world.server client).frames, ∃ message,
    (messages world.hook)[client]? = some (some message) ∧ frame = setting.frame message
  built : ∀ message, some message ∈ messages world.hook →
    ∃ question rounds, buildAsk question rounds = .ok message
  fresh : ∀ client, world.hook.clients.length ≤ client →
    world.server client = {} ∧ world.taken client = 0

section Steps

variable {setting : Setting} {world after : World} {act : Act}

theorem post_reaches (session : Session 4) (sent : List AskMessage)
    (reached : Reaches (HandleSession.step setting.handler) always {} session) :
    Reaches (HandleSession.step setting.handler) always {} (setting.post session sent) ∧
      session.written <+: (setting.post session sent).written ∧
      ∀ frame ∈ (setting.post session sent).frames, frame ∈ session.frames ∨
        ∃ message ∈ sent, frame = setting.frame message := by
  induction sent generalizing session with
  | nil => exact ⟨reached, List.prefix_refl _, fun _ member => .inl member⟩
  | cons message rest ih =>
      rw [Setting.post]
      cases taken : HandleSession.step setting.handler session (.send (setting.frame message)) with
      | none =>
          rw [Option.getD_none]
          rcases ih session reached with ⟨later, grows, framed⟩
          refine ⟨later, grows, fun frame member => ?_⟩
          rcases framed frame member with old | ⟨other, listed, same⟩
          · exact .inl old
          · exact .inr ⟨other, List.mem_cons_of_mem _ listed, same⟩
      | some next =>
          rw [Option.getD_some]
          rcases ih next (.next reached trivial taken) with ⟨later, grows, framed⟩
          refine ⟨later, (written_grows taken).trans grows, fun frame member => ?_⟩
          rcases framed frame member with old | ⟨other, listed, same⟩
          · cases HandleSession.moves_of_step _ _ _ _ taken with
            | send _ present =>
                rcases List.mem_append.mp old with earlier | last
                · exact .inl earlier
                · exact .inr ⟨message, List.mem_cons_self, List.mem_singleton.mp last⟩
          · exact .inr ⟨other, List.mem_cons_of_mem _ listed, same⟩

theorem connected_tell (connected : Connected setting world) (op : HookOp)
    (unasked : op.isAsk = false) : Connected setting (setting.tell world op) where
  exclusive := SessionPhases.exclusive_step setting.parse connected.exclusive op
  sessions := connected.sessions
  counted := connected.counted
  posted := by
    intro client frame member
    rw [Setting.tell, step_messages _ _ _ unasked]
    exact connected.posted client frame member
  built := by
    intro message
    rw [Setting.tell, step_messages _ _ _ unasked]
    exact connected.built message
  fresh := by
    intro client beyond
    have same : (setting.tell world op).hook.clients.length = world.hook.clients.length := by
      rw [← length_messages, ← length_messages, Setting.tell, step_messages _ _ _ unasked]
    rw [same] at beyond
    exact connected.fresh client beyond

theorem connected_ask (connected : Connected setting world) (question : Text)
    (rounds : Option JsNumber) (message : AskMessage)
    (built : buildAsk question rounds = .ok message) :
    Connected setting (setting.tell world (.ask question rounds)) where
  exclusive := SessionPhases.exclusive_step setting.parse connected.exclusive _
  sessions := connected.sessions
  counted := connected.counted
  posted := by
    intro client frame member
    rcases connected.posted client frame member with ⟨sent, listed, same⟩
    refine ⟨sent, ?_, same⟩
    rw [Setting.tell, ask_messages _ _ _ _ _ built, List.getElem?_append_left]
    · exact listed
    · exact (List.getElem?_eq_some_iff.mp listed).1
  built := by
    intro other member
    rw [Setting.tell, ask_messages _ _ _ _ _ built] at member
    rcases List.mem_append.mp member with old | new
    · exact connected.built other old
    · cases List.mem_singleton.mp new
      exact ⟨question, rounds, built⟩
  fresh := by
    intro client beyond
    rw [← length_messages, Setting.tell, ask_messages _ _ _ _ _ built, List.length_append,
      length_messages] at beyond
    exact connected.fresh client (Nat.le_of_succ_le beyond)

theorem connected_server (connected : Connected setting world) (client : Nat)
    (inside : client < world.hook.clients.length) (session : Session 4)
    (reached : Reaches (HandleSession.step setting.handler) always {} session)
    (grows : (world.server client).written <+: session.written)
    (framed : ∀ frame ∈ session.frames, frame ∈ (world.server client).frames ∨
      ∃ message, (messages world.hook)[client]? = some (some message) ∧
        frame = setting.frame message) :
    Connected setting { world with server := Function.update world.server client session } where
  exclusive := connected.exclusive
  sessions := by
    intro other
    by_cases here : other = client
    · subst here
      simp only [Function.update_self]
      exact reached
    · simp only [Function.update_of_ne here]
      exact connected.sessions other
  counted := by
    intro other
    by_cases here : other = client
    · subst here
      simp only [Function.update_self]
      exact Nat.le_trans (connected.counted other) grows.length_le
    · simp only [Function.update_of_ne here]
      exact connected.counted other
  posted := by
    intro other frame member
    by_cases here : other = client
    · subst here
      simp only [Function.update_self] at member
      rcases framed frame member with old | sent
      · exact connected.posted other frame old
      · exact sent
    · simp only [Function.update_of_ne here] at member
      exact connected.posted other frame member
  built := connected.built
  fresh := by
    intro other beyond
    have apart : other ≠ client := fun same => by
      rw [same] at beyond
      exact Nat.not_le.mpr inside beyond
    simp only [Function.update_of_ne apart]
    exact connected.fresh other beyond

theorem served_of_step {client : Nat} {action : HandleSession.Action 4}
    (taken : setting.step world (.serve client action) = some after) :
    ∃ session, (client < world.hook.clients.length ∧ ∀ frame, action ≠ .send frame) ∧
      HandleSession.step setting.handler (world.server client) action = some session ∧
        after = { world with server := Function.update world.server client session } := by
  cases action with
  | send frame => cases taken
  | _ =>
      simp only [Setting.step] at taken
      split at taken
      next inside =>
        rcases Option.map_eq_some_iff.mp taken with ⟨session, moved, rfl⟩
        refine ⟨session, ⟨inside, ?_⟩, moved, rfl⟩
        intro frame same
        cases same
      · cases taken

theorem connected_step (connected : Connected setting world)
    (taken : setting.step world act = some after) : Connected setting after := by
  cases act with
  | user op =>
      by_cases asked : op.isAsk = true
      · cases op with
        | ask question rounds =>
            simp only [Setting.step] at taken
            split at taken
            next accepted =>
              cases taken
              rcases SessionPhases.accepted_built question rounds accepted with ⟨message, built⟩
              exact connected_ask connected question rounds message built
            · cases taken
        | _ => cases asked
      · have told := connected_tell connected op (by simpa using asked)
        cases op with
        | socket client event => cases taken
        | ask => exact absurd rfl asked
        | _ =>
            cases taken
            exact told
  | opened client =>
      simp only [Setting.step] at taken
      split at taken
      · cases taken
      next before found =>
        cases taken
        have told := connected_tell connected (.socket client .opened) rfl
        have posting := @post_reaches setting (world.server client) (outbox before)
          (connected.sessions client)
        have same := step_messages setting.parse world.hook (.socket client .opened) rfl
        have inside : client < world.hook.clients.length :=
          (List.getElem?_eq_some_iff.mp found).1
        have within : client < (setting.tell world (.socket client .opened)).hook.clients.length := by
          rw [← length_messages, Setting.tell, same, length_messages]
          exact inside
        refine connected_server told client within _ posting.1 posting.2.1 fun frame member => ?_
        rcases posting.2.2 frame member with old | ⟨message, sent, framed⟩
        · exact .inl old
        · refine .inr ⟨message, ?_, framed⟩
          unfold outbox at sent
          split at sent
          · rw [Setting.tell, same, messages, List.getElem?_map, found, Option.map_some,
              Option.mem_toList.mp sent]
          · cases sent
  | serve client action =>
      rcases served_of_step taken with ⟨session, ⟨inside, served⟩, moved, rfl⟩
      refine connected_server connected client inside session
        (.next (connected.sessions client) trivial moved) (written_grows moved) ?_
      rw [frames_kept moved served]
      exact fun frame member => .inl member
  | deliver client =>
      simp only [Setting.step] at taken
      split at taken
      · cases taken
      next event found =>
        cases taken
        have told := connected_tell connected
          (.socket client (.message (.text (encode event)))) rfl
        refine ⟨told.exclusive, told.sessions, ?_, told.posted, told.built, ?_⟩
        · intro other
          by_cases here : other = client
          · subst here
            simp only [Function.update_self]
            exact (List.getElem?_eq_some_iff.mp found).1
          · simp only [Function.update_of_ne here]
            exact connected.counted other
        · intro other beyond
          have clear := told.fresh other beyond
          have apart : other ≠ client := by
            rintro rfl
            have empty : (world.server other).written = [] := by
              rw [show world.server other = {} from clear.1]
            rw [empty] at found
            cases found
          refine ⟨clear.1, ?_⟩
          simp only [Function.update_of_ne apart]
          exact clear.2
  | failed client =>
      cases taken
      exact connected_tell connected _ rfl
  | closed client =>
      cases taken
      exact connected_tell connected _ rfl

theorem connected_start (setting : Setting) (reducedMotion : Bool) :
    Connected setting (World.start reducedMotion) where
  exclusive := SessionPhases.exclusive_create reducedMotion
  sessions := fun _ => .refl
  counted := fun _ => Nat.le_refl _
  posted := fun _ _ member => nomatch member
  built := fun _ member => nomatch member
  fresh := fun _ _ => ⟨rfl, rfl⟩

end Steps

end Council.WholeSystem

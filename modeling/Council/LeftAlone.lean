import Council.ReadAsSaid

/-!
A question that is left alone. While nobody asks again or stops the session,
the connection lasts and the handler is not disturbed, the page, the server and
the timer can always go on by themselves until the whole debate is on the
screen.
-/

namespace Council.LeftAlone

open Council.Machines
open Council.Protocol
open Council.ServerProtocol
open Council.DebateReducer
open Council.DebatePlayer
open Council.PlayerRuns
open Council.AskWire
open Council.AskText
open Council.EventText
open Council.EventAgreement
open Council.UseDebate
open Council.WireStream
open Council.SessionPhases
open Council.HandleSession
open Council.SessionRuns
open Council.SessionGrammar
open Council.RoundGrammar
open Council.Screen
open Council.Broadcast
open Council.WholeSystem
open Council.ReadAsSaid

section Server

variable {handler : Handler 4} {session after : Session 4} {action : HandleSession.Action 4}
  {asked : ClientMessage}

/-- A step of the handler itself in which nothing fails. -/
structure Kind (action : HandleSession.Action 4) : Prop where
  undisturbed : Undisturbed action
  own : action.client = false
  accepts : action ≠ .accept false

/-- How far the handler is with a question that is left alone. -/
inductive Serving (handler : Handler 4) (asked : ClientMessage) (session : Session 4) : Prop where
  | early (present : session.gone = false) (frames : ∀ frame ∈ session.frames, frame = some asked)
      (waits : session.phase = .accepting ∨ session.phase = .reading ∨
        session.phase = .validating asked) : Serving handler asked session
  | running (state : Orchestration.State 4)
      (runs : session.run = some (handler.debate asked, state)) (calm : Calm session) :
      Serving handler asked session

theorem run_kept (sound : Sound handler session)
    (taken : HandleSession.step handler session action = some after)
    {debate : Orchestration.Debate 4} {state : Orchestration.State 4}
    (runs : session.run = some (debate, state)) : ∃ next, after.run = some (debate, next) := by
  cases HandleSession.moves_of_step handler session after action taken with
  | valid at_ accepted =>
      have none_ := sound.early (by rw [at_]; trivial)
      cases runs.symm.trans none_
  | inner known kept moved silent =>
      cases known.symm.trans runs
      exact ⟨_, rfl⟩
  | receive at_ known kept moved offers =>
      cases known.symm.trans runs
      exact ⟨_, rfl⟩
  | drained at_ known shut =>
      cases known.symm.trans runs
      exact ⟨_, rfl⟩
  | failed at_ =>
      refine ⟨{ state with cancelled := true }, ?_⟩
      rw [runs]
      rfl
  | disconnect known cause fresh =>
      cases known.symm.trans runs
      exact ⟨_, rfl⟩
  | _ => exact ⟨state, runs⟩

theorem serving_step (valid : asked.validate = none) (sound : Sound handler session)
    (serving : Serving handler asked session)
    (kind : Kind action ∨ action = .send (some asked))
    (taken : HandleSession.step handler session action = some after) :
    Serving handler asked after := by
  cases serving with
  | running state runs calm =>
      rcases run_kept sound taken runs with ⟨next, later⟩
      refine .running next later (calm_step taken ?_ sound calm)
      rcases kind with kind | rfl
      · exact kind.undisturbed
      · exact ⟨by rintro ⟨⟩, by rintro ⟨⟩⟩
  | early present frames waits =>
      have none_ : session.run = none := sound.early (by
        rcases waits with at_ | at_ | at_ <;> rw [at_] <;> trivial)
      cases HandleSession.moves_of_step handler session after action taken with
      | send frame still =>
          refine .early present (fun other member => ?_) waits
          rcases List.mem_append.mp member with old | new
          · exact frames other old
          · rcases kind with kind | same
            · cases kind.own
            · cases same
              exact List.mem_singleton.mp new
      | leave still =>
          rcases kind with kind | same
          · cases kind.own
          · cases same
      | accept at_ succeeds =>
          rcases kind with kind | same
          · cases succeeds with
            | true => exact .early present frames (.inr (.inl rfl))
            | false => exact absurd rfl kind.accepts
          · cases same
      | read at_ first =>
          have same := frames _ (by rw [first]; exact List.mem_cons_self)
          cases same
          exact .early present frames (.inr (.inr rfl))
      | garbled at_ first =>
          have same := frames _ (by rw [first]; exact List.mem_cons_self)
          cases same
      | interrupt at_ gone => cases present.symm.trans gone
      | invalid at_ wrong =>
          rcases waits with now | now | now <;> cases now.symm.trans at_
          cases valid.symm.trans wrong
      | valid at_ accepted =>
          rcases waits with now | now | now <;> cases now.symm.trans at_
          refine .running _ rfl ?_
          intro run runs
          cases runs
          refine .inr ⟨trivial, ?_⟩
          unfold Orchestration.State.initial Orchestration.State.enter
          split <;> rfl
      | refuse at_ succeeds => rcases waits with now | now | now <;> cases now.symm.trans at_
      | inner runs kept moved silent => cases none_.symm.trans runs
      | receive at_ runs kept moved offers => cases none_.symm.trans runs
      | drained at_ runs shut => cases none_.symm.trans runs
      | wrote at_ took => rcases waits with now | now | now <;> cases now.symm.trans at_
      | failed at_ => rcases waits with now | now | now <;> cases now.symm.trans at_
      | disconnect runs cause fresh => cases none_.symm.trans runs

/-- The sessions differ at most in what the client has sent. -/
structure Alike (session other : Session 4) : Prop where
  phase : session.phase = other.phase
  run : session.run = other.run
  written : session.written = other.written

/-- Once a debate runs, what the client sends is nothing to the handler: it can
go the same way without. -/
theorem served_alike (reached : Reaches (HandleSession.step handler) always {} session)
    (runs : session.run.isSome = true)
    (later : Reaches (HandleSession.step handler) (fun _ action => Undisturbed action) session
      after) :
    ∃ served, Reaches (HandleSession.step handler) (fun _ action => Kind action) session served ∧
      Alike after served := by
  have anyway : ∀ {state}, Reaches (HandleSession.step handler)
      (fun _ action => Undisturbed action) session state →
        Sound handler state ∧ state.run.isSome = true := by
    intro state path
    induction path with
    | refl => exact ⟨sound_reachable reached, runs⟩
    | next earlier meets taken ih =>
        rcases Option.isSome_iff_exists.mp ih.2 with ⟨⟨debate, state⟩, known⟩
        rcases run_kept ih.1 taken known with ⟨next, now⟩
        exact ⟨sound_step taken ih.1, by rw [now]; rfl⟩
  induction later with
  | refl => exact ⟨session, .refl, rfl, rfl, rfl⟩
  | @next before after action earlier undisturbed taken ih =>
      rcases ih with ⟨served, path, alike⟩
      rcases anyway earlier with ⟨sound, running⟩
      have late : ∀ phase, before.phase = phase → ¬ Early phase := by
        intro phase at_ early
        rw [sound.early (by rw [at_]; exact early)] at running
        cases running
      have kind : action.client = false → action ≠ .accept false → Kind action :=
        fun own accepts => ⟨undisturbed, own, accepts⟩
      rcases alike with ⟨phase, run, written⟩
      cases HandleSession.moves_of_step handler before after action taken with
      | send frame present => exact ⟨served, path, phase, run, written⟩
      | leave present => exact ⟨served, path, phase, run, written⟩
      | accept at_ succeeds => exact absurd trivial (late _ at_)
      | read at_ first => exact absurd trivial (late _ at_)
      | garbled at_ first => exact absurd trivial (late _ at_)
      | interrupt at_ gone => exact absurd trivial (late _ at_)
      | invalid at_ wrong => exact absurd trivial (late _ at_)
      | valid at_ accepted => exact absurd trivial (late _ at_)
      | refuse at_ succeeds => exact absurd trivial (late _ at_)
      | @inner debate state next inner known kept moved silent =>
          have first : HandleSession.step handler served (.run inner) =
              some { served with run := some (debate, next) } := by
            simp only [HandleSession.step, run.symm.trans known, if_neg kept, moved, silent]
          exact ⟨_, .next path (kind rfl (by rintro ⟨⟩)) first, phase, rfl, written⟩
      | @receive debate state next inner event at_ known kept moved offers =>
          have first : HandleSession.step handler served (.run inner) =
              some { served with
                phase := .writing event state.cancelled
                run := some (debate, next) } := by
            simp only [HandleSession.step, run.symm.trans known, if_neg kept, moved, offers,
              phase.symm.trans at_]
          exact ⟨_, .next path (kind rfl (by rintro ⟨⟩)) first, rfl, rfl, written⟩
      | @drained debate state at_ known shut =>
          have first : HandleSession.step handler served .drained =
              some { served with
                phase := .returned (!state.cancelled)
                run := some (HandleSession.cancel (debate, state)) } := by
            simp only [HandleSession.step, phase.symm.trans at_, run.symm.trans known, shut,
              if_true]
          exact ⟨_, .next path (kind rfl (by rintro ⟨⟩)) first, rfl, rfl, written⟩
      | @wrote event late at_ took =>
          have first : HandleSession.step handler served (.write true) =
              some { served with phase := .looping, written := served.written ++ [event] } := by
            simp only [HandleSession.step, phase.symm.trans at_, if_true]
            rw [if_pos took]
          refine ⟨_, .next path (kind rfl (by rintro ⟨⟩)) first, rfl, run, ?_⟩
          rw [← written]
      | failed at_ => exact absurd rfl undisturbed.2
      | disconnect known cause fresh => exact absurd rfl undisturbed.1

theorem served_to_end (reached : Reaches (HandleSession.step handler) always {} session)
    {debate : Orchestration.Debate 4} {state : Orchestration.State 4}
    (runs : session.run = some (debate, state)) (calm : Calm session) :
    ∃ served, Reaches (HandleSession.step handler) (fun _ action => Kind action) session served ∧
      served.phase = .returned true := by
  have reachable := ((sound_reachable reached).runs _ runs).2
  have ends : ∃ final, Reaches (HandleSession.step handler)
      (fun _ action => Undisturbed action) session final ∧ final.phase = .returned true := by
    rcases calm _ runs with done | ⟨inside, fresh⟩
    · exact ⟨session, .refl, done⟩
    · have finite := Unwinding.run_finite (DebateShape.shape_reachable reachable)
      have completes := loop_completes handler finite
      cases at_ : session.phase with
      | looping => exact completes session runs at_ reachable fresh
      | writing event late =>
          rw [at_] at inside
          have first : HandleSession.step handler session (.write true) =
              some { session with phase := .looping, written := session.written ++ [event] } := by
            simp only [HandleSession.step, at_, if_true]
            rw [if_pos (.inl inside)]
          rcases completes
              { session with phase := .looping, written := session.written ++ [event] } runs rfl
              reachable fresh with ⟨final, later, done⟩
          exact ⟨final, (Reaches.next .refl ⟨by rintro ⟨⟩, by rintro ⟨⟩⟩ first).trans later, done⟩
      | _ =>
          rw [at_] at inside
          exact inside.elim
  rcases ends with ⟨final, path, done⟩
  rcases served_alike reached (by rw [runs]; rfl) path with ⟨served, alone, alike⟩
  exact ⟨served, alone, alike.phase.symm.trans done⟩

theorem returned_kept (done : session.phase = .returned true) (kind : Kind action)
    (taken : HandleSession.step handler session action = some after) :
    after.phase = .returned true ∧ after.written = session.written := by
  cases HandleSession.moves_of_step handler session after action taken with
  | send frame present => exact ⟨done, rfl⟩
  | leave present => exact ⟨done, rfl⟩
  | inner known kept moved silent => exact ⟨done, rfl⟩
  | disconnect known cause fresh => exact ⟨done, rfl⟩
  | accept at_ succeeds => cases at_.symm.trans done
  | read at_ first => cases at_.symm.trans done
  | garbled at_ first => cases at_.symm.trans done
  | interrupt at_ gone => cases at_.symm.trans done
  | invalid at_ wrong => cases at_.symm.trans done
  | valid at_ accepted => cases at_.symm.trans done
  | refuse at_ succeeds => cases at_.symm.trans done
  | receive at_ known kept moved offers => cases at_.symm.trans done
  | drained at_ known shut => cases at_.symm.trans done
  | wrote at_ took => cases at_.symm.trans done
  | failed at_ => cases at_.symm.trans done

end Server

/-- The socket of the question is open to events, or it was closed after
everything the server wrote had been delivered. -/
inductive Page (world : World) (current : Nat) : Prop where
  | listening (client : Client) (found : world.hook.clients[current]? = some client)
      (attached : client.attached = true) : Page world current
  | ended (deaf : Deaf world.hook) (complete : (world.server current).phase = .returned true)
      (first : Player) (log : List DebateInput)
      (played : Played anyArrival (reset first)
        (aired world current (world.server current).written.length ++ [.close]) log
        world.hook.player)
      (rested : Rested world.hook.player)
      (view : SameView world.hook.state (reduceAll connectingState log)) : Page world current

/-- The user sets the rate, jumps to live or waits for the timer. -/
def watching : HookOp → Bool
  | .setRate _ | .goToLive | .fire => true
  | _ => false

/-- The user does nothing; only the timer fires. -/
def waiting : HookOp → Bool
  | .fire => true
  | _ => false

/-- Neither the user nor the network disturbs the question; the socket closes
when the server is done and everything has been delivered. -/
def Alone (hands : HookOp → Bool) (current : Nat) (world : World) : Act → Prop
  | .user op => hands op = true
  | .serve client action => client = current → Kind action
  | .deliver client => fits world (.deliver client)
  | .closed client => client = current →
      (world.server current).phase = .returned true ∧
        world.taken current = (world.server current).written.length
  | .opened _ | .failed _ => True

/-- The last question, left alone. -/
structure Going (setting : Setting) (message : AskMessage) (asked : ClientMessage)
    (current : Nat) (world : World) : Prop where
  connected : Connected setting world
  tuned : Tuned world
  last : world.hook.clients.length = current + 1
  listed : (messages world.hook)[current]? = some (some message)
  serving : Serving setting.handler asked (world.server current)
  page : Page world current

section Page

variable {setting : Setting} {message : AskMessage} {asked : ClientMessage} {current : Nat}
  {world after : World} {act : Act}

theorem page_unheard (page : Page world current) (exclusive : Exclusive world.hook)
    {client : Nat} (elsewhere : client ≠ current ∨ Deaf world.hook) {found : Client}
    (listed : world.hook.clients[client]? = some found) : found.attached = false := by
  by_contra attached
  have deaf : Deaf world.hook → False := fun deaf =>
    attached (deaf found (List.mem_of_getElem? listed))
  rcases elsewhere with apart | silent
  · cases page with
    | listening own known heard =>
        have here := (exclusive client found listed (by simpa using attached)).1
        rw [(exclusive current own known heard).1] at here
        exact apart (Option.some.inj here).symm
    | ended silent => exact deaf silent
  · exact deaf silent

theorem page_kept (page : Page world current) (same : after.hook = world.hook)
    (written : (after.server current).written = (world.server current).written)
    (phase : (world.server current).phase = .returned true →
      (after.server current).phase = .returned true) : Page after current := by
  cases page with
  | listening client found attached => exact .listening client (by rw [same]; exact found) attached
  | ended deaf complete first log played rested view =>
      refine .ended (by rw [same]; exact deaf) (phase complete) first log ?_
        (by rw [same]; exact rested) (by rw [same]; exact view)
      rw [aired, written, same]
      exact played

theorem page_steer (page : Page world current) (op : Op) (control : steers op = true)
    (call : HookOp)
    (answer : hookStep setting.parse world.hook call =
      world.hook.absorb (apply world.hook.player op)) : Page (setting.tell world call) current := by
  have told : setting.tell world call =
      { world with hook := (world.hook.absorb (apply world.hook.player op)).1 } := by
    rw [Setting.tell, answer]
  rw [told]
  cases page with
  | listening client found attached => exact .listening client found attached
  | ended deaf complete first log played rested view =>
      have nothing : op.arrival.toList = [] := by
        cases op with
        | setRate => rfl
        | skipToLive => rfl
        | fire => rfl
        | _ => cases control
      obtain ⟨later, path, sees⟩ := session_apply played view op (steers_in_session op control)
      rw [nothing, List.append_nil] at path
      exact .ended deaf complete first later path (apply_rests _ op rested) sees

theorem page_closed (connected : Connected setting world) (tuned : Tuned world)
    (page : Page world current)
    (done : (world.server current).phase = .returned true ∧
      world.taken current = (world.server current).written.length) :
    Page (setting.tell world (.socket current .close)) current := by
  cases page with
  | ended deaf complete first log played rested view =>
      rw [unheard_kept current .close fun found listed => deaf found (List.mem_of_getElem? listed)]
      exact .ended deaf complete first log played rested view
  | listening client found attached =>
      have hears := tuned_hears tuned connected.exclusive found attached
      have deaf := @closed_deaf setting _ connected.exclusive _ _ found attached
      have told := @told_closed setting _ _ _ found attached
      rcases hears with ⟨last, first, log, played, rested, view⟩
      obtain ⟨later, path, sees⟩ := session_apply played view (.feedStatus .closed) rfl
      refine .ended deaf done.1 first later ?_ ?_ ?_
      · rw [told, aired]
        rw [aired, done.2] at path
        exact path
      · rw [told]
        exact apply_rests _ _ rested
      · rw [told]
        exact sees

theorem page_heard (exclusive : Exclusive world.hook) (page : Page world current) (client : Nat)
    (event : SocketEvent) (stays : event ≠ .close) :
    Page (setting.tell world (.socket client event)) current := by
  by_cases elsewhere : client ≠ current ∨ Deaf world.hook
  · rw [unheard_kept client event fun found listed =>
      page_unheard page exclusive elsewhere listed]
    exact page
  · have here : client = current := by
      by_contra apart
      exact elsewhere (.inl apart)
    subst here
    cases page with
    | ended deaf => exact absurd (.inr deaf) elsewhere
    | listening found listed attached =>
        cases event with
        | close => exact absurd rfl stays
        | opened =>
            refine .listening found.send ?_ (by rw [(send_keeps found).1]; exact attached)
            simp only [Setting.tell, hookStep, onSocket, listed, attached]
            exact modify_attached _ _ _ _ listed
        | message frame =>
            refine .listening found ?_ attached
            simp only [Setting.tell, hookStep, onSocket, listed, attached]
            exact listed
        | error =>
            refine .listening found ?_ attached
            simp only [Setting.tell, hookStep, onSocket, listed, attached]
            exact listed

theorem serving_post (valid : asked.validate = none) (read : setting.frame message = some asked)
    {session : Session 4} (sent : List AskMessage) (only : ∀ other ∈ sent, other = message)
    (reached : Reaches (HandleSession.step setting.handler) always {} session)
    (serving : Serving setting.handler asked session) :
    Serving setting.handler asked (setting.post session sent) := by
  induction sent generalizing session with
  | nil => exact serving
  | cons first rest ih =>
      have same := only first List.mem_cons_self
      subst same
      rw [Setting.post]
      have later := fun other member => only other (List.mem_cons_of_mem first member)
      cases taken : HandleSession.step setting.handler session (.send (setting.frame first)) with
      | none => exact ih later reached serving
      | some next =>
          refine ih later (.next reached trivial taken) ?_
          exact serving_step valid (sound_reachable reached) serving (.inr (by rw [read])) taken

theorem post_phase (session : Session 4) (sent : List AskMessage) :
    (setting.post session sent).phase = session.phase ∧
      (setting.post session sent).written = session.written := by
  induction sent generalizing session with
  | nil => exact ⟨rfl, rfl⟩
  | cons first rest ih =>
      rw [Setting.post]
      cases taken : HandleSession.step setting.handler session (.send (setting.frame first)) with
      | none => exact ih session
      | some next =>
          have later := ih next
          cases HandleSession.moves_of_step _ _ _ _ taken with
          | send frame present => exact later

theorem listed_kept (taken : setting.step world act = some after)
    (alone : Alone watching current world act) :
    messages after.hook = messages world.hook := by
  cases act with
  | user op =>
      cases op with
      | socket client event => cases taken
      | ask question rounds => cases alone
      | stop => cases alone
      | _ =>
          cases taken
          exact step_messages setting.parse world.hook _ rfl
  | opened client =>
      simp only [Setting.step] at taken
      split at taken
      · cases taken
      · cases taken
        exact step_messages setting.parse world.hook (.socket client .opened) rfl
  | serve client action =>
      rcases served_of_step taken with ⟨session, _, _, rfl⟩
      rfl
  | deliver client =>
      simp only [Setting.step] at taken
      split at taken
      · cases taken
      · cases taken
        exact step_messages setting.parse world.hook (.socket client _) rfl
  | failed client =>
      cases taken
      exact step_messages setting.parse world.hook (.socket client .error) rfl
  | closed client =>
      cases taken
      exact step_messages setting.parse world.hook (.socket client .close) rfl

theorem served_page (valid : asked.validate = none) (read : setting.frame message = some asked)
    (going : Going setting message asked current world)
    (alone : Alone watching current world act) (taken : setting.step world act = some after) :
    Serving setting.handler asked (after.server current) ∧ Page after current := by
  have page := going.page
  have exclusive := going.connected.exclusive
  cases act with
  | user op =>
      cases op with
      | socket client event => cases taken
      | ask question rounds => cases alone
      | stop => cases alone
      | setRate multiplier =>
          cases taken
          exact ⟨going.serving, page_steer page (.setRate multiplier) rfl _ rfl⟩
      | goToLive =>
          cases taken
          exact ⟨going.serving, page_steer page .skipToLive rfl _ rfl⟩
      | fire =>
          cases taken
          exact ⟨going.serving, page_steer page .fire rfl _ rfl⟩
  | opened client =>
      simp only [Setting.step] at taken
      split at taken
      · cases taken
      next before found =>
        cases taken
        have heard := @page_heard setting _ _ exclusive page client .opened (by rintro ⟨⟩)
        by_cases here : client = current
        · subst here
          have only : ∀ other ∈ outbox before, other = message := by
            intro other member
            have listed := going.listed
            rw [messages, List.getElem?_map, found] at listed
            unfold outbox at member
            split at member
            · rw [Option.some.inj listed] at member
              simpa using member
            · cases member
          have posted := @post_phase setting (world.server client) (outbox before)
          constructor
          · simp only [Function.update_self]
            exact serving_post valid read _ only (going.connected.sessions client) going.serving
          · refine @page_kept client _ _ heard rfl ?_ ?_
            · simp only [Function.update_self]
              exact posted.2
            · intro done
              simp only [Function.update_self]
              exact posted.1.trans done
        · have apart : current ≠ client := fun same => here same.symm
          constructor
          · simp only [Function.update_of_ne apart]
            exact going.serving
          · refine @page_kept current _ _ heard rfl ?_ ?_
            · simp only [Function.update_of_ne apart]
              rfl
            · intro done
              simp only [Function.update_of_ne apart]
              exact done
  | serve client action =>
      rcases served_of_step taken with ⟨session, _, moved, rfl⟩
      by_cases here : client = current
      · subst here
        have kind := alone rfl
        constructor
        · simp only [Function.update_self]
          exact serving_step valid (sound_reachable (going.connected.sessions client))
            going.serving (.inl kind) moved
        · cases page with
          | listening found listed attached => exact .listening found listed attached
          | ended deaf complete first log played rested view =>
              have still := returned_kept complete kind moved
              refine @page_kept client world _
                (.ended deaf complete first log played rested view) rfl ?_ ?_
              · simp only [Function.update_self]
                exact still.2
              · intro _
                simp only [Function.update_self]
                exact still.1
      · have apart : current ≠ client := fun same => here same.symm
        constructor
        · simp only [Function.update_of_ne apart]
          exact going.serving
        · refine @page_kept current world _ page rfl ?_ ?_
          · simp only [Function.update_of_ne apart]
          · intro done
            simp only [Function.update_of_ne apart]
            exact done
  | deliver client =>
      simp only [Setting.step] at taken
      split at taken
      · cases taken
      next event next =>
        cases taken
        have heard := @page_heard setting _ _ exclusive page client
          (.message (.text (encode event))) (by rintro ⟨⟩)
        exact ⟨going.serving, @page_kept current _ _ heard rfl rfl id⟩
  | failed client =>
      cases taken
      exact ⟨going.serving, page_heard exclusive page client .error (by rintro ⟨⟩)⟩
  | closed client =>
      cases taken
      refine ⟨going.serving, ?_⟩
      by_cases here : client = current
      · subst here
        exact page_closed going.connected going.tuned page (alone rfl)
      · rw [unheard_kept client .close fun found listed =>
          page_unheard page exclusive (.inl here) listed]
        exact page

variable (decimals : Decimals setting.toNumber) (seats : setting.handler.personas = panel)

include decimals seats

theorem going_step (valid : asked.validate = none) (read : setting.frame message = some asked)
    (going : Going setting message asked current world)
    (alone : Alone watching current world act) (taken : setting.step world act = some after) :
    Going setting message asked current after := by
  have kept := listed_kept taken alone
  have served := served_page valid read going alone taken
  have short : fits world act := by
    cases act with
    | deliver client => exact alone
    | _ => trivial
  refine ⟨connected_step going.connected taken,
    tuned_step decimals seats going.connected going.tuned short taken, ?_, ?_, served.1, served.2⟩
  · rw [← length_messages, kept, length_messages]
    exact going.last
  · rw [kept]
    exact going.listed

theorem going_reaches (valid : asked.validate = none)
    (read : setting.frame message = some asked) (hands : HookOp → Bool)
    (calm : ∀ op, hands op = true → watching op = true)
    (going : Going setting message asked current world)
    (reached : Reaches setting.step (Alone hands current) world after) :
    Going setting message asked current after := by
  refine reached.invariant (Going setting message asked current) going ?_
  intro before act after earlier alone taken going
  apply going_step decimals seats valid read going ?_ taken
  cases act with
  | user op => exact calm op alone
  | _ => exact alone

end Page

section Progress

variable {setting : Setting} {message : AskMessage} {asked : ClientMessage} {current : Nat}
  {world : World}

theorem served_world (inside : current < world.hook.clients.length) {session : Session 4}
    (path : Reaches (HandleSession.step setting.handler) (fun _ action => Kind action)
      (world.server current) session) :
    ∃ later, Reaches setting.step (Alone waiting current) world later ∧
      later.server current = session ∧ later.hook = world.hook ∧ later.taken = world.taken := by
  induction path with
  | refl => exact ⟨world, .refl, rfl, rfl, rfl⟩
  | @next before after action earlier kind taken ih =>
      rcases ih with ⟨middle, reached, server, hook, counts⟩
      have step_ : setting.step middle (.serve current action) =
          some { middle with server := Function.update middle.server current after } := by
        have within : current < middle.hook.clients.length := by
          rw [hook]
          exact inside
        cases action with
        | send frame => cases kind.own
        | _ => simp only [Setting.step, if_pos within, server, taken, Option.map_some]
      have allowed : Alone waiting current middle (.serve current action) := fun _ => kind
      refine ⟨_, .next reached allowed step_, ?_, hook, counts⟩
      simp only [Function.update_self]

theorem served_once (inside : current < world.hook.clients.length) {session : Session 4}
    {action : HandleSession.Action 4} (kind : Kind action)
    (moved : HandleSession.step setting.handler (world.server current) action = some session) :
    ∃ later, Reaches setting.step (Alone waiting current) world later ∧
      later.server current = session ∧ later.hook = world.hook ∧ later.taken = world.taken :=
  served_world inside (.next .refl kind moved)

theorem validates (inside : current < world.hook.clients.length) (valid : asked.validate = none)
    (at_ : (world.server current).phase = .validating asked) :
    ∃ later, Reaches setting.step (Alone waiting current) world later ∧
      (later.server current).run.isSome = true := by
  have moved : HandleSession.step setting.handler (world.server current) .validate =
      some { world.server current with
        phase := .looping
        run := some (setting.handler.debate asked,
          Orchestration.State.initial (setting.handler.debate asked) false) } := by
    simp only [HandleSession.step, at_, valid]
  have kind : Kind (.validate : HandleSession.Action 4) := ⟨⟨by rintro ⟨⟩, by rintro ⟨⟩⟩, rfl, by rintro ⟨⟩⟩
  rcases served_once inside kind moved with ⟨later, path, server, _⟩
  exact ⟨later, path, by rw [server]; rfl⟩

theorem reads (inside : current < world.hook.clients.length) (valid : asked.validate = none)
    (at_ : (world.server current).phase = .reading) {rest : List (Option ClientMessage)}
    (frames : (world.server current).frames = some asked :: rest) :
    ∃ later, Reaches setting.step (Alone waiting current) world later ∧
      (later.server current).run.isSome = true := by
  have moved : HandleSession.step setting.handler (world.server current) .read =
      some { world.server current with phase := .validating asked } := by
    simp only [HandleSession.step, at_, frames]
  have kind : Kind (.read : HandleSession.Action 4) := ⟨⟨by rintro ⟨⟩, by rintro ⟨⟩⟩, rfl, by rintro ⟨⟩⟩
  rcases served_once inside kind moved with ⟨later, path, server, hook, _⟩
  have there : current < later.hook.clients.length := by
    rw [hook]
    exact inside
  rcases validates there valid (by rw [server]) with ⟨last, next, runs⟩
  exact ⟨last, path.trans next, runs⟩

theorem opens (exclusive : Exclusive world.hook) (read : setting.frame message = some asked)
    (listed : (messages world.hook)[current]? = some (some message)) {client : Client}
    (found : world.hook.clients[current]? = some client) (attached : client.attached = true)
    (present : (world.server current).gone = false) :
    ∃ later, Reaches setting.step (Alone waiting current) world later ∧
      later.server current = { world.server current with
        frames := (world.server current).frames ++ [some asked] } ∧
      later.hook.clients.length = world.hook.clients.length := by
  have held := (exclusive current client found attached).2
  have told : client.message = some message := by
    rw [messages, List.getElem?_map, found] at listed
    exact Option.some.inj listed
  have sends : outbox client = [message] := by
    rw [outbox, attached, held, told]
    rfl
  have posted : setting.post (world.server current) [message] =
      { world.server current with
        frames := (world.server current).frames ++ [some asked] } := by
    simp [Setting.post, HandleSession.step, present, read]
  have step_ : setting.step world (.opened current) =
      some { setting.tell world (.socket current .opened) with
        server := Function.update world.server current
          { world.server current with
            frames := (world.server current).frames ++ [some asked] } } := by
    rw [← posted, ← sends]
    simp only [Setting.step, found]
  have allowed : Alone waiting current world (.opened current) := trivial
  refine ⟨_, .next .refl allowed step_, ?_, ?_⟩
  · simp only [Function.update_self]
  · rw [← length_messages, ← length_messages]
    exact congrArg List.length
      (step_messages setting.parse world.hook (.socket current .opened) rfl)

variable (going : Going setting message asked current world)
  (valid : asked.validate = none) (read : setting.frame message = some asked)

include going valid read

theorem starts : ∃ later, Reaches setting.step (Alone waiting current) world later ∧
    (later.server current).run.isSome = true := by
  have inside : current < world.hook.clients.length := by
    rw [going.last]
    exact Nat.lt_succ_self current
  cases going.serving with
  | running state runs calm => exact ⟨world, .refl, by rw [runs]; rfl⟩
  | early present frames waits =>
      cases going.page with
      | ended deaf complete =>
          rcases waits with at_ | at_ | at_ <;> cases at_.symm.trans complete
      | listening client found attached =>
          -- what is left once the handler has accepted the connection
          have goes : ∀ middle : World,
              Reaches setting.step (Alone waiting current) world middle →
              middle.hook = world.hook →
              (middle.server current).phase = .reading →
              (middle.server current).gone = false →
              (middle.server current).frames = (world.server current).frames →
              ∃ later, Reaches setting.step (Alone waiting current) world later ∧
                (later.server current).run.isSome = true := by
            intro middle path hook phase here same
            have within : current < middle.hook.clients.length := by
              rw [hook]
              exact inside
            cases sent : (middle.server current).frames with
            | nil =>
                rcases opens (by rw [hook]; exact going.connected.exclusive) read
                  (by rw [hook]; exact going.listed) (by rw [hook]; exact found) attached here with
                  ⟨open_, opened, server, length⟩
                rcases reads (by rw [length]; exact within) valid (by rw [server]; exact phase)
                  (by rw [server, sent]; rfl) with ⟨later, next, runs⟩
                exact ⟨later, (path.trans opened).trans next, runs⟩
            | cons frame rest =>
                have first := frames frame (by rw [← same, sent]; exact List.mem_cons_self)
                subst first
                rcases reads within valid phase sent with ⟨later, next, runs⟩
                exact ⟨later, path.trans next, runs⟩
          rcases waits with at_ | at_ | at_
          · have moved : HandleSession.step setting.handler (world.server current) (.accept true) =
                some { world.server current with phase := .reading } := by
              simp only [HandleSession.step, at_, if_true]
            have kind : Kind (.accept true : HandleSession.Action 4) :=
              ⟨⟨by rintro ⟨⟩, by rintro ⟨⟩⟩, rfl, by rintro ⟨⟩⟩
            rcases served_once inside kind moved with ⟨middle, path, server, hook, _⟩
            exact goes middle path hook (by rw [server]) (by rw [server]; exact present)
              (by rw [server])
          · exact goes world .refl rfl at_ present rfl
          · exact validates inside valid at_

omit going valid read in
theorem fire_step (player : Player) (armed : player.timer.isSome = true) :
    (∃ ms, (step { player with timer := none }).delay = .after ms ∧
      (fire player).1 = { (step { player with timer := none }).player with timer := some ms }) ∨
    hasReadyWork (fire player).1 = false := by
  have fired : (fire player).1 = (pump { player with timer := none }).1 := by
    rw [fire, if_pos armed]
  have rests := step_rests { player with timer := none }
  rw [fired]
  unfold pump
  rw [if_neg (by simp)]
  generalize step { player with timer := none } = answer at rests
  rcases answer with ⟨delay, after, dispatched⟩
  cases delay with
  | after ms => exact .inl ⟨ms, rfl, rfl⟩
  | park => exact .inr (rests (by rintro _ ⟨⟩))
  | done => exact .inr (rests (by rintro _ ⟨⟩))

omit going valid read in
theorem fires_end (player : Player) (rested : Rested player) :
    ∃ count, hasReadyWork ((fun before => (fire before).1)^[count] player) = false := by
  by_cases armed : player.timer.isSome = true
  · rcases fire_step player armed with ⟨ms, taken, next⟩ | ends
    · rcases fires_end { (step { player with timer := none }).player with timer := some ms }
        (by rintro ⟨⟩) with ⟨count, ends⟩
      refine ⟨count + 1, ?_⟩
      rw [Function.iterate_succ_apply, next]
      exact ends
    · exact ⟨1, ends⟩
  · exact ⟨0, rested (by simpa using armed)⟩
termination_by (stage player, textLeft player)
decreasing_by exact Prod.lex_def.mpr (step_below { player with timer := none } ms taken)

omit going valid read in
theorem fires_world (count : Nat) :
    ∃ later, Reaches setting.step (Alone waiting current) world later ∧
      later.server = world.server ∧ later.hook.clients = world.hook.clients ∧
      later.hook.player = (fun before => (fire before).1)^[count] world.hook.player := by
  induction count with
  | zero => exact ⟨world, .refl, rfl, rfl, rfl⟩
  | succ count ih =>
      rcases ih with ⟨later, path, server, clients, player⟩
      have taken : setting.step later (.user .fire) = some (setting.tell later .fire) := rfl
      have allowed : Alone waiting current later (.user .fire) := rfl
      refine ⟨_, .next path allowed taken, server, clients, ?_⟩
      rw [Function.iterate_succ_apply', ← player]
      rfl

omit going valid read in
theorem delivers (short : ∀ event ∈ (world.server current).written,
      (encode event).length ≤ MAX_FRAME_CHARS) (left : Nat) (counted : world.taken current + left =
        (world.server current).written.length) :
    ∃ later, Reaches setting.step (Alone waiting current) world later ∧
      later.server = world.server ∧
      later.taken current = (world.server current).written.length := by
  induction left generalizing world with
  | zero => exact ⟨world, .refl, rfl, counted⟩
  | succ left ih =>
      have inside : world.taken current < (world.server current).written.length := by omega
      have next := List.getElem?_eq_getElem inside
      have allowed : Alone waiting current world (.deliver current) := by
        intro event same
        exact short event (List.mem_of_getElem? same)
      have taken : setting.step world (.deliver current) =
          some { setting.tell world (.socket current (.message (.text
            (encode (world.server current).written[world.taken current])))) with
              taken := Function.update world.taken current (world.taken current + 1) } := by
        simp only [Setting.step, next]
      rcases @ih { setting.tell world (.socket current (.message (.text
            (encode (world.server current).written[world.taken current])))) with
              taken := Function.update world.taken current (world.taken current + 1) } short (by
          simp only [Function.update_self]
          change world.taken current + 1 + left = (world.server current).written.length
          omega) with ⟨later, path, server, all⟩
      exact ⟨later, (Reaches.next .refl allowed taken).trans path, server, all⟩

omit going valid read in
theorem written_whole (closed : ∀ event, setting.handler.closedTakes event = false)
    {session : Session 4} (reached : Reaches (HandleSession.step setting.handler) always {} session)
    (serving : Serving setting.handler asked session) (done : session.phase = .returned true) :
    SessionWord (setting.handler.debate asked) session.written := by
  cases serving with
  | early present frames waits =>
      rcases waits with at_ | at_ | at_ <;> cases at_.symm.trans done
  | running state runs calm =>
      rcases ((tells_reachable closed reached).told _ _ runs).seen with
        ⟨seen, reachable, fresh, events, shut⟩
      rcases events_begin reachable fresh with ⟨whole, grammar, _, ends⟩
      rw [← events, ends (shut (by simpa using done))]
      exact grammar

omit read in
theorem shown_to_end (seats : setting.handler.personas = panel)
    (closed : ∀ event, setting.handler.closedTakes event = false) (deaf : Deaf world.hook)
    (blocked : hasReadyWork world.hook.player = false) :
    Shows (broadcast (setting.handler.debate asked)) world.hook.state
        (4 * (setting.handler.debate asked).rounds) ∧
      (∀ verdict, (broadcast (setting.handler.debate asked)).outcome = .verdict verdict →
        world.hook.state.phase = .done) ∧
      ∀ reason, (broadcast (setting.handler.debate asked)).outcome = .failure reason →
        world.hook.state.phase = .error := by
  cases going.page with
  | listening client found attached =>
      rw [deaf client (List.mem_of_getElem? found)] at attached
      cases attached
  | ended _ complete first log played rested view =>
      have grammar := written_whole closed (going.connected.sessions current) going.serving complete
      have conformant := heard_conformant seats (debate_rounds setting.handler valid).2 grammar
      rw [aired_events, List.take_length] at played
      rcases played_session (conformant_orderly conformant (List.prefix_refl _))
        (List.prefix_refl _) played with ⟨script, session⟩
      -- the close has been heard, so playback has concluded
      rcases (TurnOrder.sound_invariant _).played played with ⟨_, stage, _, heard, _⟩
      have terminalKnown : world.hook.player.terminalKnown = true := by
        simp [Recording.terminalKnown, heard.closed.mpr]
      rcases FaithfulReplay.rested_concluded stage terminalKnown blocked with
        ⟨turns, finale, rfl, concluded⟩
      have terminal := (session_phase played).mpr ⟨concluded.idle, concluded.next⟩
      rw [← view.phase] at terminal
      exact session_rests conformant session rfl view terminal

end Progress

section Frames

variable {debate : Orchestration.Debate 4} (seats : debate.personas = panel)

include seats

theorem persona_short (speaker : Orchestration.Speaker 4) :
    (debate.persona speaker).id.length ≤ 10 := by
  have known : (∀ seat : Fin 4, (panel seat).id.length ≤ 10) ∧ Moderator.id.length ≤ 10 := by
    decide +kernel
  cases speaker with
  | none => exact known.2
  | some seat =>
      rw [Orchestration.Debate.persona, seats]
      exact known.1 seat

theorem word_short (call : Orchestration.Call 4) {limit : Nat} (room : 13 ≤ limit)
    (brief : ∀ script, answer debate call = .ok script →
      (String.join script.deltas).length ≤ limit)
    (event : Event) (member : event ∈ word debate call) :
    event.persona.length ≤ 10 ∧
      event.delta.length + event.errMessage.length + event.verdict.length ≤ limit := by
  have known := persona_short seats call.speaker
  have failure : (debate.failure call).persona.length ≤ 10 ∧
      (debate.failure call).delta.length + (debate.failure call).errMessage.length +
        (debate.failure call).verdict.length ≤ limit := by
    have size : "stream failed".length = 13 := by decide
    refine ⟨known, ?_⟩
    simp only [Orchestration.Debate.failure, Error, size]
    exact room
  rw [word] at member
  generalize answer debate call = outcome at brief member
  cases outcome with
  | error reason =>
      rw [List.mem_singleton.mp member]
      exact failure
  | ok script =>
      have whole := brief script rfl
      rcases List.mem_append.mp member with token | last
      · rcases List.mem_map.mp token with ⟨delta, inside, rfl⟩
        have part : delta.length ≤ (String.join script.deltas).length := by
          rw [← String.length_toList, ← String.length_toList, String.toList_join]
          exact (List.sublist_flatten_of_mem (List.mem_map_of_mem inside)).length_le
        exact ⟨known, Nat.le_trans part whole⟩
      · rw [List.mem_singleton.mp last]
        split
        · exact failure
        · unfold Orchestration.Debate.ending
          split
          · exact ⟨Nat.zero_le _, by simpa [Verdict] using whole⟩
          next seat _ => exact ⟨persona_short seats (some seat), Nat.zero_le _⟩

/-- Where no answer has more than 43 000 runes, every frame of the debate is
one the client reads. -/
theorem frames_fit (bound : debate.rounds ≤ 8)
    (brief : ∀ call script, answer debate call = .ok script →
      (String.join script.deltas).length ≤ 43000)
    {events : List Event} (session : SessionWord debate events) (event : Event)
    (member : event ∈ events) : (encode event).length ≤ MAX_FRAME_CHARS := by
  have fits_ : ∀ event : Event, event.round < 10 → event.persona.length ≤ 10 ∧
      event.delta.length + event.errMessage.length + event.verdict.length ≤ 43000 →
        (encode event).length ≤ MAX_FRAME_CHARS := by
    rintro event small ⟨persona, rest⟩
    have whole := encode_length event small
    simp only [MAX_FRAME_CHARS]
    omega
  have spoken : ∀ call : Orchestration.Call 4, call.round ≤ 9 → ∀ event ∈ word debate call,
      (encode event).length ≤ MAX_FRAME_CHARS := by
    intro call low event inside
    have sizes := word_short seats call (by decide) (brief call) event inside
    apply fits_ event ?_ sizes
    rcases (round_of_word debate call event inside).2 with none_ | own
    · omega
    · omega
  rcases session with ⟨rounds, words, rfl⟩
  rcases List.mem_append.mp member with inside | last
  · rcases words.mem event inside with ⟨round, low, high, marked | ⟨seat, here⟩⟩
    · subst marked
      exact fits_ _ (by simp only [RoundComplete]; omega) ⟨Nat.zero_le _, Nat.zero_le _⟩
    · have within : round ≤ 9 := by omega
      exact spoken ⟨round, some seat⟩ within event here
  · have within : debate.rounds + 1 ≤ 9 := by omega
    exact spoken ⟨debate.rounds + 1, none⟩ within event last

end Frames

section Answers

variable {setting : Setting} {message : AskMessage} {asked : ClientMessage} {current : Nat}
  {world : World}
  (decimals : Decimals setting.toNumber) (seats : setting.handler.personas = panel)
  (closed : ∀ event, setting.handler.closedTakes event = false)

include decimals seats

theorem going_waits (valid : asked.validate = none) (read : setting.frame message = some asked)
    {later : World} (going : Going setting message asked current world)
    (path : Reaches setting.step (Alone waiting current) world later) :
    Going setting message asked current later := by
  apply going_reaches decimals seats valid read waiting ?_ going path
  intro op ticks
  cases op with
  | fire => rfl
  | _ => cases ticks

include closed

theorem goes_to_end (valid : asked.validate = none) (read : setting.frame message = some asked)
    (brief : ∀ call script, answer (setting.handler.debate asked) call = .ok script →
      (String.join script.deltas).length ≤ 43000)
    (going : Going setting message asked current world) :
    ∃ final, Reaches setting.step (Alone waiting current) world final ∧
      Going setting message asked current final ∧ Deaf final.hook ∧
      hasReadyWork final.hook.player = false := by
  have keeps := fun {before later : World} going path =>
    @going_waits setting message asked current before decimals seats valid read later going path
  -- the debate starts
  rcases starts going valid read with ⟨started, starting, runs⟩
  have one := keeps going starting
  have inside : current < started.hook.clients.length := by
    rw [one.last]
    exact Nat.lt_succ_self current
  -- and is written to its end
  have written : ∃ served, Reaches setting.step (Alone waiting current) started served ∧
      (served.server current).phase = .returned true := by
    have reached := one.connected.sessions current
    cases one.serving with
    | early present frames waits =>
        have none_ := (sound_reachable reached).early (by
          rcases waits with at_ | at_ | at_ <;> rw [at_] <;> trivial)
        rw [none_] at runs
        cases runs
    | running state known calm =>
        rcases served_to_end reached known calm with ⟨session, alone, done⟩
        rcases served_world inside alone with ⟨served, path, server, _, _⟩
        exact ⟨served, path, by rw [server]; exact done⟩
  rcases written with ⟨served, serving, done⟩
  have two := keeps one serving
  -- and delivered
  have grammar := written_whole closed (two.connected.sessions current) two.serving done
  have counted := two.connected.counted current
  have bound := (debate_rounds setting.handler valid).2
  rcases delivers (fun event member => frames_fit seats bound brief grammar event member)
    ((served.server current).written.length - served.taken current)
    (Nat.add_sub_cancel' counted) with ⟨heard, delivering, server, all⟩
  have three := keeps two delivering
  have finished : (heard.server current).phase = .returned true ∧
      heard.taken current = (heard.server current).written.length := by
    rw [server]
    exact ⟨done, all⟩
  -- the socket closes
  have allowed : Alone waiting current heard (.closed current) := fun _ => finished
  have shut : setting.step heard (.closed current) =
      some (setting.tell heard (.socket current .close)) := rfl
  have deaf : Deaf (setting.tell heard (.socket current .close)).hook := by
    cases three.page with
    | listening client found attached =>
        exact closed_deaf three.connected.exclusive found attached
    | ended silent =>
        rw [unheard_kept current .close fun found listed =>
          silent found (List.mem_of_getElem? listed)]
        exact silent
  have four := keeps three (.next .refl allowed shut)
  -- and the timer plays what is left
  have rested : Rested (setting.tell heard (.socket current .close)).hook.player := by
    cases four.page with
    | listening client found attached =>
        rw [deaf client (List.mem_of_getElem? found)] at attached
        cases attached
    | ended _ _ _ _ _ rested => exact rested
  rcases fires_end _ rested with ⟨count, blocked⟩
  rcases @fires_world setting current (setting.tell heard (.socket current .close)) count with
    ⟨final, firing, _, clients, player⟩
  refine ⟨final, ?_, keeps four firing, ?_, ?_⟩
  · exact (((starting.trans serving).trans delivering).trans (.next .refl allowed shut)).trans firing
  · intro client member
    rw [clients] at member
    exact deaf client member
  · rw [player]
    exact blocked

omit decimals seats closed in
theorem going_asked (connected : Connected setting world) {question : Text}
    {rounds : Option JsNumber} (built : buildAsk question rounds = .ok message) :
    Going setting message asked world.hook.clients.length
      (setting.tell world (.ask question rounds)) := by
  have clear := connected.fresh world.hook.clients.length (Nat.le_refl _)
  have length : world.hook.disposeClient.clients.length = world.hook.clients.length := by
    rw [← length_messages, ← length_messages, dispose_messages]
  have clients : (setting.tell world (.ask question rounds)).hook.clients =
      world.hook.disposeClient.clients ++ [createWsClient.connect message] := by
    rw [Setting.tell, hookStep, ask_accepted world.hook question rounds message built]
  have asks := ask_messages setting.parse world.hook question rounds message built
  refine ⟨connected_ask connected question rounds message built,
    tuned_ask question rounds message built connected, ?_, ?_, ?_, ?_⟩
  · rw [clients, List.length_append, length]
    rfl
  · rw [Setting.tell, asks, ← length_messages, List.getElem?_concat_length]
  · have server : (setting.tell world (.ask question rounds)).server
        world.hook.clients.length = {} := clear.1
    rw [server]
    exact .early rfl (by rintro _ ⟨⟩) (.inl rfl)
  · refine .listening (createWsClient.connect message) ?_ rfl
    rw [clients, ← length, List.getElem?_concat_length]

/-- A question that is asked at any time and then left alone, on a connection
that lasts and with answers of at most 43 000 runes, is answered in full:
whatever has happened so far, the handler, the browser and the timer can go on
by themselves until the screen shows the whole debate, and the phase tells
whether the moderator has come to a verdict. -/
theorem left_alone_answered {reducedMotion : Bool}
    (reached : Reaches setting.step fits (World.start reducedMotion) world) (question : Text)
    (rounds : Option JsNumber) (built : buildAsk question rounds = .ok message)
    (same : received message = some asked) (valid : asked.validate = none)
    (brief : ∀ call script, answer (setting.handler.debate asked) call = .ok script →
      (String.join script.deltas).length ≤ 43000) :
    ∃ started, setting.step world (.user (.ask question rounds)) = some started ∧
      ∀ later,
        Reaches setting.step (Alone watching world.hook.clients.length) started later →
        ∃ final, Reaches setting.step (Alone waiting world.hook.clients.length) later final ∧
          Shows (broadcast (setting.handler.debate asked)) final.hook.state
            (4 * (setting.handler.debate asked).rounds) ∧
          (∀ verdict, (broadcast (setting.handler.debate asked)).outcome = .verdict verdict →
            final.hook.state.phase = .done) ∧
          ∀ reason, (broadcast (setting.handler.debate asked)).outcome = .failure reason →
            final.hook.state.phase = .error := by
  have connected := (tuned_reachable decimals seats reached).1
  have read : setting.frame message = some asked := by
    rw [Setting.frame, read_of_built setting.fraction built]
    exact same
  have accepted : (HookOp.ask question rounds).accepted = true := by
    simp [HookOp.accepted, built, Except.toOption]
  have going : Going setting message asked world.hook.clients.length
      (setting.tell world (.ask question rounds)) := going_asked connected built
  refine ⟨setting.tell world (.ask question rounds), ?_, ?_⟩
  · simp only [Setting.step, if_pos accepted]
  · intro later path
    have still := going_reaches decimals seats valid read watching (fun _ same => same) going path
    rcases goes_to_end decimals seats closed valid read brief still with
      ⟨final, ends, last, deaf, blocked⟩
    exact ⟨final, ends, shown_to_end last valid seats closed deaf blocked⟩

end Answers

theorem quartet_brief (asked : ClientMessage) : ∀ call script,
    answer (quartet.handler.debate asked) call = .ok script →
      (String.join script.deltas).length ≤ 43000 := by
  intro call script answers
  have said : (if call.speaker.any fun seat => seat.val = 0 then
      (.ok ⟨["a"], none⟩ : Provider.Outcome) else .error "busy") = .ok script := answers
  split at said
  · cases said
    decide
  · cases said

/-- The moderator is refused, so the question ends in an error. -/
theorem left_alone_answered_quartet :
    ∃ started final, quartet.step (World.start true) (.user (.ask (units "Why?") none)) =
        some started ∧
      Reaches quartet.step (Alone waiting 0) started final ∧
      final.hook.state.phase = .error := by
  have built : buildAsk (units "Why?") none = .ok ⟨units "Why?", none⟩ := by decide
  have same : received ⟨units "Why?", none⟩ = some ⟨"ask", "Why?", 0⟩ := by decide
  rcases left_alone_answered decimals_decimal rfl (fun _ => rfl) .refl (units "Why?") none built same
    (by decide) (quartet_brief _) with ⟨started, asks, goes⟩
  rcases goes started .refl with ⟨final, path, _, _, fails⟩
  exact ⟨started, final, asks, path, fails (units "stream failed") rfl⟩

end Council.LeftAlone

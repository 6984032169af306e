import Council.PageShell
import Council.LeftAlone

/-!
The page as the user has it, and the server behind it. The site is seen in two
ways: as the page alone, to which the network is whatever the sockets fire, and
as the hook with the handlers, to which the user is whatever the hook is asked.
A run of the site is a run of each.
-/

namespace Council.WholeSite

open Council.Machines
open Council.Protocol
open Council.ServerProtocol
open Council.DebateReducer
open Council.EventAgreement
open Council.EventText
open Council.AskWire
open Council.AskBytes
open Council.AskText
open Council.UseDebate
open Council.HandleSession
open Council.Screen
open Council.Broadcast
open Council.WholeSystem
open Council.ReadAsSaid
open Council.LeftAlone
open Council.PageShell

structure Site where
  app : App
  server : Nat → Session 4
  taken : Nat → Nat

def Site.start (reducedMotion stageFirst soundEnabled : Bool) : Site where
  app := App.mount reducedMotion stageFirst soundEnabled
  server := fun _ => {}
  taken := fun _ => 0

/-- The hook with the handlers. -/
def Site.world (site : Site) : World where
  hook := site.app.hook
  server := site.server
  taken := site.taken

inductive Act where
  | page (act : PageShell.Act)
  | network (act : WholeSystem.Act)

section Steps
variable (setting : Setting)

/-- What fires at a socket is the network's, what the hook is asked the page's. -/
def step (site : Site) : Act → Option Site
  | .page (.socket _ _) => none
  | .page act =>
      (PageShell.step setting.parse site.app act).map fun app => { site with app := app }
  | .network (.user _) => none
  | .network act =>
      (setting.step site.world act).map fun world =>
        { app := { site.app with hook := world.hook }, server := world.server, taken := world.taken }

/-- No delivered frame is longer than the client reads. -/
def permits (site : Site) : Act → Prop
  | .network act => fits site.world act
  | .page _ => True

instance (site : Site) : (act : Act) → Decidable (permits site act)
  | .network act => inferInstanceAs (Decidable (fits site.world act))
  | .page _ => .isTrue trivial

def asked (app : App) : PageShell.Act → Option HookOp
  | .submit => some (.ask (trim app.layout.form.question) (some app.layout.form.rounds))
  | .stop => some .stop
  | .setRate multiplier => some (.setRate multiplier)
  | .goToLive => some .goToLive
  | .fire => some .fire
  | .socket client event => some (.socket client event)
  | _ => none

end Steps

section Views
variable {setting : Setting} {site after : Site}

theorem hook_of_step {parse : Text → Except Text DebateEvent} {app later : App}
    {act : PageShell.Act} (taken : PageShell.step parse app act = some later) :
    match asked app act with
    | none => later.hook = app.hook
    | some op => later.hook = (hookStep parse app.hook op).1 ∧ op.accepted = true := by
  cases act with
  | submit =>
      simp only [PageShell.step] at taken
      split at taken
      · cases taken
      next message built =>
        split at taken
        · cases taken
          refine ⟨rfl, ?_⟩
          have asks := (build_ask_trim app.layout.form.question (some app.layout.form.rounds)).trans
            built
          simp [HookOp.accepted, asks, Except.toOption]
        · cases taken
  | fire =>
      cases taken
      exact ⟨rfl, rfl⟩
  | socket client event =>
      cases taken
      exact ⟨rfl, rfl⟩
  | render =>
      cases taken
      rfl
  | resize stageFirst =>
      simp only [PageShell.step] at taken
      split at taken
      · cases taken
      · cases taken
        rfl
  | askAnother =>
      simp only [PageShell.step] at taken
      split at taken
      · split at taken
        · cases taken
        · cases taken
          rfl
      · cases taken
  | edit =>
      simp only [PageShell.step] at taken
      split at taken
      · split at taken
        · cases taken
        · cases taken
          rfl
      · cases taken
  | dismiss =>
      simp only [PageShell.step] at taken
      split at taken
      · split at taken
        · cases taken
          rfl
        · cases taken
      · cases taken
  | _ =>
      simp only [PageShell.step] at taken
      split at taken
      · cases taken
        first
          | rfl
          | exact ⟨rfl, rfl⟩
      · cases taken

theorem page_of_step {act : PageShell.Act} (taken : step setting site (.page act) = some after) :
    ∃ app, PageShell.step setting.parse site.app act = some app ∧
      after = { site with app := app } ∧ ∀ client event, act ≠ .socket client event := by
  have own : ∀ client event, act ≠ .socket client event := by
    rintro client event rfl
    cases taken
  have mapped : ((PageShell.step setting.parse site.app act).map fun app =>
      { site with app := app }) = some after := by
    cases act with
    | socket => cases taken
    | _ => exact taken
  rcases Option.map_eq_some_iff.mp mapped with ⟨app, moved, same⟩
  exact ⟨app, moved, same.symm, own⟩

theorem network_of_step {act : WholeSystem.Act}
    (taken : step setting site (.network act) = some after) :
    ∃ world, setting.step site.world act = some world ∧
      after = ⟨{ site.app with hook := world.hook }, world.server, world.taken⟩ ∧
      ∀ op, act ≠ .user op := by
  have own : ∀ op, act ≠ .user op := by
    rintro op rfl
    cases taken
  have mapped : ((setting.step site.world act).map fun world =>
      (⟨{ site.app with hook := world.hook }, world.server, world.taken⟩ : Site)) =
        some after := by
    cases act with
    | user => cases taken
    | _ => exact taken
  rcases Option.map_eq_some_iff.mp mapped with ⟨world, moved, same⟩
  exact ⟨world, moved, same.symm, own⟩

theorem hook_of_network {world later : World} {act : WholeSystem.Act}
    (taken : setting.step world act = some later) (own : ∀ op, act ≠ .user op) :
    later.hook = world.hook ∨ ∃ client event,
      later.hook = (hookStep setting.parse world.hook (.socket client event)).1 := by
  cases act with
  | user op => exact absurd rfl (own op)
  | opened client =>
      simp only [Setting.step] at taken
      split at taken
      · cases taken
      · cases taken
        exact .inr ⟨client, .opened, rfl⟩
  | serve client action =>
      rcases served_of_step taken with ⟨session, _, _, rfl⟩
      exact .inl rfl
  | deliver client =>
      simp only [Setting.step] at taken
      split at taken
      · cases taken
      · cases taken
        exact .inr ⟨client, _, rfl⟩
  | failed client =>
      cases taken
      exact .inr ⟨client, .error, rfl⟩
  | closed client =>
      cases taken
      exact .inr ⟨client, .close, rfl⟩

/-- The step of the hook with the handlers that an act is, if any. -/
def seenAs (site : Site) : Act → Option WholeSystem.Act
  | .page act => (asked site.app act).map .user
  | .network act => some act

theorem world_of_step {act : Act} (taken : step setting site act = some after) :
    after.world = site.world ∨
      ∃ move, seenAs site act = some move ∧ setting.step site.world move = some after.world := by
  cases act with
  | page act =>
      rcases page_of_step taken with ⟨app, moved, rfl, own⟩
      have hook := hook_of_step moved
      cases called : asked site.app act with
      | none =>
          rw [called] at hook
          left
          simp only [Site.world]
          rw [hook]
      | some op =>
          rw [called] at hook
          right
          refine ⟨.user op, by rw [seenAs, called, Option.map_some], ?_⟩
          have told : setting.tell site.world op = Site.world { site with app := app } := by
            simp only [Site.world, Setting.tell]
            rw [hook.1]
          cases op with
          | socket client event =>
              cases act with
              | socket => exact absurd rfl (own _ _)
              | _ => cases called
          | _ =>
              simp only [Setting.step]
              rw [if_pos hook.2, told]
  | network act =>
      rcases network_of_step taken with ⟨world, moved, rfl, _⟩
      exact .inr ⟨act, rfl, moved⟩

theorem world_reached {reducedMotion stageFirst soundEnabled : Bool}
    (reached : Reaches (step setting) permits (.start reducedMotion stageFirst soundEnabled) site) :
    Reaches setting.step fits (World.start reducedMotion) site.world := by
  refine reached.project Site.world ?_
  intro before act after _ meets taken
  rcases world_of_step taken with same | ⟨move, seen, moved⟩
  · exact .inl same
  · refine .inr ⟨move, ?_, moved⟩
    cases act with
    | page act =>
        rcases Option.map_eq_some_iff.mp seen with ⟨op, _, rfl⟩
        exact trivial
    | network act =>
        cases seen
        exact meets

theorem app_reached {reducedMotion stageFirst soundEnabled : Bool}
    (reached : Reaches (step setting) permits (.start reducedMotion stageFirst soundEnabled) site) :
    Reaches (PageShell.step setting.parse) always (.mount reducedMotion stageFirst soundEnabled)
      site.app := by
  refine reached.project Site.app ?_
  intro before act after _ _ taken
  cases act with
  | page act =>
      rcases page_of_step taken with ⟨app, moved, rfl, _⟩
      exact .inr ⟨act, trivial, moved⟩
  | network act =>
      rcases network_of_step taken with ⟨world, moved, rfl, own⟩
      rcases hook_of_network moved own with same | ⟨client, event, same⟩
      · left
        simp only
        rw [same]
        rfl
      · right
        refine ⟨.socket client event, trivial, ?_⟩
        simp only
        rw [same]
        rfl

end Views

section Debates
variable {setting : Setting} {world after : World}

theorem post_run (session : Session 4) (sent : List AskMessage) :
    (setting.post session sent).run = session.run := by
  induction sent generalizing session with
  | nil => rfl
  | cons first rest ih =>
      rw [Setting.post]
      cases taken : HandleSession.step setting.handler session (.send (setting.frame first)) with
      | none => exact ih session
      | some next =>
          have later := ih next
          cases HandleSession.moves_of_step _ _ _ _ taken with
          | send frame present => exact later

theorem debate_kept (connected : Connected setting world) {act : WholeSystem.Act}
    (taken : setting.step world act = some after) {client : Nat}
    {debate : Orchestration.Debate 4} {state : Orchestration.State 4}
    (runs : (world.server client).run = some (debate, state)) :
    ∃ next, (after.server client).run = some (debate, next) := by
  cases act with
  | user op =>
      cases op with
      | socket other event => cases taken
      | _ =>
          simp only [Setting.step] at taken
          split at taken
          · cases taken
            exact ⟨state, runs⟩
          · cases taken
  | opened other =>
      simp only [Setting.step] at taken
      split at taken
      · cases taken
      · cases taken
        by_cases here : client = other
        · subst here
          refine ⟨state, ?_⟩
          simp only [Function.update_self, post_run]
          exact runs
        · simp only [Function.update_of_ne here]
          exact ⟨state, runs⟩
  | serve other action =>
      rcases served_of_step taken with ⟨session, _, moved, rfl⟩
      by_cases here : client = other
      · subst here
        simp only [Function.update_self]
        exact run_kept (SessionRuns.sound_reachable (connected.sessions client)) moved runs
      · simp only [Function.update_of_ne here]
        exact ⟨state, runs⟩
  | deliver other =>
      simp only [Setting.step] at taken
      split at taken
      · cases taken
      · cases taken
        exact ⟨state, runs⟩
  | failed other =>
      cases taken
      exact ⟨state, runs⟩
  | closed other =>
      cases taken
      exact ⟨state, runs⟩

end Debates

section Rendered
variable {setting : Setting} {site after : Site}

/-- A beginning of the debate of the session is in the state, nothing if it has
none. -/
structure Pictures (session : Session 4) (state : DebateState) : Prop where
  blank : session.run = none → Blank state
  shown : ∀ debate run, session.run = some (debate, run) →
    ∃ place, Shows (broadcast debate) state place

theorem shows_of_blank {state : DebateState} (blank : Blank state) (debate : WireStream.Debate) :
    Shows debate state 0 where
  inside := Nat.zero_le _
  told := fun earlier before => absurd before (Nat.not_lt_zero earlier)
  telling := by
    rw [blank.turns]
    exact List.nil_prefix
  untold := fun later _ => blank.turns later
  closing := fun round spoken => absurd (blank.synthesis round) spoken
  summing := by
    rw [blank.synthesis]
    exact List.nil_prefix
  verdict := fun done => absurd done blank.unfinished

theorem pictures_later {session later : Session 4} {state : DebateState}
    (pictures : Pictures session state)
    (kept : ∀ debate run, session.run = some (debate, run) →
      ∃ next, later.run = some (debate, next)) : Pictures later state := by
  cases running : session.run with
  | none =>
      have blank := pictures.blank running
      exact ⟨fun _ => blank, fun debate _ _ => ⟨0, shows_of_blank blank _⟩⟩
  | some pair =>
      rcases pair with ⟨debate, run⟩
      rcases kept debate run running with ⟨next, now⟩
      constructor
      · intro none_
        cases none_.symm.trans now
      · intro other last same
        cases now.symm.trans same
        exact pictures.shown debate run running

theorem rendered_of_step {act : Act} (taken : step setting site act = some after) :
    after.app.state = after.app.hook.state ∨
      after.app.state = site.app.state ∧
        after.app.hook.clients.length = site.app.hook.clients.length := by
  cases act with
  | page act =>
      rcases page_of_step taken with ⟨app, moved, rfl, _⟩
      cases taken_of_step setting.parse moved with
      | turned => exact .inl rfl
      | toggled => exact .inl rfl
      | driven => exact .inl rfl
      | asked => exact .inl rfl
      | told act op unasked =>
          refine .inr ⟨rfl, ?_⟩
          rw [← length_messages, ← length_messages]
          exact congrArg List.length (step_messages setting.parse site.app.hook op unasked)
  | network act =>
      rcases network_of_step taken with ⟨world, moved, rfl, own⟩
      refine .inr ⟨rfl, ?_⟩
      rcases hook_of_network moved own with same | ⟨client, event, same⟩
      · exact congrArg (fun hook => hook.clients.length) same
      · rw [← length_messages, ← length_messages]
        simp only
        rw [same]
        exact congrArg List.length
          (step_messages setting.parse site.app.hook (.socket client event) rfl)

theorem debate_stays {act : Act}
    (connected : Connected setting site.world) (taken : step setting site act = some after)
    {client : Nat} {debate : Orchestration.Debate 4} {state : Orchestration.State 4}
    (runs : (site.server client).run = some (debate, state)) :
    ∃ next, (after.server client).run = some (debate, next) := by
  cases act with
  | page act =>
      rcases page_of_step taken with ⟨app, _, rfl, _⟩
      exact ⟨state, runs⟩
  | network act =>
      rcases network_of_step taken with ⟨world, moved, rfl, _⟩
      exact debate_kept connected moved runs

theorem debate_of_docket (closed : ∀ event, setting.handler.closedTakes event = false)
    {reducedMotion stageFirst soundEnabled : Bool}
    (reached : Reaches (step setting) permits (.start reducedMotion stageFirst soundEnabled) site)
    (connected : Connected setting site.world)
    (current : Nat) (last : site.app.hook.clients.length = current + 1)
    {debate : Orchestration.Debate 4} {run : Orchestration.State 4}
    (runs : (site.server current).run = some (debate, run)) :
    debate.question.toList = decode site.app.question ∧
      number debate.rounds = site.app.rounds := by
  have heeds := heeds_reachable closed (connected.sessions current)
  rcases heeds.runs debate run runs with ⟨asked, member, _, rfl⟩
  -- the frame is that of the message in the docket
  rcases connected.posted current _ member with ⟨message, listed, framed⟩
  have docket := (sane_reachable (app_reached reached)).docket current last
  cases listed.symm.trans docket
  rcases connected.built _ (List.mem_of_getElem? listed) with ⟨question, rounds, built⟩
  rw [Setting.frame, read_of_built setting.fraction built] at framed
  -- and what is read of it are its question and its rounds
  rcases accepted_small ((built_inside built).2 _ rfl) with ⟨value, small, low, _⟩
  have rounds_ : received ⟨site.app.question, some site.app.rounds⟩ =
      some ⟨"ask", String.ofList (decode site.app.question), value⟩ := by
    rw [small]
    simp [received, receivedRounds]
  cases framed.trans rounds_
  constructor
  · exact String.toList_ofList
  · have positive : (value : Int) ≠ 0 := by omega
    simp only [HandleSession.Handler.debate, if_neg positive, Int.toNat_natCast, number, small]

variable (decimals : Decimals setting.toNumber) (seats : setting.handler.personas = panel)

include decimals seats

theorem pictured (closed : ∀ event, setting.handler.closedTakes event = false)
    {reducedMotion stageFirst soundEnabled : Bool}
    (reached : Reaches (step setting) permits (.start reducedMotion stageFirst soundEnabled) site) :
    ∀ current, site.app.hook.clients.length = current + 1 →
      Pictures (site.server current) site.app.state := by
  induction reached with
  | refl =>
      intro current last
      cases last
  | @next before after act earlier meets taken ih =>
      intro current last
      have goes := Reaches.next earlier meets taken
      have hooked := world_reached goes
      rcases rendered_of_step taken with now | ⟨same, length⟩
      · rw [now]
        constructor
        · intro silent
          rcases tuned_reachable decimals seats hooked with ⟨connected, tuned⟩
          exact blank_unanswered tuned last
            (heeds_reachable closed (connected.sessions current)) silent
        · intro debate run runs
          exact said_shows decimals seats closed hooked current last runs
      · rw [same]
        have connected := (tuned_reachable decimals seats (world_reached earlier)).1
        exact pictures_later (ih current (length.symm.trans last)) fun debate run runs =>
          debate_stays connected taken runs

end Rendered

end Council.WholeSite

import Council.PageShell
import Council.StageViews

/-!
The canvas of the 3D stage: `useStageFrameloop`
(`frontend/src/three/useStageFrameloop.ts`) in the `DebateStage` that
`StageLayout` loads when it mounts. The page renders the stage with itself; the
effect of a render and the timeout it sets come later, the timeout no sooner
than it is due but perhaps later. A stage that unmounts runs its cleanup at
once, where React may run it a little later.
-/

namespace Council.StageFrameloop

open Council.Machines
open Council.Protocol
open Council.DebateReducer
open Council.UseDebate
open Council.SessionPhases
open Council.StageViews
open Council.PageShell

def ACTIVE_PHASES : DebatePhase → Bool
  | .connecting | .debating | .moderating => true
  | _ => false

def SETTLE_MS : Nat := 1200

inductive FrameloopMode where
  | always
  | demand
  deriving DecidableEq

def modeFor (phase : DebatePhase) : FrameloopMode :=
  if ACTIVE_PHASES phase then .always
  else if phase = .idle then .demand
  else .always

/-- A timeout of the browser, and when it is due. -/
structure Timeout where
  handle : Nat
  due : Nat
  deriving DecidableEq

/-- The hook of a mounted stage: the phase rendered last, whether its effect is
still to run, the state, the ref, and the timeouts the browser holds for it. -/
structure Frameloop where
  phase : DebatePhase
  pending : Bool
  mode : FrameloopMode
  timeoutRef : Option Nat
  /-- The effect that ran last has left its cleanup. -/
  cleans : Bool
  timeouts : List Timeout
  handles : Nat

def Frameloop.mount (phase : DebatePhase) : Frameloop where
  phase := phase
  pending := true
  mode := modeFor phase
  timeoutRef := none
  cleans := false
  timeouts := []
  handles := 0

/-- `clearTimeout` of the ref, unless it is null. -/
def Frameloop.clearTimeout (loop : Frameloop) : Frameloop :=
  match loop.timeoutRef with
  | none => loop
  | some handle =>
      { loop with timeouts := loop.timeouts.filter fun timeout => timeout.handle ≠ handle }

/-- The cleanup of the effect that ran last, if it has one. -/
def Frameloop.cleanup (loop : Frameloop) : Frameloop :=
  if loop.cleans then { loop.clearTimeout with cleans := false } else loop

def Frameloop.setTimeout (loop : Frameloop) (due : Nat) : Frameloop :=
  { loop with
    timeoutRef := some loop.handles
    timeouts := loop.timeouts ++ [⟨loop.handles, due⟩]
    handles := loop.handles + 1 }

/-- The effect of the last render, run at the time `now`. -/
def Frameloop.effect (loop : Frameloop) (now : Nat) : Frameloop :=
  let cleared := { loop.cleanup.clearTimeout with timeoutRef := none, pending := false }
  if ACTIVE_PHASES cleared.phase || cleared.phase == .idle then
    { cleared with mode := modeFor cleared.phase }
  else { cleared.setTimeout (now + SETTLE_MS) with mode := .always, cleans := true }

/-- React runs an effect that is left before it renders again. -/
def Frameloop.flush (loop : Frameloop) (now : Nat) : Frameloop :=
  if loop.pending then loop.effect now else loop

def Frameloop.render (loop : Frameloop) (phase : DebatePhase) : Frameloop :=
  { loop with phase := phase, pending := !(phase == loop.phase) }

def Frameloop.sleep (loop : Frameloop) (handle : Nat) : Frameloop :=
  { loop with
    timeouts := loop.timeouts.filter fun timeout => timeout.handle ≠ handle
    mode := .demand }

/-- The page, the hook of its stage once that has loaded, the clock, and the
timeouts of stages that have unmounted. -/
structure Stage where
  app : App
  loop : Option Frameloop
  now : Nat
  orphans : List Timeout

def Stage.mount (reducedMotion stageFirst soundEnabled : Bool) : Stage where
  app := App.mount reducedMotion stageFirst soundEnabled
  loop := none
  now := 0
  orphans := []

def Stage.render (stage : Stage) (app : App) : Stage :=
  match stage.loop with
  | none => { stage with app := app }
  | some loop =>
      if app.layout.stageFirst then
        { stage with app := app, loop := some ((loop.flush stage.now).render app.state.phase) }
      else
        { stage with
          app := app
          loop := none
          orphans := stage.orphans ++ (loop.flush stage.now).cleanup.timeouts }

/-- What the sockets and the player's timer do is rendered later. -/
def renders : PageShell.Act → Bool
  | .fire | .socket _ _ => false
  | _ => true

inductive Act where
  | page (act : PageShell.Act)
  | load
  | flush
  | wait (ms : Nat)
  | fire (handle : Nat)

section Steps
variable (parse : Text → Except Text DebateEvent)

def step (stage : Stage) : Act → Option Stage
  | .page act =>
      (PageShell.step parse stage.app act).map fun app =>
        if renders act then stage.render app else { stage with app := app }
  | .load =>
      match stage.loop with
      | some _ => none
      | none =>
          if stage.app.layout.stageFirst then
            some { stage with loop := some (.mount stage.app.state.phase) }
          else none
  | .flush =>
      match stage.loop with
      | none => none
      | some loop => some { stage with loop := some (loop.flush stage.now) }
  | .wait ms => some { stage with now := stage.now + ms }
  | .fire handle =>
      match stage.loop with
      | none => none
      | some loop =>
          match loop.timeouts.find? fun timeout => timeout.handle = handle with
          | none => none
          | some timeout =>
              if timeout.due ≤ stage.now then
                some { stage with loop := some (loop.sleep handle) }
              else none

end Steps

/-- At most one timeout is set, and the cleanup will clear it. -/
inductive Scheduled (loop : Frameloop) : Prop where
  | idle (empty : loop.timeouts = []) : Scheduled loop
  | waiting (timeout : Timeout) (set : loop.timeouts = [timeout])
      (named : loop.timeoutRef = some timeout.handle) (cleans : loop.cleans = true) :
      Scheduled loop

/-- What the effect of the last render and its timeout have left. -/
inductive Settled (loop : Frameloop) : Prop where
  | awake (active : ACTIVE_PHASES loop.phase = true) (mode : loop.mode = .always)
      (empty : loop.timeouts = []) : Settled loop
  | blank (idle : loop.phase = .idle) (mode : loop.mode = .demand)
      (empty : loop.timeouts = []) : Settled loop
  | settling (ended : TERMINAL loop.phase = true) (mode : loop.mode = .always)
      (timeout : Timeout) (set : loop.timeouts = [timeout]) : Settled loop
  | asleep (ended : TERMINAL loop.phase = true) (mode : loop.mode = .demand)
      (empty : loop.timeouts = []) : Settled loop

structure Tidy (loop : Frameloop) : Prop where
  scheduled : Scheduled loop
  settled : loop.pending = false → Settled loop

section Hook
variable {loop : Frameloop}

theorem tidy_mount (phase : DebatePhase) : Tidy (.mount phase) where
  scheduled := .idle rfl
  settled := by
    rintro ⟨⟩

theorem clear_empty (empty : loop.timeouts = []) : loop.clearTimeout.timeouts = [] := by
  unfold Frameloop.clearTimeout
  split
  · exact empty
  · simp [empty]

theorem cleanup_empty (scheduled : Scheduled loop) : loop.cleanup.timeouts = [] := by
  cases scheduled with
  | idle empty =>
      unfold Frameloop.cleanup
      split
      · exact clear_empty empty
      · exact empty
  | waiting timeout set named cleans =>
      unfold Frameloop.cleanup
      rw [if_pos cleans]
      simp [Frameloop.clearTimeout, named, set]

theorem clear_phase (loop : Frameloop) : loop.clearTimeout.phase = loop.phase := by
  unfold Frameloop.clearTimeout
  split <;> rfl

theorem cleanup_phase (loop : Frameloop) : loop.cleanup.phase = loop.phase := by
  unfold Frameloop.cleanup
  split
  · exact clear_phase loop
  · rfl

theorem phase_cases (phase : DebatePhase) :
    ACTIVE_PHASES phase = true ∨ phase = .idle ∨ TERMINAL phase = true := by
  cases phase with
  | idle => exact .inr (.inl rfl)
  | connecting => exact .inl rfl
  | debating => exact .inl rfl
  | moderating => exact .inl rfl
  | done => exact .inr (.inr rfl)
  | stopped => exact .inr (.inr rfl)
  | error => exact .inr (.inr rfl)

theorem ended_inactive {phase : DebatePhase} (ended : TERMINAL phase = true) :
    ACTIVE_PHASES phase = false ∧ phase ≠ .idle := by
  cases phase with
  | done => exact ⟨rfl, by rintro ⟨⟩⟩
  | stopped => exact ⟨rfl, by rintro ⟨⟩⟩
  | error => exact ⟨rfl, by rintro ⟨⟩⟩
  | _ => cases ended

theorem effect_leaves (scheduled : Scheduled loop) (now : Nat) :
    (loop.effect now).phase = loop.phase ∧ (loop.effect now).pending = false ∧
      Tidy (loop.effect now) ∧
      (TERMINAL loop.phase = true → (loop.effect now).mode = .always ∧
        ∃ handle, (loop.effect now).timeouts = [⟨handle, now + SETTLE_MS⟩]) := by
  have phase : loop.cleanup.clearTimeout.phase = loop.phase :=
    (clear_phase _).trans (cleanup_phase loop)
  have empty : loop.cleanup.clearTimeout.timeouts = [] := clear_empty (cleanup_empty scheduled)
  have calm : ∀ cleared : Frameloop, cleared.timeouts = [] → cleared.phase = loop.phase →
      (ACTIVE_PHASES cleared.phase || cleared.phase == .idle) = true →
      Settled { cleared with mode := modeFor cleared.phase } := by
    intro cleared empty same calm
    by_cases active : ACTIVE_PHASES cleared.phase = true
    · exact .awake active (if_pos active) empty
    · have idle : cleared.phase = .idle := by simpa [active] using calm
      refine .blank idle ?_ empty
      simp [modeFor, idle, ACTIVE_PHASES]
  unfold Frameloop.effect
  dsimp only
  split
  next resting =>
    refine ⟨phase, rfl, ⟨.idle empty, fun _ => ?_⟩, ?_⟩
    · exact calm { loop.cleanup.clearTimeout with timeoutRef := none, pending := false } empty
        phase resting
    · intro ended
      rcases ended_inactive ended with ⟨inactive, begun⟩
      simp [phase, inactive, begun] at resting
  next settling =>
    have ended : TERMINAL loop.phase = true := by
      rcases phase_cases loop.phase with active | idle | ended
      · simp [phase, active] at settling
      · simp [phase, idle] at settling
      · exact ended
    have set : ∀ cleared : Frameloop, cleared.timeouts = [] →
        (cleared.setTimeout (now + SETTLE_MS)).timeouts =
          [⟨cleared.handles, now + SETTLE_MS⟩] := by
      intro cleared empty
      simp [Frameloop.setTimeout, empty]
    refine ⟨phase, rfl, ⟨.waiting _ (set _ empty) rfl rfl, fun _ => ?_⟩, fun _ =>
      ⟨rfl, _, set _ empty⟩⟩
    exact .settling (by rw [← phase] at ended; exact ended) rfl _ (set _ empty)

theorem flush_leaves (tidy : Tidy loop) (now : Nat) :
    (loop.flush now).phase = loop.phase ∧ (loop.flush now).pending = false ∧
      Tidy (loop.flush now) := by
  unfold Frameloop.flush
  split
  · rcases effect_leaves tidy.scheduled now with ⟨phase, ran, tidy, _⟩
    exact ⟨phase, ran, tidy⟩
  next ran => exact ⟨rfl, by simpa using ran, tidy⟩

theorem render_same (ran : loop.pending = false) : loop.render loop.phase = loop := by
  cases loop with
  | mk phase pending =>
      simp only at ran
      simp [Frameloop.render, ran]

theorem render_tidy (tidy : Tidy loop) (ran : loop.pending = false) (phase : DebatePhase) :
    Tidy (loop.render phase) := by
  by_cases same : phase = loop.phase
  · subst same
    rw [render_same ran]
    exact tidy
  · constructor
    · cases tidy.scheduled with
      | idle empty => exact .idle empty
      | waiting timeout set named cleans => exact .waiting timeout set named cleans
    · intro unchanged
      simp [Frameloop.render, same] at unchanged

theorem timeout_found (tidy : Tidy loop) {handle : Nat} {timeout : Timeout}
    (found : (loop.timeouts.find? fun timeout => timeout.handle = handle) = some timeout) :
    loop.timeouts = [timeout] ∧ timeout.handle = handle := by
  cases tidy.scheduled with
  | idle empty =>
      rw [empty] at found
      cases found
  | waiting only set =>
      have named := List.find?_some found
      have member := List.mem_of_find?_eq_some found
      rw [set] at member
      cases List.mem_singleton.mp member
      exact ⟨set, by simpa using named⟩

theorem sleep_empty {timeout : Timeout} (set : loop.timeouts = [timeout]) :
    (loop.sleep timeout.handle).timeouts = [] := by
  simp [Frameloop.sleep, set]

theorem sleep_tidy (tidy : Tidy loop) {timeout : Timeout} (set : loop.timeouts = [timeout]) :
    Tidy (loop.sleep timeout.handle) := by
  have empty := sleep_empty set
  refine ⟨.idle empty, ?_⟩
  intro ran
  cases tidy.settled ran with
  | settling ended => exact .asleep ended rfl empty
  | awake active mode none_ => cases set.symm.trans none_
  | blank idle mode none_ => cases set.symm.trans none_
  | asleep ended mode none_ => cases set.symm.trans none_

end Hook

section Runs
variable {parse : Text → Except Text DebateEvent} {reducedMotion : Bool}
  {stage after : Stage} {act : Act}

/-- The hook of the stage is that of the page which is rendered. -/
structure Mounted (stage : Stage) (loop : Frameloop) : Prop where
  tidy : Tidy loop
  shown : loop.phase = stage.app.state.phase
  layout : stage.app.layout.stageFirst = true

variable (parse reducedMotion) in
structure Kept (stage : Stage) : Prop where
  sane : Sane parse reducedMotion stage.app
  mounted : ∀ loop, stage.loop = some loop → Mounted stage loop
  orphans : stage.orphans = []

theorem kept_mount (stageFirst soundEnabled : Bool) :
    Kept parse reducedMotion (.mount reducedMotion stageFirst soundEnabled) where
  sane := sane_mount stageFirst soundEnabled
  mounted := by
    rintro loop ⟨⟩
  orphans := rfl

theorem unrendered {act : PageShell.Act} {app later : App} (unseen : renders act = false)
    (taken : PageShell.step parse app act = some later) :
    later.state = app.state ∧ later.layout = app.layout := by
  cases act with
  | fire =>
      cases taken
      exact ⟨rfl, rfl⟩
  | socket client event =>
      cases taken
      exact ⟨rfl, rfl⟩
  | _ => cases unseen

theorem page_of_step {act : PageShell.Act} (taken : step parse stage (.page act) = some after) :
    ∃ app, PageShell.step parse stage.app act = some app ∧
      (renders act = true ∧ after = stage.render app ∨
        renders act = false ∧ after = { stage with app := app }) := by
  rcases Option.map_eq_some_iff.mp (show (PageShell.step parse stage.app act).map _ = _ from
    taken) with ⟨app, moved, same⟩
  refine ⟨app, moved, ?_⟩
  cases seen : renders act with
  | true => exact .inl ⟨rfl, by rw [← same, seen, if_pos rfl]⟩
  | false => exact .inr ⟨rfl, by rw [← same, seen, if_neg (by rintro ⟨⟩)]⟩

theorem render_kept (kept : Kept parse reducedMotion stage) {app : App}
    (sane : Sane parse reducedMotion app) : Kept parse reducedMotion (stage.render app) := by
  unfold Stage.render
  cases known : stage.loop with
  | none =>
      refine ⟨sane, ?_, kept.orphans⟩
      rintro loop ⟨⟩
  | some loop =>
      rcases flush_leaves (kept.mounted loop known).tidy stage.now with ⟨_, ran, tidy⟩
      dsimp only
      split
      next wide =>
        refine ⟨sane, ?_, kept.orphans⟩
        rintro later ⟨⟩
        exact ⟨render_tidy tidy ran _, rfl, wide⟩
      next narrow =>
        refine ⟨sane, ?_, ?_⟩
        · rintro later ⟨⟩
        · change stage.orphans ++ _ = []
          rw [kept.orphans, cleanup_empty tidy.scheduled]
          rfl

theorem kept_step (kept : Kept parse reducedMotion stage)
    (taken : step parse stage act = some after) : Kept parse reducedMotion after := by
  cases act with
  | page act =>
      rcases page_of_step taken with ⟨app, moved, ⟨_, rfl⟩ | ⟨unseen, rfl⟩⟩
      · exact render_kept kept (sane_step kept.sane moved)
      · rcases unrendered unseen moved with ⟨state, layout⟩
        refine ⟨sane_step kept.sane moved, ?_, kept.orphans⟩
        intro loop known
        rcases kept.mounted loop known with ⟨tidy, shown, wide⟩
        exact ⟨tidy, by rw [shown, state], by rw [← wide, layout]⟩
  | load =>
      simp only [step] at taken
      split at taken
      · cases taken
      · split at taken
        next wide =>
          cases taken
          refine ⟨kept.sane, ?_, kept.orphans⟩
          rintro loop ⟨⟩
          exact ⟨tidy_mount _, rfl, wide⟩
        · cases taken
  | flush =>
      simp only [step] at taken
      split at taken
      · cases taken
      next loop known =>
        cases taken
        rcases kept.mounted loop known with ⟨tidy, shown, wide⟩
        rcases flush_leaves tidy stage.now with ⟨phase, _, tidy⟩
        refine ⟨kept.sane, ?_, kept.orphans⟩
        rintro later ⟨⟩
        exact ⟨tidy, phase.trans shown, wide⟩
  | wait ms =>
      cases taken
      refine ⟨kept.sane, ?_, kept.orphans⟩
      intro loop known
      rcases kept.mounted loop known with ⟨tidy, shown, wide⟩
      exact ⟨tidy, shown, wide⟩
  | fire handle =>
      simp only [step] at taken
      split at taken
      · cases taken
      next loop known =>
        split at taken
        · cases taken
        next timeout found =>
          split at taken
          · cases taken
            rcases kept.mounted loop known with ⟨tidy, shown, wide⟩
            rcases timeout_found tidy found with ⟨set, rfl⟩
            refine ⟨kept.sane, ?_, kept.orphans⟩
            rintro later ⟨⟩
            exact ⟨sleep_tidy tidy set, shown, wide⟩
          · cases taken

theorem kept_reachable {stageFirst soundEnabled : Bool}
    (reached : Reaches (step parse) always (.mount reducedMotion stageFirst soundEnabled) stage) :
    Kept parse reducedMotion stage := by
  refine reached.invariant (Kept parse reducedMotion) (kept_mount stageFirst soundEnabled) ?_
  intro before act after _ _ taken kept
  exact kept_step kept taken

end Runs

section Robots
variable {state : DebateState} (keyed : Keyed state)

theorem panelist_thinking (id : PersonaId) (thinks : panelistStatus state keyed id = .thinking) :
    state.phase = .debating := by
  unfold panelistStatus at thinks
  cases phase : state.phase with
  | debating => rfl
  | idle => simp [phase] at thinks
  | connecting => simp [phase] at thinks
  | moderating => cases spoke : hasSpokenEver keyed id <;> simp [phase, spoke] at thinks
  | done => cases spoke : hasSpokenEver keyed id <;> simp [phase, spoke] at thinks
  | stopped => cases spoke : hasSpokenEver keyed id <;> simp [phase, spoke] at thinks
  | error => cases spoke : hasSpokenEver keyed id <;> simp [phase, spoke] at thinks

theorem moderator_never_thinks : moderatorStatus state keyed ≠ .thinking := by
  unfold moderatorStatus
  cases state.phase <;> cases hasSpokenEver keyed MODERATOR_ID <;> simp

theorem busy_active {robot : RobotVisualState} (member : robot ∈ robotVisualState state keyed)
    (busy : robot.status = .talking ∨ robot.status = .thinking) :
    ACTIVE_PHASES state.phase = true := by
  rcases List.mem_map.mp member with ⟨id, _, rfl⟩
  by_cases moderator : id = MODERATOR_ID
  · simp only [robotOf, if_pos moderator] at busy
    rcases busy with talks | thinks
    · rw [(moderator_talking_iff keyed).mp talks]
      rfl
    · exact absurd thinks (moderator_never_thinks keyed)
  · simp only [robotOf, if_neg moderator] at busy
    rcases busy with talks | thinks
    · rw [((panelist_talking_iff keyed id).mp talks).1]
      rfl
    · rw [panelist_thinking keyed id thinks]
      rfl

end Robots

section Layouts
variable {parse : Text → Except Text DebateEvent} {app later : App}

theorem effect_layout (layout : Layout) (phase : DebatePhase) :
    (layout.effect phase).stageFirst = layout.stageFirst := by
  cases layout with
  | stage => rfl
  | mobile => rfl

theorem edit_layout (layout : Layout) (update : QuestionForm → QuestionForm) :
    (layout.edit update).stageFirst = layout.stageFirst := by
  cases layout with
  | stage => rfl
  | mobile => rfl

theorem edited_layout (update : QuestionForm → QuestionForm) :
    (app.edited update).layout.stageFirst = app.layout.stageFirst :=
  (effect_layout _ _).trans (edit_layout _ _)

theorem convene_layout (layout : Layout) : layout.convene.stageFirst = layout.stageFirst := by
  cases layout with
  | stage => rfl
  | mobile => rfl

theorem layout_kept {act : PageShell.Act} (taken : PageShell.step parse app act = some later)
    (steady : ∀ stageFirst, act ≠ .resize stageFirst) :
    later.layout.stageFirst = app.layout.stageFirst := by
  cases act with
  | input question =>
      simp only [PageShell.step] at taken
      split at taken
      · cases taken
        exact edited_layout _
      · cases taken
  | pickPreset preset =>
      simp only [PageShell.step] at taken
      split at taken
      · cases taken
        exact edited_layout _
      · cases taken
  | chooseRounds rounds =>
      simp only [PageShell.step] at taken
      split at taken
      · cases taken
        exact edited_layout _
      · cases taken
  | submit =>
      simp only [PageShell.step] at taken
      split at taken
      · cases taken
      · split at taken
        · cases taken
          exact (effect_layout _ _).trans (convene_layout _)
        · cases taken
  | askAnother =>
      simp only [PageShell.step] at taken
      split at taken
      next layout =>
        split at taken
        · cases taken
        · cases taken
          rw [layout]
          rfl
      · cases taken
  | edit =>
      simp only [PageShell.step] at taken
      split at taken
      next layout =>
        split at taken
        · cases taken
        · cases taken
          rw [layout]
          rfl
      · cases taken
  | dismiss =>
      simp only [PageShell.step] at taken
      split at taken
      next layout =>
        split at taken
        · cases taken
          rw [layout]
          rfl
        · cases taken
      · cases taken
  | resize stageFirst => exact absurd rfl (steady stageFirst)
  | fire =>
      cases taken
      rfl
  | socket client event =>
      cases taken
      rfl
  | render =>
      cases taken
      exact effect_layout _ _
  | _ =>
      simp only [PageShell.step] at taken
      split at taken
      · cases taken
        exact effect_layout _ _
      · cases taken

end Layouts

/-- Neither the next question nor another layout. -/
def lingers : Stage → Act → Prop := fun _ act =>
  act ≠ .page .submit ∧ ∀ stageFirst, act ≠ .page (.resize stageFirst)

section Endings
variable {parse : Text → Except Text DebateEvent} {reducedMotion : Bool}
  {stage after : Stage} {act : Act} {loop : Frameloop}

/-- The end of a session has been rendered. -/
structure Ended (stage : Stage) : Prop where
  hook : TERMINAL stage.app.hook.state.phase = true
  shown : stage.app.state.phase = stage.app.hook.state.phase

theorem ended_of_shown (sane : Sane parse reducedMotion stage.app)
    (ended : TERMINAL stage.app.state.phase = true) : Ended stage := by
  have same := sane.still (unlive_of_terminal ended)
  exact ⟨by rw [same]; exact ended, same.symm⟩

/-- Everything that can happen to the hook then: nothing, its effect, or its
timeout. -/
inductive Lingered (loop : Frameloop) (now : Nat) : Frameloop → Prop where
  | kept : Lingered loop now loop
  | flushed : Lingered loop now (loop.flush now)
  | slept (timeout : Timeout) (set : loop.timeouts = [timeout]) (due : timeout.due ≤ now) :
      Lingered loop now (loop.sleep timeout.handle)

theorem render_lingered (mounted : Mounted stage loop) (known : stage.loop = some loop)
    {app : App} (wide : app.layout.stageFirst = true)
    (same : app.state.phase = stage.app.state.phase) :
    (stage.render app).loop = some (loop.flush stage.now) := by
  rcases flush_leaves mounted.tidy stage.now with ⟨phase, ran, _⟩
  have stays : app.state.phase = (loop.flush stage.now).phase := by
    rw [same, phase, mounted.shown]
  unfold Stage.render
  rw [known]
  dsimp only
  rw [if_pos wide, stays, render_same ran]

theorem render_app (stage : Stage) (app : App) :
    (stage.render app).app = app ∧ (stage.render app).now = stage.now := by
  unfold Stage.render
  split
  · exact ⟨rfl, rfl⟩
  · split <;> exact ⟨rfl, rfl⟩

theorem lingers_step (kept : Kept parse reducedMotion stage) (ended : Ended stage)
    (known : stage.loop = some loop) (meets : lingers stage act)
    (taken : step parse stage act = some after) :
    Ended after ∧ stage.now ≤ after.now ∧
      ∃ later, after.loop = some later ∧ Lingered loop stage.now later := by
  have mounted := kept.mounted loop known
  cases act with
  | page act =>
      rcases page_of_step taken with ⟨app, moved, rendered⟩
      have unasked : act ≠ .submit := fun here => meets.1 (by rw [here])
      have steady : ∀ stageFirst, act ≠ .resize stageFirst := fun stageFirst here =>
        meets.2 stageFirst (by rw [here])
      have stays := ended_step kept.sane moved unasked ended.hook
      have wide := (layout_kept moved steady).trans mounted.layout
      have rests : TERMINAL app.hook.state.phase = true := by
        rw [stays]
        exact ended.hook
      have phase : app.state.phase = app.hook.state.phase := by
        cases rendered_step moved unasked with
        | same phase => rw [phase, stays, ended.shown]
        | fresh phase => exact phase
      rcases rendered with ⟨_, rfl⟩ | ⟨unseen, rfl⟩
      · rcases render_app stage app with ⟨page, clock⟩
        refine ⟨⟨by rw [page]; exact rests, by rw [page]; exact phase⟩, by rw [clock], _,
          render_lingered mounted known wide ?_, .flushed⟩
        rw [phase, stays, ended.shown]
      · exact ⟨⟨rests, phase⟩, Nat.le_refl _, loop, known, .kept⟩
  | load =>
      simp only [step, known] at taken
      cases taken
  | flush =>
      simp only [step, known] at taken
      cases taken
      exact ⟨⟨ended.hook, ended.shown⟩, Nat.le_refl _, _, rfl, .flushed⟩
  | wait ms =>
      cases taken
      exact ⟨⟨ended.hook, ended.shown⟩, Nat.le_add_right _ _, loop, known, .kept⟩
  | fire handle =>
      simp only [step, known] at taken
      split at taken
      · cases taken
      next timeout found =>
        split at taken
        next due =>
          cases taken
          rcases timeout_found mounted.tidy found with ⟨set, rfl⟩
          exact ⟨⟨ended.hook, ended.shown⟩, Nat.le_refl _, _, rfl, .slept timeout set due⟩
        · cases taken

/-- What is left of the settle window that began at `since`. -/
inductive Window (since : Nat) (stage : Stage) (loop : Frameloop) : Prop where
  | settling (mode : loop.mode = .always) (handle : Nat)
      (set : loop.timeouts = [⟨handle, since + SETTLE_MS⟩]) : Window since stage loop
  | asleep (mode : loop.mode = .demand) (empty : loop.timeouts = [])
      (past : since + SETTLE_MS ≤ stage.now) : Window since stage loop

/-- The session is over on the page, its effect has run at `since`, and the
window goes on or is past. -/
structure Resting (since : Nat) (stage : Stage) : Prop where
  ended : Ended stage
  window : ∃ loop, stage.loop = some loop ∧ loop.pending = false ∧ Window since stage loop

theorem resting_step {since : Nat} (kept : Kept parse reducedMotion stage)
    (resting : Resting since stage) (meets : lingers stage act)
    (taken : step parse stage act = some after) : Resting since after := by
  rcases resting.window with ⟨loop, known, ran, window⟩
  rcases lingers_step kept resting.ended known meets taken with ⟨ended, clock, later, now, lingered⟩
  have still : Window since after loop := by
    cases window with
    | settling mode handle set => exact .settling mode handle set
    | asleep mode empty past => exact .asleep mode empty (Nat.le_trans past clock)
  refine ⟨ended, later, now, ?_⟩
  cases lingered with
  | kept => exact ⟨ran, still⟩
  | flushed =>
      have same : loop.flush stage.now = loop := if_neg (by rw [ran]; rintro ⟨⟩)
      rw [same]
      exact ⟨ran, still⟩
  | slept timeout set due =>
      refine ⟨ran, .asleep rfl (sleep_empty set) ?_⟩
      cases window with
      | settling mode handle only =>
          cases only.symm.trans set
          exact Nat.le_trans due clock
      | asleep mode empty past => cases empty.symm.trans set

theorem resting_begins (kept : Kept parse reducedMotion stage) (shown : Ended stage)
    (known : stage.loop = some loop) (pending : loop.pending = true) (meets : lingers stage act)
    (taken : step parse stage act = some after)
    (ran : ∀ later, after.loop = some later → later.pending = false) :
    Resting stage.now after := by
  have mounted := kept.mounted loop known
  rcases lingers_step kept shown known meets taken with ⟨ended, clock, later, now, lingered⟩
  have here := ran later now
  refine ⟨ended, later, now, here, ?_⟩
  cases lingered with
  | kept => cases here.symm.trans pending
  | slept => cases here.symm.trans pending
  | flushed =>
      have effect : loop.flush stage.now = loop.effect stage.now := if_pos pending
      have terminal : TERMINAL loop.phase = true := by
        rw [mounted.shown, shown.shown]
        exact shown.hook
      rcases (effect_leaves mounted.tidy.scheduled stage.now).2.2.2 terminal with
        ⟨mode, handle, set⟩
      rw [effect]
      exact .settling mode handle set

theorem asleep_step (kept : Kept parse reducedMotion stage) (ended : Ended stage)
    (known : stage.loop = some loop) (ran : loop.pending = false) (mode : loop.mode = .demand)
    (meets : lingers stage act) (taken : step parse stage act = some after) :
    Ended after ∧ ∃ later, after.loop = some later ∧ later.pending = false ∧
      later.mode = .demand := by
  rcases lingers_step kept ended known meets taken with ⟨ended, _, later, now, lingered⟩
  refine ⟨ended, later, now, ?_⟩
  cases lingered with
  | kept => exact ⟨ran, mode⟩
  | flushed =>
      have same : loop.flush stage.now = loop := if_neg (by rw [ran]; rintro ⟨⟩)
      rw [same]
      exact ⟨ran, mode⟩
  | slept => exact ⟨ran, rfl⟩

end Endings

section Results
variable {parse : Text → Except Text DebateEvent} {reducedMotion stageFirst soundEnabled : Bool}
  {stage : Stage} {loop : Frameloop}

theorem live_active (phase : DebatePhase) : LIVE_PHASES phase = ACTIVE_PHASES phase := by
  cases phase <;> rfl

/-- With no effect to run, the canvas is redrawn always exactly while the page
shows a session or the one timeout of the settle window is set. A session is
never played to a sleeping canvas, nor does a robot talk or think on one; and
no timeout is left behind by a stage that has unmounted, effects run or not. -/
theorem awake_in_session
    (reached : Reaches (step parse) always (.mount reducedMotion stageFirst soundEnabled) stage) :
    stage.orphans = [] ∧ ∀ loop, stage.loop = some loop →
      loop.timeouts.length ≤ 1 ∧
      (loop.pending = false →
        (loop.mode = .always ↔ stage.app.live = true ∨ loop.timeouts ≠ []) ∧
        (LIVE_PHASES stage.app.hook.state.phase = true → loop.mode = .always) ∧
        ∀ keyed : Keyed stage.app.state, ∀ robot ∈ robotVisualState stage.app.state keyed,
          robot.status = .talking ∨ robot.status = .thinking → loop.mode = .always) := by
  have kept := kept_reachable reached
  refine ⟨kept.orphans, fun loop known => ?_⟩
  rcases kept.mounted loop known with ⟨tidy, shown, _⟩
  refine ⟨?_, fun ran => ?_⟩
  · cases tidy.scheduled with
    | idle empty => simp [empty]
    | waiting timeout set => simp [set]
  have live : stage.app.live = ACTIVE_PHASES loop.phase := by
    rw [App.live, shown, live_active]
  have awake : ACTIVE_PHASES loop.phase = true → loop.mode = .always := by
    intro active
    cases tidy.settled ran with
    | awake _ mode => exact mode
    | blank idle =>
        rw [idle] at active
        cases active
    | settling ended mode => exact mode
    | asleep ended =>
        rw [(ended_inactive ended).1] at active
        cases active
  refine ⟨?_, ?_, ?_⟩
  · rw [live]
    cases tidy.settled ran with
    | awake active mode => simp [active, mode]
    | blank idle mode empty => simp [idle, mode, empty, ACTIVE_PHASES]
    | settling ended mode timeout set => simp [mode, set]
    | asleep ended mode empty => simp [(ended_inactive ended).1, mode, empty]
  · intro session
    apply awake
    rw [← live]
    by_contra quiet
    rw [kept.sane.unlive (by simpa using quiet)] at session
    cases session
  · intro keyed robot member busy
    apply awake
    rw [shown]
    exact busy_active keyed member busy

/-- The stage is loaded after the question. -/
def opening : List Act :=
  [.page (.input (units "Why?")), .page .submit, .load, .flush]

theorem awake_in_session_opening :
    ∃ stage loop, perform (step ruling) always (.mount true true false) opening = some stage ∧
      stage.loop = some loop ∧ loop.mode = .always ∧ stage.orphans = [] := by
  have run : (perform (step ruling) always (.mount true true false) opening).map (fun stage =>
      (stage.loop.map Frameloop.pending, stage.app.live)) = some (some false, true) := by
    decide +kernel
  rcases Option.map_eq_some_iff.mp run with ⟨stage, performed, facts⟩
  have settled := congrArg (fun fact => fact.1) facts
  have live := congrArg (fun fact => fact.2) facts
  rcases Option.map_eq_some_iff.mp settled with ⟨loop, known, ran⟩
  have awake := awake_in_session (perform_reaches _ _ _ performed)
  exact ⟨stage, loop, performed, known, ((awake.2 loop known).2 ran).1.mpr (.inl live), awake.1⟩

/-- The effect of the end of a session keeps the canvas awake for the settle
window and lets it sleep afterwards: until the next question or another layout
it does not sleep before the window is past, and from then on it sleeps or its
timeout can fire, after which it sleeps for as long. -/
theorem sleeps_when_settled
    (reached : Reaches (step parse) always (.mount reducedMotion stageFirst soundEnabled) stage)
    (known : stage.loop = some loop) (pending : loop.pending = true)
    (ended : TERMINAL stage.app.state.phase = true) {act : Act} {started : Stage}
    (meets : lingers stage act) (taken : step parse stage act = some started)
    (ran : ∀ later, started.loop = some later → later.pending = false)
    (later : Stage) (path : Reaches (step parse) lingers started later) :
    ∃ rest, later.loop = some rest ∧
      (rest.mode = .demand → stage.now + SETTLE_MS ≤ later.now) ∧
      (stage.now + SETTLE_MS ≤ later.now → rest.mode = .demand ∨
        ∃ handle asleep, step parse later (.fire handle) = some asleep ∧
          ∀ next, Reaches (step parse) lingers asleep next →
            ∃ dark, next.loop = some dark ∧ dark.mode = .demand) := by
  have kept := kept_reachable reached
  have begins := resting_begins kept (ended_of_shown kept.sane ended) known pending meets taken ran
  -- until the next question
  have rests : Kept parse reducedMotion later ∧ Resting stage.now later := by
    refine path.invariant (fun stage_ => Kept parse reducedMotion stage_ ∧
      Resting stage.now stage_) ⟨kept_step kept taken, begins⟩ ?_
    rintro before act after - meets taken ⟨kept, resting⟩
    exact ⟨kept_step kept taken, resting_step kept resting meets taken⟩
  rcases rests with ⟨kept, resting⟩
  rcases resting.window with ⟨rest, now, settled, window⟩
  refine ⟨rest, now, ?_, ?_⟩
  · intro mode
    cases window with
    | settling awake => cases awake.symm.trans mode
    | asleep _ _ past => exact past
  · intro past
    cases window with
    | asleep mode => exact .inl mode
    | settling mode handle set =>
        -- the window is past, so its timeout is due
        have fires : step parse later (.fire handle) =
            some { later with loop := some (rest.sleep handle) } := by
          simp [step, now, set, past]
        refine .inr ⟨handle, _, fires, ?_⟩
        intro next on
        have dark : Kept parse reducedMotion next ∧ Ended next ∧
            ∃ dark, next.loop = some dark ∧ dark.pending = false ∧ dark.mode = .demand := by
          refine on.invariant (fun stage_ => Kept parse reducedMotion stage_ ∧ Ended stage_ ∧
            ∃ dark, stage_.loop = some dark ∧ dark.pending = false ∧ dark.mode = .demand)
            ⟨kept_step kept fires, ⟨resting.ended.hook, resting.ended.shown⟩, _, rfl, settled, rfl⟩ ?_
          rintro before act after - meets taken ⟨kept, ended, dark, here, ran, mode⟩
          exact ⟨kept_step kept taken, asleep_step kept ended here ran mode meets taken⟩
        rcases dark with ⟨_, _, dark, here, _, mode⟩
        exact ⟨dark, here, mode⟩

/-- The verdict comes, and is rendered. -/
def ending : List Act :=
  opening ++ [.page (.socket 0 (.message (.text []))), .page .render]

theorem sleeps_when_settled_ending :
    ∃ stage started later, perform (step ruling) always (.mount true true false) ending = some stage ∧
      step ruling stage .flush = some started ∧
      step ruling started (.wait SETTLE_MS) = some later ∧
      ∃ handle asleep, step ruling later (.fire handle) = some asleep ∧
        ∀ next, Reaches (step ruling) lingers asleep next →
          ∃ dark, next.loop = some dark ∧ dark.mode = .demand := by
  have run : (perform (step ruling) always (.mount true true false) ending).map (fun stage =>
      (stage.loop.map fun loop => (loop.pending, (loop.flush stage.now).mode,
        (loop.flush stage.now).pending), TERMINAL stage.app.state.phase)) =
          some (some (true, .always, false), true) := by
    decide +kernel
  rcases Option.map_eq_some_iff.mp run with ⟨stage, performed, facts⟩
  have hook := congrArg (fun fact => fact.1) facts
  have ended := congrArg (fun fact => fact.2) facts
  rcases Option.map_eq_some_iff.mp hook with ⟨loop, known, modes⟩
  have pending := congrArg (fun fact => fact.1) modes
  have mode := congrArg (fun fact => fact.2.1) modes
  have ran := congrArg (fun fact => fact.2.2) modes
  have flushes : step ruling stage .flush =
      some { stage with loop := some (loop.flush stage.now) } := by
    simp only [step, known]
  refine ⟨stage, _, _, performed, flushes, rfl, ?_⟩
  have lingering : ∀ stage, lingers stage .flush := fun _ => ⟨by rintro ⟨⟩, by rintro _ ⟨⟩⟩
  rcases sleeps_when_settled (perform_reaches _ _ _ performed) known pending ended (lingering stage)
      flushes (by rintro later ⟨⟩; exact ran) _
      (.next .refl ⟨by rintro ⟨⟩, by rintro _ ⟨⟩⟩
        (show step ruling _ (.wait SETTLE_MS) = _ from rfl)) with ⟨rest, now, _, fires⟩
  cases now
  rcases fires (Nat.le_refl _) with dark | fires
  · cases dark.symm.trans mode
  · exact fires

end Results

end Council.StageFrameloop

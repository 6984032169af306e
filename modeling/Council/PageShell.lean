import Council.WholeSystem

/-!
The page around the hook: `frontend/src/App.tsx` with the two layouts it
switches between, `StageLayout` and `MobileLayout`, their question form, their
controls, the docket, the verdict panel and the sound engine of
`frontend/src/hooks/useSound.ts`. The user acts on what was rendered last. Every
act of the user is rendered at once; what the sockets and the timer do is
rendered some time later, possibly several of their events together.
-/

namespace Council.PageShell

open Council.Machines
open Council.Protocol
open Council.DebateReducer
open Council.DebatePlayer
open Council.PlayerRuns
open Council.AskWire
open Council.UseDebate
open Council.SessionPhases
open Council.WholeSystem

def LIVE_PHASES : DebatePhase → Bool
  | .connecting | .debating | .moderating => true
  | _ => false

def MODERATOR_PHASES : DebatePhase → Bool
  | .moderating | .done => true
  | _ => false

def DEFAULT_ROUNDS : JsNumber := number 2

def ROUND_OPTIONS : List JsNumber :=
  (List.range ((MAX_ROUNDS - MIN_ROUNDS) / 2 + 1)).map fun i => number (MIN_ROUNDS + i * 2 : Nat)

def TOPIC_PRESETS : List Text :=
  [units "Should companies switch to a four-day work week?",
    units "Should a growing startup stay remote-first or require an office?",
    units "Should AI-generated code be allowed to merge without a human review?",
    units "Would a universal basic income do more good than harm?"]

def RATE_PRESETS : List JsNumber :=
  [.finite (1 / 2), .finite 1, .finite (3 / 2), .finite 2]

/-- The draft of a `QuestionForm`. -/
structure QuestionForm where
  question : Text := []
  rounds : JsNumber := DEFAULT_ROUNDS

def QuestionForm.validation (form : QuestionForm) : Except Text AskMessage :=
  buildAsk form.question (some form.rounds)

/-- `useVerdictSpotlight`. -/
structure VerdictSpotlight where
  shown : Bool := false
  prevPhase : DebatePhase

def VerdictSpotlight.effect (spotlight : VerdictSpotlight) (phase : DebatePhase) :
    VerdictSpotlight where
  shown := spotlight.shown || (!MODERATOR_PHASES spotlight.prevPhase && MODERATOR_PHASES phase)
  prevPhase := phase

def VerdictSpotlight.dismiss (spotlight : VerdictSpotlight) : VerdictSpotlight :=
  { spotlight with shown := false }

inductive Layout where
  | stage (composing : Bool) (form : QuestionForm)
  | mobile (spotlight : VerdictSpotlight) (form : QuestionForm)

def Layout.mount (stageFirst : Bool) (phase : DebatePhase) : Layout :=
  if stageFirst then .stage (phase == .idle) {} else .mobile { prevPhase := phase } {}

def Layout.effect (phase : DebatePhase) : Layout → Layout
  | .stage composing form => .stage composing form
  | .mobile spotlight form => .mobile (spotlight.effect phase) form

/-- The question form is open over the stage. -/
def Layout.composing : Layout → Bool
  | .stage composing _ => composing
  | .mobile _ _ => false

def Layout.stageFirst : Layout → Bool
  | .stage _ _ => true
  | .mobile _ _ => false

def Layout.form : Layout → QuestionForm
  | .stage _ form => form
  | .mobile _ form => form

def Layout.edit (update : QuestionForm → QuestionForm) : Layout → Layout
  | .stage composing form => .stage composing (update form)
  | .mobile spotlight form => .mobile spotlight (update form)

/-- What the layout's `handleAsk` does before it hands the question on. -/
def Layout.convene : Layout → Layout
  | .stage _ form => .stage false form
  | .mobile spotlight form => .mobile spotlight.dismiss form

inductive Cue where
  | round
  | verdict
  deriving DecidableEq

/-- The page: the hook, what was rendered last, the question and the rounds for
the readouts, the layout, and the sound cues with the refs they are read off:
those the page asks the engine for, and those the engine plays. -/
structure App where
  hook : Hook
  state : DebateState
  rounds : JsNumber
  question : Text
  layout : Layout
  previousRound : Nat
  previousPhase : DebatePhase
  cues : List Cue
  soundEnabled : Bool
  played : List Cue

/-- `soundEnabled` is the stored preference. -/
def App.mount (reducedMotion stageFirst soundEnabled : Bool) : App where
  hook := createHook reducedMotion
  state := initialState
  rounds := DEFAULT_ROUNDS
  question := []
  layout := .mount stageFirst initialState.phase
  previousRound := initialState.currentRound
  previousPhase := initialState.phase
  cues := []
  soundEnabled := soundEnabled
  played := []

def App.sounds (app : App) (state : DebateState) : List Cue :=
  (if 0 < app.previousRound ∧ app.previousRound < state.currentRound then [.round] else []) ++
    if state.phase = .done ∧ app.previousPhase ≠ .done then [.verdict] else []

/-- A render and its effects; `setEnabled` comes before the cues. -/
def App.render (app : App) : App :=
  { app with
    state := app.hook.state
    layout := app.layout.effect app.hook.state.phase
    previousRound := app.hook.state.currentRound
    previousPhase := app.hook.state.phase
    cues := app.cues ++ app.sounds app.hook.state
    played := app.played ++ if app.soundEnabled then app.sounds app.hook.state else [] }

def App.live (app : App) : Bool := LIVE_PHASES app.state.phase

/-- The verdict panel covers the mobile page. -/
def App.showVerdict (app : App) : Bool :=
  match app.layout with
  | .stage _ _ => false
  | .mobile spotlight _ => spotlight.shown && app.state.phase == .done

/-- What the docket names. -/
structure Docket where
  question : Text
  rounds : JsNumber

/-- The docket is on the stage, once there is a question. -/
def App.docket (app : App) : Option Docket :=
  match app.layout with
  | .stage _ _ => if trim app.question = [] then none else some ⟨app.question, app.rounds⟩
  | .mobile _ _ => none

/-- The user can reach the question form. -/
def App.formOpen (app : App) : Bool :=
  match app.layout with
  | .stage composing _ => composing
  | .mobile _ _ => !app.showVerdict

/-- The page with another layout, or the draft changed. -/
def App.turned (app : App) (layout : Layout) : App := { app with layout := layout }.render

def App.edited (app : App) (update : QuestionForm → QuestionForm) : App :=
  app.turned (app.layout.edit update)

inductive Act where
  | input (question : Text)
  | pickPreset (preset : Text)
  | chooseRounds (rounds : JsNumber)
  | submit
  | stop
  | askAnother
  | edit
  | setRate (multiplier : JsNumber)
  | goToLive
  | dismiss
  | toggleSound
  | resize (stageFirst : Bool)
  | fire
  | socket (client : Nat) (event : SocketEvent)
  | render

section Steps

variable (parse : Text → Except Text DebateEvent)

def App.tell (app : App) (op : HookOp) : App :=
  { app with hook := (hookStep parse app.hook op).1 }

/-- `handleAsk` of the layout and of the page. -/
def App.handleAsk (app : App) (question : Text) (rounds : JsNumber) : App :=
  { app.tell parse (.ask question (some rounds)) with
    rounds := rounds
    question := question
    layout := app.layout.convene }

/-- The next state, where the page offers the act. -/
def step (app : App) : Act → Option App
  | .input question =>
      if app.formOpen then
        some (app.edited fun form => { form with question := question })
      else none
  | .pickPreset preset =>
      if app.formOpen ∧ app.live = false ∧ preset ∈ TOPIC_PRESETS then
        some (app.edited fun form => { form with question := preset })
      else none
  | .chooseRounds rounds =>
      if app.formOpen ∧ app.live = false ∧ rounds ∈ ROUND_OPTIONS then
        some (app.edited fun form => { form with rounds := rounds })
      else none
  | .submit =>
      match app.layout.form.validation with
      | .error _ => none
      | .ok _ =>
          if app.formOpen ∧ app.live = false then
            some (app.handleAsk parse (trim app.layout.form.question)
              app.layout.form.rounds).render
          else none
  | .stop => if app.live then some (app.tell parse .stop).render else none
  | .askAnother =>
      match app.layout with
      | .stage false form => if app.live then none else some (app.turned (.stage true form))
      | _ => none
  | .edit =>
      match app.layout with
      | .stage _ form =>
          if app.live ∨ trim app.question = [] then none else some (app.turned (.stage true form))
      | _ => none
  | .setRate multiplier =>
      if app.live ∧ multiplier ∈ RATE_PRESETS then
        some (app.tell parse (.setRate multiplier)).render
      else none
  | .goToLive => if app.live then some (app.tell parse .goToLive).render else none
  | .dismiss =>
      match app.layout with
      | .mobile spotlight form =>
          if app.showVerdict then some (app.turned (.mobile spotlight.dismiss form)) else none
      | _ => none
  | .toggleSound =>
      -- on the small layout the toggle is part of the form
      if app.layout.stageFirst ∨ app.formOpen then
        some { app with soundEnabled := !app.soundEnabled }.render
      else none
  | .resize stageFirst =>
      if app.layout.stageFirst = stageFirst then none
      else some (app.turned (.mount stageFirst app.hook.state.phase))
  | .fire => some (app.tell parse .fire)
  | .socket client event => some (app.tell parse (.socket client event))
  | .render => some app.render

/-- Where the spotlight of the next layout comes from. -/
inductive Spot (app : App) (spotlight : VerdictSpotlight) : Act → Prop where
  | kept (act : Act) (form : QuestionForm) (same : app.layout = .mobile spotlight form) :
      Spot app spotlight act
  | dismissed (shut : spotlight.shown = false) (watched : ∃ earlier form,
      app.layout = .mobile earlier form ∧ spotlight.prevPhase = earlier.prevPhase) :
      Spot app spotlight .dismiss
  | mounted (stageFirst : Bool) (fresh : spotlight = { prevPhase := app.hook.state.phase }) :
      Spot app spotlight (.resize stageFirst)

/-- Everything an act does: another layout or the sound, a call or an event that
asks nothing, rendered or not, or a question. -/
inductive Taken (app : App) : Act → App → Prop where
  | turned (act : Act) (layout : Layout)
      (folds : layout.composing = true →
        app.layout.composing = true ∨ app.live = false ∨ app.hook.state.phase = .idle)
      (spots : ∀ spotlight form, layout = .mobile spotlight form → Spot app spotlight act) :
      Taken app act (app.turned layout)
  | toggled : Taken app .toggleSound { app with soundEnabled := !app.soundEnabled }.render
  | driven (act : Act) (op : HookOp) (unasked : op.isAsk = false) :
      Taken app act (app.tell parse op).render
  | told (act : Act) (op : HookOp) (unasked : op.isAsk = false) (unstopped : op ≠ .stop) :
      Taken app act (app.tell parse op)
  | asked (message : AskMessage) (built : app.layout.form.validation = .ok message)
      (quiet : app.live = false) :
      Taken app .submit (app.handleAsk parse (trim app.layout.form.question)
        app.layout.form.rounds).render

theorem edit_composing (layout : Layout) (update : QuestionForm → QuestionForm) :
    (layout.edit update).composing = layout.composing := by
  cases layout with
  | stage => rfl
  | mobile => rfl

theorem taken_of_step {app after : App} {act : Act} (taken : step parse app act = some after) :
    Taken parse app act after := by
  have edited : ∀ (act : Act) (update : QuestionForm → QuestionForm),
      Taken parse app act (app.edited update) := by
    intro act update
    apply Taken.turned
    · intro composing
      rw [edit_composing] at composing
      exact .inl composing
    · intro spotlight form same
      cases layout : app.layout with
      | stage =>
          rw [layout] at same
          cases same
      | mobile earlier draft =>
          rw [layout] at same
          cases same
          exact .kept act draft layout
  have staged : ∀ (act : Act) (form : QuestionForm), app.live = false →
      Taken parse app act (app.turned (.stage true form)) := by
    intro act form quiet
    apply Taken.turned
    · exact fun _ => .inr (.inl quiet)
    · intro spotlight draft same
      cases same
  cases act with
  | input question =>
      simp only [step] at taken
      split at taken
      · cases taken
        exact edited _ _
      · cases taken
  | pickPreset preset =>
      simp only [step] at taken
      split at taken
      · cases taken
        exact edited _ _
      · cases taken
  | chooseRounds rounds =>
      simp only [step] at taken
      split at taken
      · cases taken
        exact edited _ _
      · cases taken
  | submit =>
      simp only [step] at taken
      split at taken
      · cases taken
      next message built =>
        split at taken
        next offered =>
          cases taken
          exact .asked message built offered.2
        · cases taken
  | stop =>
      simp only [step] at taken
      split at taken
      · cases taken
        exact .driven _ .stop rfl
      · cases taken
  | askAnother =>
      simp only [step] at taken
      split at taken
      · split at taken
        · cases taken
        next quiet =>
          cases taken
          exact staged _ _ (by simpa using quiet)
      · cases taken
  | edit =>
      simp only [step] at taken
      split at taken
      · split at taken
        · cases taken
        next offered =>
          cases taken
          exact staged _ _ (by simpa using (not_or.mp offered).1)
      · cases taken
  | setRate multiplier =>
      simp only [step] at taken
      split at taken
      · cases taken
        exact .driven _ (.setRate multiplier) rfl
      · cases taken
  | goToLive =>
      simp only [step] at taken
      split at taken
      · cases taken
        exact .driven _ .goToLive rfl
      · cases taken
  | dismiss =>
      simp only [step] at taken
      split at taken
      next spotlight form layout =>
        split at taken
        · cases taken
          apply Taken.turned
          · intro composing
            cases composing
          · intro other draft same
            cases same
            exact .dismissed rfl ⟨spotlight, form, layout, rfl⟩
        · cases taken
      · cases taken
  | toggleSound =>
      simp only [step] at taken
      split at taken
      · cases taken
        exact .toggled
      · cases taken
  | resize stageFirst =>
      simp only [step] at taken
      split at taken
      · cases taken
      · cases taken
        apply Taken.turned
        · intro composing
          unfold Layout.mount at composing
          split at composing
          · exact .inr (.inr (by simpa [Layout.composing] using composing))
          · cases composing
        · intro spotlight form same
          unfold Layout.mount at same
          split at same
          · cases same
          · cases same
            exact .mounted stageFirst rfl
  | fire =>
      cases taken
      exact .told _ .fire rfl (by rintro ⟨⟩)
  | socket client event =>
      cases taken
      exact .told _ (.socket client event) rfl (by rintro ⟨⟩)
  | render =>
      cases taken
      exact .turned _ app.layout .inl fun spotlight form same => .kept _ form same

end Steps

section Phases

variable (parse : Text → Except Text DebateEvent) {hook : Hook}

theorem reduce_begun (state : DebateState) (input : DebateInput) (begun : state.phase ≠ .idle) :
    (debateReducer state input).phase ≠ .idle := by
  cases input with
  | event event =>
      cases event with
      | token persona round delta =>
          simp only [debateReducer, reduceEvent]
          split <;> rintro ⟨⟩
      | personaDone persona round => exact begun
      | roundComplete round => exact begun
      | verdict verdict => rintro ⟨⟩
      | error error =>
          simp only [debateReducer, reduceEvent]
          split
          · rintro ⟨⟩
          · exact begun
  | status status =>
      cases status with
      | connecting => rintro ⟨⟩
      | closed =>
          simp only [debateReducer, reduceStatus]
          split
          · exact begun
          · rintro ⟨⟩
      | _ => exact begun
  | transport => exact begun
  | cancel =>
      simp only [debateReducer]
      split
      · exact begun
      · rintro ⟨⟩

theorem reduce_all_begun (inputs : List DebateInput) (state : DebateState)
    (begun : state.phase ≠ .idle) : (reduceAll state inputs).phase ≠ .idle := by
  induction inputs generalizing state with
  | nil => exact begun
  | cons input rest ih => exact ih _ (reduce_begun state input begun)

theorem resting_of_unlive {phase : DebatePhase} (resting : LIVE_PHASES phase = false) :
    phase = .idle ∨ TERMINAL phase = true := by
  cases phase with
  | idle => exact .inl rfl
  | connecting => cases resting
  | debating => cases resting
  | moderating => cases resting
  | done => exact .inr rfl
  | stopped => exact .inr rfl
  | error => exact .inr rfl

theorem unlive_of_terminal {phase : DebatePhase} (terminal : TERMINAL phase = true) :
    LIVE_PHASES phase = false := by
  cases phase with
  | done => rfl
  | stopped => rfl
  | error => rfl
  | _ => cases terminal

/-- Without a question no session comes to life, and only a stop changes the
phase then. -/
theorem still_step (kept : Kept hook) (op : HookOp) (unasked : op.isAsk = false)
    (unstopped : op ≠ .stop) (resting : LIVE_PHASES hook.state.phase = false) :
    (hookStep parse hook op).1.state.phase = hook.state.phase := by
  rcases resting_of_unlive resting with idle | terminal
  · have effect := hook_step_effect parse hook op unasked unstopped
    cases kept.situation with
    | quiet deaf unarmed blocked _ => rw [(deaf_effect deaf unarmed blocked effect).state]
    | session first arrived log played rested view gone =>
        have begun := reduce_all_begun log connectingState (by rintro ⟨⟩)
        rw [← view.phase] at begun
        exact absurd idle begun
  · exact (terminal_step parse kept terminal op unasked).phase

theorem unlive_step (kept : Kept hook) (op : HookOp) (unasked : op.isAsk = false)
    (resting : LIVE_PHASES hook.state.phase = false) :
    LIVE_PHASES (hookStep parse hook op).1.state.phase = false := by
  by_cases stopped : op = .stop
  · subst stopped
    rw [hookStep, (stop_state hook).2]
    exact unlive_of_terminal (cancel_terminal hook.state)
  · rw [still_step parse kept op unasked stopped resting]
    exact resting

end Phases

section Questions

theorem trim_trim (text : Text) : trim (trim text) = trim text := by
  rw [trim_eq, trim_eq, strip]
  have dark : (strip trimmable text).dropWhile trimmable = strip trimmable text := by
    rw [strip]
    by_cases empty : (text.dropWhile trimmable).rdropWhile trimmable = []
    · rw [empty]
      rfl
    · have begins := List.rdropWhile_prefix trimmable (text.dropWhile trimmable)
      rcases begins with ⟨tail, whole⟩
      cases front : (text.dropWhile trimmable).rdropWhile trimmable with
      | nil => exact absurd front empty
      | cons unit rest =>
          rw [front] at whole
          have first := List.dropWhile_idempotent (p := trimmable) (l := text)
          rw [← whole, List.cons_append] at first
          by_cases white : trimmable unit = true
          · rw [List.dropWhile_cons_of_pos white] at first
            have short := congrArg List.length first
            have long := (List.dropWhile_sublist (p := trimmable) (l := rest ++ tail)).length_le
            simp only [List.length_cons] at short
            omega
          · rw [List.dropWhile_cons_of_neg white]
  rw [dark, strip, List.rdropWhile_idempotent]

theorem build_ask_trim (question : Text) (rounds : Option JsNumber) :
    buildAsk (trim question) rounds = buildAsk question rounds := by
  simp only [buildAsk, trim_trim]

theorem built_parts {question : Text} {rounds : Option JsNumber} {message : AskMessage}
    (built : buildAsk question rounds = .ok message) : message = ⟨trim question, rounds⟩ := by
  unfold buildAsk at built
  simp only at built
  split at built
  · cases built
  · split at built
    · cases built
    · split at built
      · cases built
      · cases built
        rfl

theorem built_full {question : Text} {rounds : Option JsNumber} {message : AskMessage}
    (built : buildAsk question rounds = .ok message) : trim question ≠ [] := by
  intro blank
  simp [buildAsk, blank] at built

theorem presets_accepted : ∀ preset ∈ TOPIC_PRESETS, ∀ rounds ∈ ROUND_OPTIONS,
    buildAsk preset (some rounds) = .ok ⟨preset, some rounds⟩ := by
  decide +kernel

end Questions

section Runs

variable (parse : Text → Except Text DebateEvent) (reducedMotion : Bool)

theorem run_hook_snoc (hook : Hook) (ops : List HookOp) (op : HookOp) :
    (runHook parse hook (ops ++ [op])).1 = (hookStep parse (runHook parse hook ops).1 op).1 := by
  induction ops generalizing hook with
  | nil => rfl
  | cons first rest ih => exact ih _

/-- Every question of the sequence is one that `buildAsk` accepts, and comes
when no session is live. -/
def Proper : Hook → List HookOp → Prop
  | _, [] => True
  | hook, op :: rest =>
      op.accepted = true ∧ (op.isAsk = true → LIVE_PHASES hook.state.phase = false) ∧
        Proper (hookStep parse hook op).1 rest

theorem proper_snoc {hook : Hook} {ops : List HookOp} (proper : Proper parse hook ops)
    (op : HookOp) (accepted : op.accepted = true)
    (quiet : op.isAsk = true → LIVE_PHASES (runHook parse hook ops).1.state.phase = false) :
    Proper parse hook (ops ++ [op]) := by
  induction ops generalizing hook with
  | nil => exact ⟨accepted, quiet, trivial⟩
  | cons first rest ih => exact ⟨proper.1, proper.2.1, ih proper.2.2 quiet⟩

theorem proper_accepted {hook : Hook} {ops : List HookOp} (proper : Proper parse hook ops) :
    ∀ op ∈ ops, op.accepted = true := by
  induction ops generalizing hook with
  | nil => exact fun _ member => nomatch member
  | cons first rest ih =>
      intro op member
      rcases List.mem_cons.mp member with here | later
      · rw [here]
        exact proper.1
      · exact ih proper.2.2 op later

/-- What every act keeps of the page. -/
structure Sane (app : App) : Prop where
  refines : ∃ ops : List HookOp, Proper parse (createHook reducedMotion) ops ∧
    app.hook = (runHook parse (createHook reducedMotion) ops).1
  still : app.live = false → app.hook.state.phase = app.state.phase
  folded : app.layout.composing = true → app.live = false
  docket : ∀ current, app.hook.clients.length = current + 1 →
    (messages app.hook)[current]? = some (some ⟨app.question, some app.rounds⟩)
  blank : app.hook.clients = [] → app.question = []
  cued : app.previousPhase = app.state.phase
  watched : ∀ spotlight form, app.layout = .mobile spotlight form →
    spotlight.prevPhase = app.state.phase

variable {parse reducedMotion} {app after : App} {act : Act}

theorem Sane.kept (sane : Sane parse reducedMotion app) : Kept app.hook := by
  rcases sane.refines with ⟨ops, proper, same⟩
  rw [same]
  exact kept_run parse (kept_create reducedMotion) ops (proper_accepted parse proper)

theorem Sane.unlive (sane : Sane parse reducedMotion app) (quiet : app.live = false) :
    LIVE_PHASES app.hook.state.phase = false := by
  rw [sane.still quiet]
  exact quiet

theorem effect_composing (layout : Layout) (phase : DebatePhase) :
    (layout.effect phase).composing = layout.composing := by
  cases layout with
  | stage => rfl
  | mobile => rfl

theorem effect_watched (layout : Layout) (phase : DebatePhase) (spotlight : VerdictSpotlight)
    (form : QuestionForm) (same : layout.effect phase = .mobile spotlight form) :
    spotlight.prevPhase = phase := by
  cases layout with
  | stage => cases same
  | mobile =>
      cases same
      rfl

/-- What a call that asks nothing keeps. -/
structure Told (app : App) (hook : Hook) : Prop where
  refines : ∃ ops : List HookOp, Proper parse (createHook reducedMotion) ops ∧
    hook = (runHook parse (createHook reducedMotion) ops).1
  docket : ∀ current, hook.clients.length = current + 1 →
    (messages hook)[current]? = some (some ⟨app.question, some app.rounds⟩)
  blank : hook.clients = [] → app.question = []

theorem sane_told (sane : Sane parse reducedMotion app) (op : HookOp) (unasked : op.isAsk = false) :
    @Told parse reducedMotion app (app.tell parse op).hook := by
  have same : messages (app.tell parse op).hook = messages app.hook :=
    step_messages parse app.hook op unasked
  have length : (app.tell parse op).hook.clients.length = app.hook.clients.length := by
    rw [← length_messages, ← length_messages, same]
  constructor
  · rcases sane.refines with ⟨ops, proper, hook⟩
    refine ⟨ops ++ [op], ?_, ?_⟩
    · apply proper_snoc parse proper op (accepted_of_unasked op unasked)
      intro asks
      rw [unasked] at asks
      cases asks
    · rw [run_hook_snoc, ← hook]
      rfl
  · intro current last
    rw [same]
    exact sane.docket current (length.symm.trans last)
  · intro nobody
    apply sane.blank
    apply List.length_eq_zero_iff.mp
    rw [← length, nobody]
    rfl

theorem sane_asked (sane : Sane parse reducedMotion app) (message : AskMessage)
    (built : app.layout.form.validation = .ok message) (quiet : app.live = false) :
    Sane parse reducedMotion (app.handleAsk parse (trim app.layout.form.question)
      app.layout.form.rounds).render := by
  have asks : buildAsk (trim app.layout.form.question) (some app.layout.form.rounds) =
      .ok message := (build_ask_trim _ _).trans built
  have parts := built_parts asks
  rw [trim_trim] at parts
  have listed := ask_messages parse app.hook _ _ message asks
  have length := congrArg List.length listed
  rw [length_messages, List.length_append, List.length_singleton] at length
  refine ⟨?_, fun _ => rfl, ?_, ?_, ?_, rfl, effect_watched _ _⟩
  · rcases sane.refines with ⟨ops, proper, same⟩
    refine ⟨ops ++ [.ask (trim app.layout.form.question) (some app.layout.form.rounds)], ?_, ?_⟩
    · apply proper_snoc parse proper
      · simp [HookOp.accepted, asks, Except.toOption]
      · intro _
        rw [← same]
        exact sane.unlive quiet
    · rw [run_hook_snoc, ← same]
      rfl
  · intro composing
    exfalso
    change (app.layout.convene.effect _).composing = true at composing
    rw [effect_composing] at composing
    cases layout : app.layout with
    | stage =>
        rw [layout] at composing
        cases composing
    | mobile =>
        rw [layout] at composing
        cases composing
  · intro current last
    change (messages (hookStep parse app.hook _).1)[current]? = _
    change (hookStep parse app.hook _).1.clients.length = current + 1 at last
    have here : (messages app.hook).length = current := by omega
    rw [listed, parts, ← here, List.getElem?_concat_length]
    rfl
  · intro nobody
    change (hookStep parse app.hook _).1.clients = [] at nobody
    rw [nobody] at length
    simp at length

theorem sane_step (sane : Sane parse reducedMotion app)
    (taken : step parse app act = some after) : Sane parse reducedMotion after := by
  cases taken_of_step parse taken with
  | turned _ layout folds =>
      refine ⟨sane.refines, fun _ => rfl, ?_, sane.docket, sane.blank, rfl, effect_watched _ _⟩
      intro composing
      change (layout.effect _).composing = true at composing
      rw [effect_composing] at composing
      rcases folds composing with open_ | quiet | idle
      · exact sane.unlive (sane.folded open_)
      · exact sane.unlive quiet
      · change LIVE_PHASES app.hook.state.phase = false
        rw [idle]
        rfl
  | toggled =>
      refine ⟨sane.refines, fun _ => rfl, ?_, sane.docket, sane.blank, rfl, effect_watched _ _⟩
      intro composing
      change (app.layout.effect _).composing = true at composing
      rw [effect_composing] at composing
      exact sane.unlive (sane.folded composing)
  | driven _ op unasked =>
      have told := sane_told sane op unasked
      refine ⟨told.refines, fun _ => rfl, ?_, told.docket, told.blank, rfl, effect_watched _ _⟩
      intro composing
      change (app.layout.effect _).composing = true at composing
      rw [effect_composing] at composing
      exact unlive_step parse sane.kept op unasked (sane.unlive (sane.folded composing))
  | told _ op unasked unstopped =>
      have told := sane_told sane op unasked
      refine ⟨told.refines, ?_, sane.folded, told.docket, told.blank, sane.cued, sane.watched⟩
      intro quiet
      exact (still_step parse sane.kept op unasked unstopped (sane.unlive quiet)).trans
        (sane.still quiet)
  | asked message built quiet => exact sane_asked sane message built quiet

theorem sane_mount (stageFirst soundEnabled : Bool) :
    Sane parse reducedMotion (.mount reducedMotion stageFirst soundEnabled) := by
  refine ⟨⟨[], trivial, rfl⟩, fun _ => rfl, fun _ => rfl, ?_, fun _ => rfl, rfl, ?_⟩
  · intro current last
    cases last
  · intro spotlight form same
    cases stageFirst with
    | true => cases same
    | false =>
        cases same
        rfl

theorem sane_reachable {stageFirst soundEnabled : Bool}
    (reached : Reaches (step parse) always (.mount reducedMotion stageFirst soundEnabled) app) :
    Sane parse reducedMotion app := by
  refine reached.invariant (Sane parse reducedMotion) (sane_mount stageFirst soundEnabled) ?_
  intro before act after earlier _ taken sane
  exact sane_step sane taken

end Runs

/-- Acts of the user; the others are the browser's and the network's. -/
def Act.byUser : Act → Bool
  | .resize _ | .fire | .socket _ _ | .render => false
  | _ => true

section Results

variable {parse : Text → Except Text DebateEvent} {reducedMotion : Bool} {app after : App}

/-- Whatever the user does, the hook is asked nothing it would reject and
nothing while a session is live; the form is never open over a live session,
and the docket and the round readout name the question on the wire. -/
theorem page_asks_properly {stageFirst soundEnabled : Bool}
    (reached : Reaches (step parse) always (.mount reducedMotion stageFirst soundEnabled) app) :
    (∃ ops : List HookOp, Proper parse (createHook reducedMotion) ops ∧
      app.hook = (runHook parse (createHook reducedMotion) ops).1) ∧
    (LIVE_PHASES app.hook.state.phase = true → app.live = true) ∧
    (app.layout.composing = true → app.live = false) ∧
    (∀ current, app.hook.clients.length = current + 1 →
      (messages app.hook)[current]? = some (some ⟨app.question, some app.rounds⟩)) ∧
    (app.hook.clients = [] → app.question = []) := by
  have sane := sane_reachable reached
  refine ⟨sane.refines, ?_, sane.folded, sane.docket, sane.blank⟩
  intro lives
  by_contra quiet
  rw [sane.unlive (by simpa using quiet)] at lives
  cases lives

/-- Every frame is read as the verdict. -/
def ruling : Text → Except Text DebateEvent := fun _ => .ok (.verdict (units "Yes"))

/-- A page for small screens on which a question has been typed. -/
def drafted : App :=
  (App.mount true false false).edited fun form => { form with question := units "Why?" }

theorem drafted_reached : Reaches (step ruling) always (.mount true false false) drafted :=
  .next .refl trivial (show step ruling _ (.input (units "Why?")) = _ from rfl)

/-- The page after the question. -/
def convened : App := (drafted.handleAsk ruling (units "Why?") (number 2)).render

theorem drafted_submit : step ruling drafted .submit = some convened := by
  have valid : drafted.layout.form.validation = .ok ⟨units "Why?", some (number 2)⟩ := by decide
  have trimmed : trim drafted.layout.form.question = units "Why?" := by decide
  have offered : drafted.formOpen = true ∧ drafted.live = false := by decide
  simp only [step, valid, trimmed, offered, and_self, if_true]
  rfl

theorem page_asks_properly_convened :
    convened.live = true ∧
      (messages convened.hook)[0]? = some (some ⟨units "Why?", some (number 2)⟩) := by
  have proper := page_asks_properly (.next drafted_reached trivial drafted_submit)
  exact ⟨proper.2.1 rfl, proper.2.2.2.1 0 rfl⟩

/-- A few acts of the user that the page offers one after another. -/
structure Leads (parse : Text → Except Text DebateEvent) (app : App) (acts : List Act)
    (later : App) : Prop where
  performed : perform (step parse) always app acts = some later
  byUser : ∀ act ∈ acts, act.byUser = true

theorem Leads.refl (app : App) : Leads parse app [] app :=
  ⟨rfl, fun _ member => nomatch member⟩

theorem Leads.act {act : Act} (taken : step parse app act = some after)
    (byUser : act.byUser = true) : Leads parse app [act] after := by
  constructor
  · have met : always app act := trivial
    rw [perform, if_pos met, taken]
    rfl
  · intro other member
    rw [List.mem_singleton.mp member]
    exact byUser

theorem Leads.trans {middle : App} {first second : List Act} (one : Leads parse app first middle)
    (other : Leads parse middle second after) : Leads parse app (first ++ second) after := by
  constructor
  · exact perform_join one.performed other.performed
  · intro act member
    rcases List.mem_append.mp member with here | there
    · exact one.byUser act here
    · exact other.byUser act there

theorem stop_quiet (app : App) : (app.tell parse .stop).render.live = false := by
  change LIVE_PHASES (stop app.hook).1.state.phase = false
  rw [(stop_state app.hook).2]
  exact unlive_of_terminal (cancel_terminal app.hook.state)

theorem comes_to_rest (sane : Sane parse reducedMotion app) :
    ∃ acts later, acts.length ≤ 1 ∧ Leads parse app acts later ∧
      messages later.hook = messages app.hook ∧
      Sane parse reducedMotion later ∧ later.live = false := by
  by_cases lives : app.live = true
  · have taken : step parse app .stop = some (app.tell parse .stop).render := by
      simp only [step, if_pos lives]
    have same : messages (app.tell parse .stop).render.hook = messages app.hook :=
      step_messages parse app.hook .stop rfl
    exact ⟨[.stop], _, Nat.le_refl 1, .act taken rfl, same, sane_step sane taken, stop_quiet app⟩
  · exact ⟨[], app, Nat.zero_le 1, .refl app, rfl, sane, by simpa using lives⟩

theorem turned_quiet (sane : Sane parse reducedMotion app) (quiet : app.live = false)
    (layout : Layout) : (app.turned layout).state.phase = app.state.phase :=
  sane.still quiet

theorem effect_quiet (sane : Sane parse reducedMotion app) (quiet : app.live = false)
    (spotlight : VerdictSpotlight) (same : spotlight.prevPhase = app.state.phase) :
    (spotlight.effect app.hook.state.phase).shown = spotlight.shown := by
  simp [VerdictSpotlight.effect, same, sane.still quiet]

theorem opens_form (sane : Sane parse reducedMotion app) (quiet : app.live = false) :
    ∃ acts later, acts.length ≤ 1 ∧ Leads parse app acts later ∧ later.hook = app.hook ∧
      Sane parse reducedMotion later ∧ later.live = false ∧ later.formOpen = true := by
  have turned : ∀ layout, (app.turned layout).live = false := by
    intro layout
    rw [App.live, turned_quiet sane quiet]
    exact quiet
  cases layout : app.layout with
  | stage composing form =>
      cases composing with
      | true =>
          have opened : app.formOpen = true := by rw [App.formOpen, layout]
          exact ⟨[], app, Nat.zero_le 1, .refl app, rfl, sane, quiet, opened⟩
      | false =>
          have taken : step parse app .askAnother = some (app.turned (.stage true form)) := by
            simp [step, layout, quiet]
          exact ⟨[.askAnother], _, Nat.le_refl 1, .act taken rfl, rfl, sane_step sane taken,
            turned _, rfl⟩
  | mobile spotlight form =>
      by_cases covered : app.showVerdict = true
      · have taken : step parse app .dismiss =
            some (app.turned (.mobile spotlight.dismiss form)) := by
          simp [step, layout, covered]
        refine ⟨[.dismiss], _, Nat.le_refl 1, .act taken rfl, rfl, sane_step sane taken,
          turned _, ?_⟩
        have shut := effect_quiet sane quiet spotlight.dismiss (sane.watched spotlight form layout)
        change (!((spotlight.dismiss.effect app.hook.state.phase).shown &&
          app.hook.state.phase == .done)) = true
        rw [shut]
        rfl
      · have opened : app.formOpen = true := by
          rw [App.formOpen, layout]
          simpa using covered
        exact ⟨[], app, Nat.zero_le 1, .refl app, rfl, sane, quiet, opened⟩

theorem edited_open (sane : Sane parse reducedMotion app) (quiet : app.live = false)
    (opened : app.formOpen = true) (update : QuestionForm → QuestionForm) :
    (app.edited update).formOpen = true ∧ (app.edited update).live = false ∧
      (app.edited update).layout.form = update app.layout.form := by
  have phase := turned_quiet sane quiet (app.layout.edit update)
  refine ⟨?_, ?_, ?_⟩
  · cases layout : app.layout with
    | stage composing form =>
        rw [App.formOpen, layout] at opened
        rw [App.edited, layout]
        exact opened
    | mobile spotlight form =>
        rw [App.formOpen, layout, App.showVerdict, layout] at opened
        have shut := effect_quiet sane quiet spotlight (sane.watched spotlight form layout)
        rw [App.edited, layout]
        change (!((spotlight.effect app.hook.state.phase).shown &&
          app.hook.state.phase == .done)) = true
        rw [shut, sane.still quiet]
        exact opened
  · rw [App.live, App.edited, phase]
    exact quiet
  · rw [App.edited]
    cases app.layout with
    | stage => rfl
    | mobile => rfl

theorem drafts (sane : Sane parse reducedMotion app) (question : Text) (rounds : JsNumber)
    (listed : rounds ∈ ROUND_OPTIONS) :
    ∃ acts later, acts.length ≤ 4 ∧ Leads parse app acts later ∧
      messages later.hook = messages app.hook ∧ later.layout.form = ⟨question, rounds⟩ ∧
      later.formOpen = true ∧ later.live = false := by
  rcases comes_to_rest sane with ⟨first, calm, few, resting, kept, sane, quiet⟩
  rcases opens_form sane quiet with
    ⟨second, open_, short, opening, same, sane, quiet, opened⟩
  -- the question is typed
  have types : step parse open_ (.input question) =
      some (open_.edited fun form => { form with question := question }) := by
    simp only [step, if_pos opened]
  have typed := edited_open sane quiet opened fun form => { form with question := question }
  have saneTyped := sane_step sane types
  have unsent : (open_.edited fun form => { form with question := question }).hook = open_.hook :=
    rfl
  generalize (open_.edited fun form => { form with question := question }) = one
    at types typed saneTyped unsent
  -- and the rounds are chosen
  have chooses : step parse one (.chooseRounds rounds) =
      some (one.edited fun form => { form with rounds := rounds }) := by
    simp only [step, typed.1, typed.2.1, listed, and_self, if_true]
  have chosen := edited_open saneTyped typed.2.1 typed.1 fun form => { form with rounds := rounds }
  refine ⟨first ++ (second ++ ([.input question] ++ [.chooseRounds rounds])), _, ?_,
    resting.trans (opening.trans ((Leads.act types rfl).trans (Leads.act chooses rfl))), ?_, ?_,
    chosen.1, chosen.2.1⟩
  · simp only [List.length_append, List.length_singleton]
    omega
  · change messages one.hook = messages app.hook
    rw [unsent, same, kept]
  · rw [chosen.2.2, typed.2.2]

theorem submits {question : Text} {rounds : JsNumber} {message : AskMessage}
    (form : app.layout.form = ⟨question, rounds⟩) (opened : app.formOpen = true)
    (quiet : app.live = false) (built : buildAsk question (some rounds) = .ok message) :
    step parse app .submit = some (app.handleAsk parse (trim question) rounds).render := by
  have valid : QuestionForm.validation ⟨question, rounds⟩ = .ok message := built
  simp only [step, form, valid, opened, quiet, and_self, if_true]

theorem docket_of_stage (stage : app.layout.stageFirst = true) (asked : trim app.question ≠ []) :
    app.docket = some ⟨app.question, app.rounds⟩ := by
  cases layout : app.layout with
  | stage => rw [App.docket, layout]; exact if_neg asked
  | mobile =>
      rw [layout] at stage
      cases stage

theorem opened_sends {hook : Hook} {client : Nat} {message : AskMessage}
    (fresh : hook.clients[client]? = some (createWsClient.connect message)) :
    ((hookStep parse hook (.socket client .opened)).1.clients[client]?).map Client.sent =
      some [message] := by
  have sends : (createWsClient.connect message).send.sent = [message] := rfl
  have attached : (createWsClient.connect message).attached = true := rfl
  simp [hookStep, onSocket, fresh, attached, Hook.absorb, List.getElem?_modify_eq, sends]

/-- Whatever has happened, at most five acts the page offers hand any question
with any of the listed rounds to a new client, which sends it when its socket
opens; the page connects, and the docket of the stage names the question. -/
theorem never_stranded {stageFirst soundEnabled : Bool}
    (reached : Reaches (step parse) always (.mount reducedMotion stageFirst soundEnabled) app)
    (question : Text) (rounds : JsNumber) (listed : rounds ∈ ROUND_OPTIONS) (message : AskMessage)
    (built : buildAsk question (some rounds) = .ok message) :
    ∃ acts later, acts.length ≤ 5 ∧ Leads parse app acts later ∧
      later.state.phase = .connecting ∧ later.question = message.question ∧
      later.rounds = rounds ∧
      (later.layout.stageFirst = true → later.docket = some ⟨message.question, rounds⟩) ∧
      later.hook.clients[app.hook.clients.length]? = some (createWsClient.connect message) ∧
      ∀ opened, step parse later (.socket app.hook.clients.length .opened) = some opened →
        (opened.hook.clients[app.hook.clients.length]?).map Client.sent = some [message] := by
  rcases drafts (sane_reachable reached) question rounds listed with
    ⟨acts, draft, few, leads, earlier, form, opened, quiet⟩
  have asks : buildAsk (trim question) (some rounds) = .ok message :=
    (build_ask_trim _ _).trans built
  have parts : message.question = trim question := by rw [built_parts built]
  have accepted := ask_accepted draft.hook (trim question) (some rounds) message asks
  have count : draft.hook.disposeClient.clients.length = app.hook.clients.length := by
    rw [← length_messages, ← length_messages, dispose_messages, earlier]
  have fresh : (draft.handleAsk parse (trim question) rounds).render.hook.clients[
      app.hook.clients.length]? = some (createWsClient.connect message) := by
    change (ask draft.hook (trim question) (some rounds)).1.clients[_]? = _
    rw [accepted, ← count, List.getElem?_concat_length]
  refine ⟨acts ++ [.submit], _, ?_,
    leads.trans (Leads.act (submits form opened quiet built) rfl), ?_, parts.symm, rfl, ?_, fresh,
    ?_⟩
  · rw [List.length_append, List.length_singleton]
    omega
  · change (ask draft.hook (trim question) (some rounds)).1.state.phase = _
    rw [accepted]
    rfl
  · intro stage
    rw [parts]
    refine docket_of_stage stage ?_
    change trim (trim question) ≠ []
    rw [trim_trim]
    exact built_full built
  · intro later opens
    cases opens
    exact opened_sends fresh

/-- Over a live session the page still takes a question in five acts. -/
theorem never_stranded_convened :
    ∃ acts later, acts.length ≤ 5 ∧ Leads ruling convened acts later ∧
      later.hook.clients[1]? =
        some (createWsClient.connect ⟨units "Why not?", some (number 4)⟩) := by
  have built : buildAsk (units "Why not?") (some (number 4)) =
      .ok ⟨units "Why not?", some (number 4)⟩ := by decide
  rcases never_stranded (.next drafted_reached trivial drafted_submit)
    (units "Why not?") (number 4) (by decide) _ built with
    ⟨acts, later, few, leads, _, _, _, _, fresh, _⟩
  exact ⟨acts, later, few, leads, fresh⟩

/-- The page before the next question. -/
def unasked : App → Act → Prop := fun _ act => act ≠ .submit

/-- Nobody dismisses the verdict, and no layout mounts while the moderator
speaks or after. -/
def undisturbed : App → Act → Prop := fun app act =>
  act ≠ .submit ∧ act ≠ .dismiss ∧
    ∀ stageFirst, act = .resize stageFirst → MODERATOR_PHASES app.hook.state.phase = false

/-- Nobody turns the sound on or off either. -/
def untoggled : App → Act → Prop := fun _ act => act ≠ .submit ∧ act ≠ .toggleSound

/-- What an act other than a question does to the phase that was rendered, and
to the cues. -/
inductive Rendered (app after : App) : Prop where
  | same (phase : after.state.phase = app.state.phase) (cues : after.cues = app.cues)
      (played : after.played = app.played) (layout : after.layout = app.layout)
  | fresh (phase : after.state.phase = after.hook.state.phase)
      (cues : after.cues = app.cues ++ app.sounds after.state)
      (played : after.played =
        app.played ++ if after.soundEnabled then app.sounds after.state else [])

theorem rendered_step {act : Act} (taken : step parse app act = some after)
    (other : act ≠ .submit) : Rendered app after := by
  cases taken_of_step parse taken with
  | turned => exact .fresh rfl rfl rfl
  | toggled => exact .fresh rfl rfl rfl
  | driven => exact .fresh rfl rfl rfl
  | told => exact .same rfl rfl rfl rfl
  | asked => exact absurd rfl other

theorem ended_step (sane : Sane parse reducedMotion app) {act : Act}
    (taken : step parse app act = some after) (other : act ≠ .submit)
    (terminal : TERMINAL app.hook.state.phase = true) :
    after.hook.state.phase = app.hook.state.phase := by
  cases taken_of_step parse taken with
  | turned => rfl
  | toggled => rfl
  | driven _ op unasked => exact (terminal_step parse sane.kept terminal op unasked).phase
  | told _ op unasked => exact (terminal_step parse sane.kept terminal op unasked).phase
  | asked => exact absurd rfl other

theorem count_sounds (app : App) (state : DebateState) :
    (app.sounds state).count .verdict =
      if state.phase = .done ∧ app.previousPhase ≠ .done then 1 else 0 := by
  unfold App.sounds
  rw [List.count_append]
  split <;> split <;> rfl

theorem sounds_step (sane : Sane parse reducedMotion app) {act : Act}
    (taken : step parse app act = some after) (other : act ≠ .submit)
    (phase : after.state.phase = after.hook.state.phase) :
    (app.sounds after.state).count .verdict + (if app.state.phase = .done then 1 else 0) =
      if after.state.phase = .done then 1 else 0 := by
  rw [count_sounds, sane.cued]
  by_cases told : app.state.phase = .done
  · have quiet : app.live = false := by
      rw [App.live, told]
      rfl
    have ended : app.hook.state.phase = .done := (sane.still quiet).trans told
    have stays := ended_step sane taken other (by rw [ended]; rfl)
    have again : after.state.phase = .done := phase.trans (stays.trans ended)
    simp [told, again]
  · by_cases lands : after.state.phase = .done
    · simp [told, lands]
    · simp [told, lands]

theorem chimes_step (sane : Sane parse reducedMotion app) {act : Act}
    (taken : step parse app act = some after) (other : act ≠ .submit) :
    after.cues.count .verdict + (if app.state.phase = .done then 1 else 0) =
      app.cues.count .verdict + if after.state.phase = .done then 1 else 0 := by
  cases rendered_step taken other with
  | same phase cues => rw [phase, cues]
  | fresh phase cues =>
      have sounds := sounds_step sane taken other phase
      rw [cues, List.count_append]
      omega

theorem played_step (sane : Sane parse reducedMotion app) {act : Act}
    (taken : step parse app act = some after) (other : act ≠ .submit) :
    after.played.count .verdict +
        (if app.state.phase = .done ∧ after.soundEnabled = true then 1 else 0) =
      app.played.count .verdict +
        if after.state.phase = .done ∧ after.soundEnabled = true then 1 else 0 := by
  cases rendered_step taken other with
  | same phase _ played => rw [phase, played]
  | fresh phase _ played =>
      have sounds := sounds_step sane taken other phase
      rw [played, List.count_append]
      cases after.soundEnabled with
      | false => simp
      | true =>
          simp only [and_true, if_true]
          omega

theorem sound_kept {act : Act} (taken : step parse app act = some after)
    (meets : untoggled app act) : after.soundEnabled = app.soundEnabled := by
  cases taken_of_step parse taken with
  | toggled => exact absurd rfl meets.2
  | _ => rfl

theorem asked_page (taken : step parse app .submit = some after) :
    after.state.phase = .connecting := by
  have valid : ∃ message, buildAsk app.layout.form.question (some app.layout.form.rounds) =
      .ok message ∧ after = (app.handleAsk parse (trim app.layout.form.question)
        app.layout.form.rounds).render := by
    simp only [step] at taken
    split at taken
    · cases taken
    next message built =>
      split at taken
      · cases taken
        exact ⟨message, built, rfl⟩
      · cases taken
  rcases valid with ⟨message, built, rfl⟩
  change (hookStep parse app.hook (.ask _ _)).1.state.phase = _
  rw [hookStep, ask_accepted _ _ _ _ ((build_ask_trim _ _).trans built)]
  rfl

/-- The spotlight follows the moderator where nothing disturbs it. -/
def Lit (app : App) : Prop :=
  ∀ spotlight form, app.layout = .mobile spotlight form →
    MODERATOR_PHASES app.state.phase = true → spotlight.shown = true

theorem lit_effect (layout : Layout) (before phase : DebatePhase)
    (watched : ∀ spotlight form, layout = .mobile spotlight form → spotlight.prevPhase = before)
    (lit : ∀ spotlight form, layout = .mobile spotlight form →
      MODERATOR_PHASES before = true → spotlight.shown = true)
    (spotlight : VerdictSpotlight) (form : QuestionForm)
    (same : layout.effect phase = .mobile spotlight form)
    (speaks : MODERATOR_PHASES phase = true) : spotlight.shown = true := by
  cases layout with
  | stage => cases same
  | mobile earlier draft =>
      have prev := watched earlier draft rfl
      have shown := lit earlier draft rfl
      cases same
      by_cases spoke : MODERATOR_PHASES before = true
      · simp [VerdictSpotlight.effect, shown spoke]
      · simp [VerdictSpotlight.effect, prev, spoke, speaks]

theorem lit_step (sane : Sane parse reducedMotion app) {act : Act}
    (taken : step parse app act = some after) (meets : undisturbed app act) (lit : Lit app) :
    Lit after := by
  rcases meets with ⟨other, kept, mounts⟩
  cases taken_of_step parse taken with
  | turned _ layout folds spots =>
      intro spotlight form same speaks
      change layout.effect app.hook.state.phase = .mobile spotlight form at same
      change MODERATOR_PHASES app.hook.state.phase = true at speaks
      refine lit_effect layout app.state.phase _ ?_ ?_ spotlight form same speaks
      all_goals
        intro earlier draft here
        cases spots earlier draft here with
        | kept _ form same =>
            first
              | exact sane.watched earlier form same
              | exact lit earlier form same
        | dismissed => exact absurd rfl kept
        | mounted stageFirst =>
            rw [mounts stageFirst rfl] at speaks
            cases speaks
  | toggled => exact lit_effect app.layout app.state.phase _ sane.watched lit
  | driven _ op unasked =>
      exact lit_effect app.layout app.state.phase _ sane.watched lit
  | told => exact lit
  | asked => exact absurd rfl other

/-- The verdict is on the page and its panel is shut. -/
structure Shut (app : App) : Prop where
  ended : app.hook.state.phase = .done
  told : app.state.phase = .done
  dark : ∀ spotlight form, app.layout = .mobile spotlight form → spotlight.shown = false

theorem shut_verdict (shut : Shut app) : app.showVerdict = false := by
  cases layout : app.layout with
  | stage => rw [App.showVerdict, layout]
  | mobile spotlight form =>
      have dark := shut.dark spotlight form layout
      rw [App.showVerdict, layout]
      simp [dark]

theorem dark_effect (layout : Layout)
    (dark : ∀ spotlight form, layout = .mobile spotlight form →
      spotlight.prevPhase = .done ∧ spotlight.shown = false)
    (spotlight : VerdictSpotlight) (form : QuestionForm)
    (same : layout.effect .done = .mobile spotlight form) : spotlight.shown = false := by
  cases layout with
  | stage => cases same
  | mobile earlier draft =>
      rcases dark earlier draft rfl with ⟨prev, shut⟩
      cases same
      simp [VerdictSpotlight.effect, prev, shut, MODERATOR_PHASES]

theorem turned_shut (ended : app.hook.state.phase = .done) (layout : Layout)
    (dark : ∀ spotlight form, layout = .mobile spotlight form →
      spotlight.prevPhase = .done ∧ spotlight.shown = false) : Shut (app.turned layout) := by
  refine ⟨ended, ended, ?_⟩
  change ∀ spotlight form, layout.effect app.hook.state.phase = .mobile spotlight form → _
  rw [ended]
  exact dark_effect layout dark

theorem shut_step (sane : Sane parse reducedMotion app) {act : Act}
    (taken : step parse app act = some after) (other : act ≠ .submit) (shut : Shut app) :
    Shut after := by
  have stays := (ended_step sane taken other (by rw [shut.ended]; rfl)).trans shut.ended
  have here : ∀ spotlight form, app.layout = .mobile spotlight form →
      spotlight.prevPhase = .done ∧ spotlight.shown = false := by
    intro spotlight form same
    exact ⟨(sane.watched spotlight form same).trans shut.told, shut.dark spotlight form same⟩
  cases taken_of_step parse taken with
  | turned _ layout folds spots =>
      apply turned_shut shut.ended
      intro spotlight form same
      cases spots spotlight form same with
      | kept _ draft same => exact here spotlight draft same
      | dismissed dark watched =>
          rcases watched with ⟨earlier, draft, layout, prev⟩
          exact ⟨prev.trans (here earlier draft layout).1, dark⟩
      | mounted stageFirst fresh =>
          rw [fresh]
          exact ⟨shut.ended, rfl⟩
  | toggled =>
      exact @turned_shut { app with soundEnabled := !app.soundEnabled } shut.ended app.layout here
  | driven _ op unasked => exact @turned_shut (app.tell parse op) stays app.layout here
  | told => exact ⟨stays, shut.told, shut.dark⟩
  | asked => exact absurd rfl other

theorem dismiss_shuts (sane : Sane parse reducedMotion app)
    (taken : step parse app .dismiss = some after) : Shut after := by
  simp only [step] at taken
  split at taken
  next spotlight form layout =>
    split at taken
    next shown =>
      cases taken
      have told : app.state.phase = .done := by
        rw [App.showVerdict, layout] at shown
        simpa using (Bool.and_eq_true_iff.mp shown).2
      have quiet : app.live = false := by
        rw [App.live, told]
        rfl
      apply turned_shut ((sane.still quiet).trans told)
      intro other draft same
      cases same
      exact ⟨(sane.watched spotlight form layout).trans told, rfl⟩
    · cases taken
  · cases taken

theorem shows_verdict (lit : Lit app) (mobile : app.layout.stageFirst = false) :
    app.showVerdict = true ↔ app.state.phase = .done := by
  cases layout : app.layout with
  | stage =>
      rw [layout] at mobile
      cases mobile
  | mobile spotlight form =>
      rw [App.showVerdict, layout]
      constructor
      · intro shown
        simpa using (Bool.and_eq_true_iff.mp shown).2
      · intro told
        have shown := lit spotlight form layout (by rw [told]; rfl)
        simp [shown, told]

/-- The page calls for the chime once in a session, with the verdict, and it is
played if the sound is on. On the small layout the panel is there exactly while
the verdict is, unless it is dismissed or the layout mounts too late; and what is
dismissed does not come back. -/
theorem verdict_told_once {stageFirst soundEnabled : Bool} {started : App}
    (reached : Reaches (step parse) always (.mount reducedMotion stageFirst soundEnabled) app)
    (taken : step parse app .submit = some started) :
    (∀ later, Reaches (step parse) unasked started later →
      later.cues.count .verdict =
        started.cues.count .verdict + if later.state.phase = .done then 1 else 0) ∧
    (∀ later, Reaches (step parse) untoggled started later →
      later.played.count .verdict = started.played.count .verdict +
        if later.state.phase = .done ∧ started.soundEnabled = true then 1 else 0) ∧
    (∀ later, Reaches (step parse) undisturbed started later →
      later.layout.stageFirst = false →
        (later.showVerdict = true ↔ later.state.phase = .done)) ∧
    ∀ told dismissed later, Reaches (step parse) unasked started told →
      step parse told .dismiss = some dismissed →
      Reaches (step parse) unasked dismissed later → later.showVerdict = false := by
  have sane : ∀ {allowed : App → Act → Prop} {before later : App},
      Sane parse reducedMotion before → Reaches (step parse) allowed before later →
      Sane parse reducedMotion later := by
    intro allowed before later sane path
    exact path.invariant _ sane fun _ _ _ _ _ taken sane => sane_step sane taken
  have begun := sane_step (sane_reachable reached) taken
  have fresh := asked_page taken
  refine ⟨?_, ?_, ?_, ?_⟩
  · intro later path
    refine path.invariant (fun page => page.cues.count .verdict =
      started.cues.count .verdict + if page.state.phase = .done then 1 else 0) ?_ ?_
    · rw [fresh]
      rfl
    · intro before act after earlier meets taken counted
      have chimes := chimes_step (sane begun earlier) taken meets
      omega
  · intro later path
    have kept : later.soundEnabled = started.soundEnabled ∧
        later.played.count .verdict = started.played.count .verdict +
          if later.state.phase = .done ∧ started.soundEnabled = true then 1 else 0 := by
      refine path.invariant (fun page => page.soundEnabled = started.soundEnabled ∧
        page.played.count .verdict = started.played.count .verdict +
          if page.state.phase = .done ∧ started.soundEnabled = true then 1 else 0) ?_ ?_
      · rw [fresh]
        exact ⟨rfl, by simp⟩
      · intro before act after earlier meets taken counted
        have still := (sound_kept taken meets).trans counted.1
        have plays := played_step (sane begun earlier) taken meets.1
        rw [still] at plays
        exact ⟨still, by omega⟩
    exact kept.2
  · intro later path mobile
    apply shows_verdict _ mobile
    refine path.invariant Lit ?_ ?_
    · intro spotlight form same speaks
      rw [fresh] at speaks
      cases speaks
    · intro before act after earlier meets taken lit
      exact lit_step (sane begun earlier) taken meets lit
  · intro told dismissed later path dismisses on
    have known := sane begun path
    apply shut_verdict
    refine on.invariant Shut (dismiss_shuts known dismisses) ?_
    intro before act after earlier meets taken shut
    exact shut_step (sane (sane_step known dismisses) earlier) taken meets shut

theorem verdict_told_once_ruling :
    ∃ told dismissed : App, told.cues = [.verdict] ∧ told.played.count .verdict = 0 ∧
      told.showVerdict = true ∧ step ruling told .dismiss = some dismissed ∧
      dismissed.showVerdict = false := by
  have once := verdict_told_once drafted_reached drafted_submit
  generalize arrives : convened.tell ruling (.socket 0 (.message (.text []))) = arrived
  have sent : step ruling convened (.socket 0 (.message (.text []))) = some arrived := by
    rw [← arrives]
    rfl
  have rendered : step ruling arrived .render = some arrived.render := rfl
  have path : Reaches (step ruling) untoggled convened arrived.render := by
    refine .next (.next .refl ?_ sent) ?_ rendered
    · exact ⟨(by rintro ⟨⟩), (by rintro ⟨⟩)⟩
    · exact ⟨(by rintro ⟨⟩), (by rintro ⟨⟩)⟩
  have told : (arrived.render).cues = [.verdict] ∧ arrived.render.showVerdict = true ∧
      (step ruling arrived.render .dismiss).isSome = true := by
    rw [← arrives]
    decide +kernel
  rcases told with ⟨cues, shown, offered⟩
  rcases Option.isSome_iff_exists.mp offered with ⟨dismissed, dismisses⟩
  -- the sound is off
  have muted : convened.soundEnabled = false := rfl
  have silent : convened.played = [] := rfl
  have played := once.2.1 _ path
  rw [muted, silent] at played
  refine ⟨_, dismissed, cues, ?_, shown, dismisses,
    once.2.2.2 _ _ _ (path.weaken fun _ _ meets => meets.1) dismisses .refl⟩
  simpa using played

end Results

end Council.PageShell

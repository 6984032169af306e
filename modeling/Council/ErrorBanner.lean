import Council.SessionPhases

/-!
The message of `frontend/src/components/status/ErrorBanner.tsx`. The banner
looks the cause up in the list of errors: the first one without a persona, else
the last. An advisory transport error has no persona either.
-/

namespace Council.ErrorBanner

open Council.Protocol
open DebateReducer DebatePlayer PlayerRuns Playbill TurnOrder FaithfulReplay UseDebate
  SessionPhases

/-- Message that ended the session: prefer a session-level error, else the last. -/
def terminalMessage (state : DebateState) : Text :=
  let sessionLevel := state.errors.find? fun error => error.persona = none
  let fallback := state.errors.getLast?
  ((sessionLevel.or fallback).map DebateError.message).getD
    (units "The council could not finish this session.")

/-- Whether the input ends the session in an error. -/
def fails (state : DebateState) : DebateInput → Bool
  | .event (.error event) => event.terminal
  | .status .closed => !TERMINAL state.phase
  | _ => false

/-- The message of an input that moves the phase to error, as the reducer
records it. -/
def failureMessage : DebateInput → Option Text
  | .event (.error event) =>
      some (if event.error = [] then units "an error occurred" else event.error)
  | .status .closed => some (units "connection closed before a verdict")
  | _ => none

def records (state : DebateState) : DebateInput → Bool
  | .event (.error _) => true
  | .transport _ => true
  | .status .closed => !TERMINAL state.phase
  | _ => false

/-- The reducer's state with the message of the input that moved the phase to
error, and the number of errors recorded since. -/
structure Watch where
  state : DebateState
  cause : Option Text
  since : Nat

def Watch.next (watch : Watch) (input : DebateInput) : Watch :=
  let state := debateReducer watch.state input
  if state.phase ≠ .error then ⟨state, none, 0⟩
  else if watch.state.phase = .error then
    ⟨state, watch.cause, if records watch.state input then watch.since + 1 else watch.since⟩
  else ⟨state, failureMessage input, 0⟩

def initialWatch : Watch where
  state := initialState
  cause := none
  since := 0

def watchAll (watch : Watch) (inputs : List DebateInput) : Watch :=
  inputs.foldl Watch.next watch

/-- The banner names the error that ended the session. -/
def Named (watch : Watch) : Prop :=
  watch.state.phase = .error → watch.since < MAX_ERRORS →
    watch.cause = some (terminalMessage watch.state)

instance : DecidablePred Named := fun watch =>
  inferInstanceAs (Decidable (watch.state.phase = .error → watch.since < MAX_ERRORS →
    watch.cause = some (terminalMessage watch.state)))

/-- The errors that stay when one more is recorded. -/
def kept (errors : List DebateError) : List DebateError :=
  errors.drop (errors.length + 1 - MAX_ERRORS)

/-- No advisory error takes the place of the cause: when the phase moves to
error none is left in the list, and none is recorded after a moderator's
failure, where the list has no error without a persona. -/
def unclouded (state : DebateState) (input : DebateInput) : Bool :=
  if state.phase = .error then
    match input with
    | .transport _ => state.errors.any fun error => error.persona = none
    | _ => true
  else if fails state input then (kept state.errors).all fun error => error.persona ≠ none
  else true

def allUnclouded : DebateState → List DebateInput → Bool
  | _, [] => true
  | state, input :: rest =>
      unclouded state input && allUnclouded (debateReducer state input) rest

theorem with_error_kept (errors : List DebateError) (error : DebateError) :
    withError errors error = kept errors ++ [error] := by
  have limit : MAX_ERRORS = 50 := rfl
  unfold withError kept
  simp only [List.length_append, List.length_singleton]
  split
  · exact List.drop_append_of_le_length (by omega)
  · rw [show errors.length + 1 - MAX_ERRORS = 0 by omega]
    rfl

theorem kept_split (earlier later : List DebateError) (cause : DebateError)
    (recent : later.length + 1 < MAX_ERRORS) :
    kept (earlier ++ cause :: later) =
      earlier.drop (earlier.length + later.length + 2 - MAX_ERRORS) ++ cause :: later := by
  unfold kept
  have count : (earlier ++ cause :: later).length + 1 - MAX_ERRORS =
      earlier.length + later.length + 2 - MAX_ERRORS := by
    rw [List.length_append, List.length_cons]
    omega
  rw [count, List.drop_append_of_le_length (by omega)]

/-- What a failure leaves of the state. -/
structure Failed (state : DebateState) (input : DebateInput) (entry : DebateError) : Prop where
  errors : (debateReducer state input).errors = kept state.errors ++ [entry]
  message : failureMessage input = some entry.message
  phase : (debateReducer state input).phase = .error
  persona : entry.persona = none ∨ entry.persona = some MODERATOR_ID

theorem fails_failed {state : DebateState} {input : DebateInput}
    (failing : fails state input = true) : ∃ entry, Failed state input entry := by
  cases input with
  | event event =>
      cases event with
      | error event =>
          have terminal : event.terminal = true := failing
          refine ⟨⟨event.persona, if event.error = [] then units "an error occurred"
            else event.error⟩, ?_, rfl, ?_, ?_⟩
          · exact with_error_kept _ _
          · change (if event.terminal then DebatePhase.error else state.phase) = .error
            rw [if_pos terminal]
          · cases named : event.persona with
            | none => exact .inl rfl
            | some persona =>
                rw [ErrorEvent.terminal, named] at terminal
                exact .inr (congrArg some (of_decide_eq_true terminal))
      | _ => cases failing
  | status status =>
      cases status with
      | closed =>
          have running : TERMINAL state.phase = false := by simpa [fails] using failing
          have closes : debateReducer state (.status .closed) =
              { state with
                phase := .error
                activeSpeakers := []
                errors := withError state.errors
                  ⟨none, units "connection closed before a verdict"⟩ } := by
            simp only [debateReducer, reduceStatus, running]
            rfl
          refine ⟨⟨none, units "connection closed before a verdict"⟩, ?_, rfl, ?_, .inl rfl⟩
          · rw [closes]
            exact with_error_kept _ _
          · rw [closes]
      | _ => cases failing
  | transport => cases failing
  | cancel => cases failing

theorem error_fails {state : DebateState} {input : DebateInput} (open' : state.phase ≠ .error)
    (moved : (debateReducer state input).phase = .error) : fails state input = true := by
  cases input with
  | event event =>
      cases event with
      | token persona round delta =>
          change (if persona = MODERATOR_ID then DebatePhase.moderating else .debating) = .error
            at moved
          split at moved <;> cases moved
      | personaDone persona round => exact absurd moved open'
      | roundComplete round => exact absurd moved open'
      | verdict verdict => cases moved
      | error event =>
          by_contra survives
          have survivable : ¬ event.terminal = true := survives
          change (if event.terminal then DebatePhase.error else state.phase) = .error at moved
          rw [if_neg survivable] at moved
          exact open' moved
  | status status =>
      cases status with
      | connecting => cases moved
      | closed =>
          by_contra settled
          have terminal : TERMINAL state.phase = true := by simpa [fails] using settled
          simp only [debateReducer, reduceStatus, terminal, if_true] at moved
          exact open' moved
      | _ => exact absurd moved open'
  | transport message => exact absurd moved open'
  | cancel =>
      simp only [debateReducer] at moved
      split at moved
      · exact absurd moved open'
      · cases moved

/-- Advice, a stop or a new session: what a session in error can still dispatch. -/
def settled : DebateInput → Bool
  | .cancel => true
  | .status .connecting => true
  | input => advisory input

/-- The watch of a session in error knows where in the list its cause is. -/
inductive Aware (watch : Watch) : Prop where
  | running (phase : watch.state.phase ≠ .error) : Aware watch
  | session (message : Text) (cause : watch.cause = some message)
      (listed : watch.since < MAX_ERRORS → ∃ earlier later,
        watch.state.errors = earlier ++ ⟨none, message⟩ :: later ∧
        (∀ error ∈ earlier, error.persona ≠ none) ∧ later.length = watch.since) : Aware watch
  | moderator (message : Text) (cause : watch.cause = some message) (earlier : List DebateError)
      (listed : watch.state.errors = earlier ++ [⟨some MODERATOR_ID, message⟩])
      (seated : ∀ error ∈ earlier, error.persona ≠ none) : Aware watch

theorem next_state (watch : Watch) (input : DebateInput) :
    (watch.next input).state = debateReducer watch.state input := by
  unfold Watch.next
  simp only
  split
  · rfl
  · split <;> rfl

theorem watch_all_state (watch : Watch) (inputs : List DebateInput) :
    (watchAll watch inputs).state = reduceAll watch.state inputs := by
  induction inputs generalizing watch with
  | nil => rfl
  | cons input rest ih =>
      rw [reduce_all_cons, ← next_state]
      exact ih (watch.next input)

theorem next_running {watch : Watch} {input : DebateInput}
    (phase : (debateReducer watch.state input).phase ≠ .error) : Aware (watch.next input) :=
  .running (by rwa [next_state])

theorem next_same {watch : Watch} {input : DebateInput} (phase : watch.state.phase = .error)
    (same : debateReducer watch.state input = watch.state)
    (unrecorded : records watch.state input = false) : watch.next input = watch := by
  simp only [Watch.next, same, phase, unrecorded]
  rfl

theorem next_transport {watch : Watch} (phase : watch.state.phase = .error) (message : Text) :
    watch.next (.transport message) =
      ⟨debateReducer watch.state (.transport message), watch.cause, watch.since + 1⟩ := by
  simp only [Watch.next, debateReducer, phase, records]
  rfl

/-- The step to error: the cause is recorded behind what is kept. -/
theorem aware_fails {watch : Watch} {input : DebateInput} (open' : watch.state.phase ≠ .error)
    (failing : fails watch.state input = true)
    (clear : unclouded watch.state input = true) : Aware (watch.next input) := by
  rcases fails_failed failing with ⟨⟨persona, message⟩, failed⟩
  have moved : watch.next input =
      ⟨debateReducer watch.state input, failureMessage input, 0⟩ := by
    simp only [Watch.next, failed.phase, open']
    rfl
  have seated : ∀ error ∈ kept watch.state.errors, error.persona ≠ none := by
    unfold unclouded at clear
    rw [if_neg open', if_pos failing, List.all_eq_true] at clear
    exact fun error member => of_decide_eq_true (clear error member)
  rw [moved]
  rcases failed.persona with named | named
  · cases named
    refine .session message failed.message fun _ => ⟨kept watch.state.errors, [], ?_⟩
    exact ⟨failed.errors, seated, rfl⟩
  · cases named
    exact .moderator message failed.message _ failed.errors seated

theorem aware_transport {watch : Watch} (aware : Aware watch)
    (phase : watch.state.phase = .error) (message : Text)
    (clear : unclouded watch.state (.transport message) = true) :
    Aware (watch.next (.transport message)) := by
  rw [next_transport phase]
  cases aware with
  | running running => exact absurd phase running
  | session cause known listed =>
      refine .session cause known fun recent => ?_
      rcases listed (Nat.lt_of_succ_lt recent) with ⟨earlier, later, errors, seated, count⟩
      refine ⟨earlier.drop (earlier.length + later.length + 2 - MAX_ERRORS),
        later ++ [⟨none, message⟩], ?_, ?_, ?_⟩
      · change withError watch.state.errors ⟨none, message⟩ = _
        rw [with_error_kept, errors, kept_split earlier later _ (by rw [count]; exact recent),
          List.append_assoc]
        rfl
      · exact fun error member => seated error (List.mem_of_mem_drop member)
      · rw [List.length_append, count]
        rfl
  | moderator cause known earlier listed seated =>
      -- the list has no error without a persona
      rw [unclouded, if_pos phase, List.any_eq_true] at clear
      rcases clear with ⟨error, member, advised⟩
      rw [listed] at member
      rcases List.mem_append.mp member with before | last
      · exact absurd (of_decide_eq_true advised) (seated error before)
      · rw [List.mem_singleton.mp last] at advised
        cases advised

theorem aware_next {watch : Watch} {input : DebateInput} (aware : Aware watch)
    (quiet : watch.state.phase = .error → settled input = true)
    (clear : unclouded watch.state input = true) : Aware (watch.next input) := by
  by_cases phase : watch.state.phase = .error
  · have idle := quiet phase
    have same : debateReducer watch.state input = watch.state →
        records watch.state input = false → Aware (watch.next input) := by
      intro unchanged unrecorded
      rw [next_same phase unchanged unrecorded]
      exact aware
    cases input with
    | event event => cases idle
    | status status =>
        cases status with
        | connecting => exact next_running nofun
        | closed => cases idle
        | _ => exact same rfl rfl
    | transport message => exact aware_transport aware phase message clear
    | cancel =>
        refine same ?_ rfl
        simp only [debateReducer, phase]
        rfl
  · by_cases failing : fails watch.state input = true
    · exact aware_fails phase failing clear
    · exact next_running fun moved => failing (error_fails phase moved)

theorem aware_named {watch : Watch} (aware : Aware watch) : Named watch := by
  intro phase recent
  have skipped : ∀ errors : List DebateError, (∀ error ∈ errors, error.persona ≠ none) →
      errors.find? (fun error => error.persona = none) = none := by
    intro errors seated
    refine List.find?_eq_none.mpr fun error member => ?_
    simpa using seated error member
  cases aware with
  | running running => exact absurd phase running
  | session message cause listed =>
      rcases listed recent with ⟨earlier, later, errors, seated, count⟩
      rw [cause, terminalMessage, errors, List.find?_append, skipped earlier seated]
      rfl
  | moderator message cause earlier listed seated =>
      have silent : ∀ error ∈ earlier ++ [⟨some MODERATOR_ID, message⟩],
          error.persona ≠ none := by
        intro error member
        rcases List.mem_append.mp member with before | last
        · exact seated error before
        · rw [List.mem_singleton.mp last]
          exact nofun
      rw [cause, terminalMessage, listed, skipped _ silent, List.getLast?_concat]
      rfl

/-- The banner names an advisory error, recorded before the cause or after it. -/
def Overtaken (state : DebateState) (input : DebateInput) : Prop :=
  ∃ error : DebateError, error.persona = none ∧
    (error ∈ kept state.errors ∨ state.phase = .error ∧ input = .transport error.message) ∧
    terminalMessage (debateReducer state input) = error.message

theorem clouded_overtaken {state : DebateState} {input : DebateInput}
    (clouded : unclouded state input = false) : Overtaken state input := by
  unfold unclouded at clouded
  split at clouded
  next phase =>
    split at clouded
    next message =>
      have seated : ∀ error ∈ kept state.errors,
          ¬ decide (error.persona = none) = true := by
        intro error member advised
        have listed := List.any_eq_false.mp clouded error (List.mem_of_mem_drop member)
        exact listed advised
      refine ⟨⟨none, message⟩, rfl, .inr ⟨phase, rfl⟩, ?_⟩
      have errors : (debateReducer state (.transport message)).errors =
          kept state.errors ++ [⟨none, message⟩] := with_error_kept _ _
      rw [terminalMessage, errors, List.find?_append, List.find?_eq_none.mpr seated]
      rfl
    next => cases clouded
  next =>
    split at clouded
    next failing =>
      rcases fails_failed failing with ⟨entry, failed⟩
      rcases List.all_eq_false.mp clouded with ⟨error, member, advised⟩
      cases found : (kept state.errors).find? fun error => error.persona = none with
      | none =>
          have seated := List.find?_eq_none.mp found error member
          simp only [decide_eq_true_eq] at seated
          simp only [ne_eq, decide_eq_true_eq, not_not] at advised
          exact absurd advised seated
      | some first =>
          have marked := List.find?_some found
          refine ⟨first, of_decide_eq_true marked, .inl (List.mem_of_find?_eq_some found), ?_⟩
          rw [terminalMessage, failed.errors, List.find?_append, found]
          rfl
    next => cases clouded

/-- Once the phase is error, only settled inputs come. -/
def Quietly : DebateState → List DebateInput → Prop
  | _, [] => True
  | state, input :: rest =>
      (state.phase = .error → settled input = true) ∧ Quietly (debateReducer state input) rest

theorem quietly_append {state : DebateState} {first second : List DebateInput}
    (before : Quietly state first) (after : Quietly (reduceAll state first) second) :
    Quietly state (first ++ second) := by
  induction first generalizing state with
  | nil => exact after
  | cons input rest ih => exact ⟨before.1, ih before.2 after⟩

theorem aware_all {watch : Watch} {inputs : List DebateInput} (aware : Aware watch)
    (quiet : Quietly watch.state inputs)
    (clear : allUnclouded watch.state inputs = true) : Aware (watchAll watch inputs) := by
  induction inputs generalizing watch with
  | nil => exact aware
  | cons input rest ih =>
      rw [allUnclouded, Bool.and_eq_true] at clear
      refine ih (aware_next aware quiet.1 clear.1) ?_ ?_
      · rw [next_state]
        exact quiet.2
      · rw [next_state]
        exact clear.2

section Sessions

variable {first player : Player} {arrived : List Arrival} {log : List DebateInput}

theorem complete_body {script : Script} (complete : Complete script) :
    ∃ body last, script.render = body ++ [last] ∧ ∀ input ∈ body, IsEnding input = false := by
  rcases complete.ending with ⟨finale, closing, ends⟩
  refine ⟨renderTurns 0 script.turns ++ tokens MODERATOR_ID finale.round finale.chunks,
    finale.ending, ?_, ?_⟩
  · rw [Script.render, closing, List.append_assoc]
    rfl
  · intro input member
    rcases List.mem_append.mp member with told | synthesis
    · exact turns_not_ending 0 script.turns complete.failures input told
    · exact tokens_not_ending _ _ _ input synthesis

theorem session_unended (played : Played anyArrival (reset first) arrived log player)
    {front back : List DebateInput} {input : DebateInput} (shown : log = front ++ input :: back) :
    TERMINAL (reduceAll connectingState front).phase = false := by
  rcases (sound_invariant _).played played with ⟨script, stage, _, _, faithful⟩
  rcases stage_prefix stage faithful.failures fun finale same => (faithful.ending finale same).1
    with ⟨whole, complete, begun⟩
  rcases complete_body complete with ⟨body, last, render, unended⟩
  have within : front <+: body := by
    rw [render, shown] at begun
    have early := (List.prefix_append front (input :: back)).trans begun
    have shorter := begun.length_le
    refine List.prefix_of_prefix_length_le early (List.prefix_append body [last]) ?_
    simp only [List.length_append, List.length_cons, List.length_nil] at shorter
    omega
  refine (running_phase connectingState front (fun other member => ?_)
    (fun other member => unended other (within.subset member)) rfl).1
  refine played_of_playback played other ?_
  rw [shown]
  exact List.mem_append_left _ member

theorem settled_of_advisory {input : DebateInput} (idle : advisory input = true) :
    settled input = true := by
  cases input with
  | event event => cases idle
  | status status => cases status <;> first | rfl | cases idle
  | transport message => rfl
  | cancel => rfl

theorem quietly_filtered {state : DebateState} {log inputs : List DebateInput}
    (view : SameView state (reduceAll connectingState log))
    (known : ∀ input ∈ inputs, ofPlayback input = true ∨ advisory input = true)
    (unended : ∀ front input back, log ++ inputs.filter ofPlayback = front ++ input :: back →
      TERMINAL (reduceAll connectingState front).phase = false) : Quietly state inputs := by
  induction inputs generalizing state log with
  | nil => trivial
  | cons input rest ih =>
      have later := fun other member => known other (List.mem_cons_of_mem input member)
      by_cases plays : ofPlayback input = true
      · rw [List.filter_cons_of_pos plays] at unended
        constructor
        · intro phase
          have running := unended log input _ rfl
          rw [← view.phase, phase] at running
          cases running
        · have sees : SameView (debateReducer state input)
              (reduceAll connectingState (log ++ [input])) := by
            rw [reduce_all_append]
            exact reduce_view view input
          refine ih sees later fun front other back shown => unended front other back ?_
          rw [← shown, List.append_assoc]
          rfl
      · rw [List.filter_cons_of_neg plays] at unended
        have idle := (known input List.mem_cons_self).resolve_left plays
        exact ⟨fun _ => settled_of_advisory idle,
          ih ((advisory_view state input idle).trans view) later unended⟩

theorem apply_quietly {state : DebateState}
    (played : Played anyArrival (reset first) arrived log player)
    (view : SameView state (reduceAll connectingState log)) (op : Op)
    (inSession : op.inSession = true) : Quietly state (apply player op).2 := by
  have later := played.apply op inSession fun _ _ => trivial
  exact quietly_filtered view (apply_known player op inSession)
    fun _ _ _ shown => session_unended later shown

end Sessions

/-- A socket that can feed the player belongs to the session it plays. -/
inductive Scene (hook : Hook) : Prop where
  | quiet (deaf : Deaf hook) (unarmed : hook.player.timer = none)
      (blocked : hasReadyWork hook.player = false) : Scene hook
  | session (first : Player) (arrived : List Arrival) (log : List DebateInput)
      (played : Played anyArrival (reset first) arrived log hook.player)
      (view : SameView hook.state (reduceAll connectingState log)) : Scene hook

/-- What a hook step keeps, whatever it is asked. -/
structure Watched (hook : Hook) (answer : Hook × List DebateInput) : Prop where
  scene : Scene answer.1
  quietly : Quietly hook.state answer.2

section Hooks

variable {hook : Hook}

theorem effect_watched {answer : Hook × List DebateInput} (scene : Scene hook)
    (effect : Effect hook answer) : Watched hook answer := by
  cases scene with
  | quiet deaf unarmed blocked =>
      have unmoved := deaf_effect deaf unarmed blocked effect
      refine ⟨.quiet unmoved.deaf unmoved.unarmed unmoved.blocked, ?_⟩
      rw [unmoved.silent]
      trivial
  | session first arrived log played view =>
      rcases effect_called effect with rfl | ⟨op, called⟩
      · exact ⟨.session first arrived log played view, trivial⟩
      · rcases session_apply played view op called.inSession with ⟨later, path, sees⟩
        rw [← called.player] at path
        rw [← called.state] at sees
        refine ⟨.session first _ later path sees, ?_⟩
        rw [called.dispatched]
        exact apply_quietly played view op called.inSession

theorem ask_watched (exclusive : Exclusive hook) (question : Text) (rounds : Option JsNumber) :
    Watched hook (ask hook question rounds) := by
  cases built : buildAsk question rounds with
  | error message =>
      have deaf := ask_rejected_deaf exclusive question rounds message built
      rw [ask_rejected hook question rounds message built] at deaf ⊢
      exact ⟨.quiet deaf rfl rfl, fun _ => rfl, trivial⟩
  | ok message =>
      rw [ask_accepted hook question rounds message built]
      exact ⟨.session (reset hook.player) [] [] .start (.refl _), fun _ => rfl, trivial⟩

theorem stop_watched (exclusive : Exclusive hook) : Watched hook (stop hook) := by
  refine ⟨.quiet (stop_deaf exclusive) ?_ ?_, fun _ => rfl, trivial⟩
  · rw [(stop_state hook).1]
    rfl
  · rw [(stop_state hook).1]
    rfl

end Hooks

section Runs

variable (parseEvent : Text → Except Text DebateEvent)

theorem hook_step_watched {hook : Hook} (exclusive : Exclusive hook) (scene : Scene hook)
    (op : HookOp) : Watched hook (hookStep parseEvent hook op) := by
  by_cases asked : op.isAsk = true
  · cases op with
    | ask question rounds => exact ask_watched exclusive question rounds
    | _ => cases asked
  · by_cases stopped : op = .stop
    · subst stopped
      exact stop_watched exclusive
    · exact effect_watched scene
        (hook_step_effect parseEvent hook op (by simpa using asked) stopped)

theorem run_quietly {hook : Hook} (exclusive : Exclusive hook) (scene : Scene hook)
    (ops : List HookOp) : Quietly hook.state (runHook parseEvent hook ops).2 ∧
      (runHook parseEvent hook ops).1.state =
        reduceAll hook.state (runHook parseEvent hook ops).2 := by
  induction ops generalizing hook with
  | nil => exact ⟨trivial, rfl⟩
  | cons op rest ih =>
      have first := hook_step_watched parseEvent exclusive scene op
      have later := ih (exclusive_step parseEvent exclusive op) first.scene
      rw [hook_step_state parseEvent hook op] at later
      exact ⟨quietly_append first.quietly later.1,
        later.2.trans (reduce_all_append _ _ _).symm⟩

theorem quietly_beginning {state : DebateState} {front whole : List DebateInput}
    (quiet : Quietly state whole) (begun : front <+: whole) : Quietly state front := by
  rcases begun with ⟨rest, rfl⟩
  induction front generalizing state with
  | nil => trivial
  | cons input later ih => exact ⟨quiet.1, ih quiet.2⟩

/-- As long as no advisory error takes the place of the cause, the banner names
the error that ended the session; where one does, the banner names that one. -/
theorem banner_names_cause (reducedMotion : Bool) (ops : List HookOp) :
    let run := runHook parseEvent (createHook reducedMotion) ops
    run.1.state = (watchAll initialWatch run.2).state ∧
      (∀ front, front <+: run.2 → allUnclouded initialState front = true →
        Named (watchAll initialWatch front)) ∧
      ∀ front input, front ++ [input] <+: run.2 →
        unclouded (reduceAll initialState front) input = false →
          Overtaken (reduceAll initialState front) input := by
  intro run
  have quiet := run_quietly parseEvent (exclusive_create reducedMotion)
    (.quiet nofun rfl rfl) ops
  refine ⟨?_, ?_, fun _ _ _ => clouded_overtaken⟩
  · rw [watch_all_state]
    exact quiet.2
  · intro front begun clear
    have aware : Aware initialWatch := .running nofun
    exact aware_named (aware_all aware (quietly_beginning quiet.1 begun) clear)

end Runs

/-- A rejected session, and a frame too many. -/
theorem banner_names_cause_rejected :
    let run := runHook (fun data => .ok (.error ⟨none, data⟩)) (createHook false)
      [.ask (units "Why?") none, .socket 0 (.message (.text (units "server busy"))),
        .socket 0 (.message .binary)]
    allUnclouded initialState run.2 = true ∧ Named (watchAll initialWatch run.2) := by
  intro run
  have clear : allUnclouded initialState run.2 = true := by decide +kernel
  exact ⟨clear, (banner_names_cause _ false _).2.1 run.2 (List.prefix_refl run.2) clear⟩

/-- One frame that is not text, then the end of the socket: the banner names
the frame. -/
theorem binary_frame_named :
    let run := runHook (fun message => .error message) (createHook false)
      [.ask (units "Why?") none, .socket 0 (.message .binary), .socket 0 .close]
    let watch := watchAll initialWatch run.2
    run.1.state.phase = .error ∧ watch.since = 0 ∧
      watch.cause = some (units "connection closed before a verdict") ∧
      terminalMessage run.1.state = units "received a non-text frame" ∧ ¬ Named watch := by
  decide +kernel

end Council.ErrorBanner

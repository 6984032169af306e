import Council.RoundGrammar
import Council.SessionRuns

/-!
What a session's client is told. Events received before `ctx` was done are a
log of an uncancelled run; those received later are never written, as the
connection is closed by then. So the events written are the beginning of a
word of the session, whatever fails and whenever.
-/

namespace Council.SessionGrammar

open Council.Machines
open Council.Provider
open Council.ServerProtocol
open Council.Orchestration
open Council.DebateShape
open Council.Unwinding
open Council.StreamWords
open Council.HandleSession
open Council.SessionRuns
open Council.RoundGrammar
open Council.Interleavings

variable {count : Nat}

/-- Some uncancelled state of the debate has put exactly these events on `out`. -/
def LoggedBy (debate : Debate count) (events : List Event) (closed : Bool) : Prop :=
  ∃ seen : State count, Reachable debate seen ∧ seen.cancelled = false ∧
    seen.events = events ∧ (closed = true → seen.main = .closed)

/-- What was written against what the run has put on `out`. -/
structure Told (session : Session count) (debate : Debate count) (state : State count) :
    Prop where
  seen : LoggedBy debate session.written (session.phase = .returned true)
  looping : session.phase = .looping → state.events = session.written
  writing : ∀ event late, session.phase = .writing event late →
    state.events = session.written ++ [event] ∧
      (late = false → LoggedBy debate (session.written ++ [event]) false)

/-- Nothing is written before the ask is accepted. -/
structure Tells (session : Session count) : Prop where
  before : Early session.phase → session.written = []
  told : ∀ debate state, session.run = some (debate, state) → Told session debate state

theorem events_initial (debate : Debate count) (cancelled : Bool) :
    (State.initial debate cancelled).events = [] := by
  unfold State.initial State.enter
  split <;> rfl

section Steps
variable {handler : Handler count} {session after : Session count}
  {action : HandleSession.Action count}

theorem told_inner {debate : Debate count} {state next : State count}
    {inner : Orchestration.Action count} (told : Told session debate state)
    (moved : Orchestration.step debate state inner = some next)
    (silent : offered state inner = none) : Told session debate next := by
  have same : next.events = state.events := by
    rw [offered_events moved, silent]
    exact List.append_nil _
  refine ⟨told.seen, fun at_ => ?_, fun event late at_ => ?_⟩
  · rw [same]
    exact told.looping at_
  · rw [same]
    exact told.writing event late at_

/-- An event taken from `out` before `ctx` is done belongs to an uncancelled
log. -/
theorem told_receive {debate : Debate count} {state next : State count}
    {inner : Orchestration.Action count} {event : Event} (reachable : Reachable debate state)
    (at_ : session.phase = .looping) (told : Told session debate state)
    (kept : inner ≠ .cancel) (moved : Orchestration.step debate state inner = some next)
    (offers : offered state inner = some event) :
    Told { session with
      phase := .writing event state.cancelled
      run := some (debate, next) } debate next := by
  have log : next.events = session.written ++ [event] := by
    rw [offered_events moved, offers, told.looping at_]
    rfl
  obtain ⟨seen, known, undone, events, _⟩ := told.seen
  refine ⟨⟨seen, known, undone, events, by simp⟩, by simp, ?_⟩
  intro other late writes
  cases writes
  refine ⟨log, fun early => ⟨next, reachable_step reachable moved, ?_, log, by simp⟩⟩
  exact uncancelled_after moved kept early

theorem early_at {phase : Phase} (at_ : session.phase = phase) (early : Early phase) :
    Early session.phase := by
  rwa [at_]

theorem tells_early (sound : Sound handler session) (tells : Tells session)
    (early : Early session.phase) (runs : after.run = session.run)
    (written : Early after.phase → after.written = session.written) : Tells after := by
  constructor
  · intro still
    rw [written still]
    exact tells.before early
  · intro debate state starts
    rw [runs, sound.early early] at starts
    cases starts

theorem tells_step (closed : ∀ event, handler.closedTakes event = false)
    (taken : HandleSession.step handler session action = some after)
    (sound : Sound handler session) (tells : Tells session) : Tells after := by
  have before := tells.before
  have told := tells.told
  cases HandleSession.moves_of_step handler session after action taken with
  | send frame present =>
      refine ⟨before, fun debate state runs => ?_⟩
      have known := told debate state runs
      exact ⟨known.seen, known.looping, known.writing⟩
  | leave present =>
      refine ⟨before, fun debate state runs => ?_⟩
      have known := told debate state runs
      exact ⟨known.seen, known.looping, known.writing⟩
  | accept at_ succeeds => exact tells_early sound tells (early_at at_ trivial) rfl fun _ => rfl
  | read at_ first => exact tells_early sound tells (early_at at_ trivial) rfl fun _ => rfl
  | garbled at_ first => exact tells_early sound tells (early_at at_ trivial) rfl fun _ => rfl
  | interrupt at_ gone => exact tells_early sound tells (early_at at_ trivial) rfl fun _ => rfl
  | invalid at_ wrong => exact tells_early sound tells (early_at at_ trivial) rfl fun _ => rfl
  | @valid message at_ accepted =>
      have nothing : session.written = [] := before (early_at at_ trivial)
      refine ⟨fun inside => inside.elim, fun debate state runs => ?_⟩
      cases runs
      have empty := events_initial (handler.debate message) false
      have start : (State.initial (handler.debate message) false).cancelled = false := by
        unfold State.initial State.enter
        split <;> rfl
      refine ⟨⟨_, ⟨false, .refl⟩, start, ?_, by simp⟩, fun _ => ?_, by simp⟩
      · rw [empty, nothing]
      · rw [empty, nothing]
  | refuse at_ succeeds =>
      exact tells_early sound tells (early_at at_ trivial) rfl fun inside => inside.elim
  | inner runs kept moved silent =>
      refine ⟨before, fun debate state now => ?_⟩
      cases now
      have known := told_inner (told _ _ runs) moved silent
      exact ⟨known.seen, known.looping, known.writing⟩
  | receive at_ runs kept moved offers =>
      refine ⟨fun inside => inside.elim, fun debate state now => ?_⟩
      cases now
      exact told_receive (sound.runs _ runs).2 at_ (told _ _ runs) kept moved offers
  | @drained debate state at_ runs shut =>
      refine ⟨fun inside => inside.elim, fun _ _ now => ?_⟩
      cases now
      have known := told debate state runs
      refine ⟨?_, by simp, by simp⟩
      -- an uncancelled loop has written all of `out`, which is closed now
      cases cancelled : state.cancelled with
      | false =>
          exact ⟨state, (sound.runs _ runs).2, cancelled, known.looping at_, fun _ => shut⟩
      | true =>
          obtain ⟨seen, reachable, undone, events, _⟩ := known.seen
          exact ⟨seen, reachable, undone, events, by simp⟩
  | @wrote event late at_ took =>
      refine ⟨fun inside => inside.elim, fun debate state runs => ?_⟩
      -- a late write would need the closed connection to take it
      have early : late = false := by
        rcases took with early | late_
        · exact early
        · rw [closed event] at late_
          cases late_
      obtain ⟨events, logged⟩ := (told debate state runs).writing event late at_
      refine ⟨?_, fun _ => events, by simp⟩
      obtain ⟨seen, reachable, undone, same, _⟩ := logged early
      exact ⟨seen, reachable, undone, same, by simp⟩
  | failed at_ =>
      -- the failed write cancels `Run`; what was told before it stands
      refine ⟨fun inside => inside.elim, fun debate state now => ?_⟩
      obtain ⟨⟨own, old⟩, runs, same⟩ := Option.map_eq_some_iff.mp now
      cases same
      obtain ⟨seen, reachable, undone, events, _⟩ := (told own old runs).seen
      exact ⟨⟨seen, reachable, undone, events, by simp⟩, by simp, by simp⟩
  | disconnect runs cause fresh =>
      refine ⟨before, fun debate state now => ?_⟩
      cases now
      have known := told _ _ runs
      exact ⟨known.seen, known.looping, known.writing⟩

theorem tells_reachable (closed : ∀ event, handler.closedTakes event = false)
    (reached : Reaches (HandleSession.step handler) always {} session) : Tells session := by
  refine reached.invariant Tells ⟨fun _ => rfl, fun _ _ runs => by cases runs⟩ ?_
  intro before action after earlier _ taken tells
  exact tells_step closed taken (sound_reachable earlier) tells

end Steps

/-- Neither `ctx` is cancelled from outside nor a write fails. -/
def Undisturbed (action : HandleSession.Action count) : Prop :=
  action ≠ .disconnect ∧ action ≠ .write false

section Undisturbed
variable {handler : Handler count} {session after : Session count}
  {action : HandleSession.Action count}

/-- At the head of the loop, or at the write of an event that came in time. -/
def InTime : Phase → Prop
  | .looping => True
  | .writing _ late => late = false
  | _ => False

/-- An undisturbed debate is uncancelled until its loop has ended. -/
def Calm (session : Session count) : Prop :=
  ∀ run, session.run = some run →
    session.phase = .returned true ∨ InTime session.phase ∧ run.2.cancelled = false

theorem calm_early (sound : Sound handler session) (early : Early session.phase)
    (same : after.run = session.run) : Calm after := by
  intro run runs
  rw [same, sound.early early] at runs
  cases runs

theorem calm_step (taken : HandleSession.step handler session action = some after)
    (undisturbed : Undisturbed action) (sound : Sound handler session) (calm : Calm session) :
    Calm after := by
  cases HandleSession.moves_of_step handler session after action taken with
  | send frame present => exact calm
  | leave present => exact calm
  | accept at_ succeeds => exact calm_early sound (early_at at_ trivial) rfl
  | read at_ first => exact calm_early sound (early_at at_ trivial) rfl
  | garbled at_ first => exact calm_early sound (early_at at_ trivial) rfl
  | interrupt at_ gone => exact calm_early sound (early_at at_ trivial) rfl
  | invalid at_ wrong => exact calm_early sound (early_at at_ trivial) rfl
  | valid at_ accepted =>
      intro run runs
      cases runs
      refine .inr ⟨trivial, ?_⟩
      unfold State.initial State.enter
      split <;> rfl
  | refuse at_ succeeds => exact calm_early sound (early_at at_ trivial) rfl
  | inner runs kept moved silent =>
      intro run now
      cases now
      rcases calm _ runs with done | ⟨inside, fresh⟩
      · exact .inl done
      · exact .inr ⟨inside, uncancelled_after moved kept fresh⟩
  | receive at_ runs kept moved offers =>
      intro run now
      cases now
      rcases calm _ runs with done | ⟨_, fresh⟩
      · rw [at_] at done
        cases done
      · exact .inr ⟨fresh, uncancelled_after moved kept fresh⟩
  | @drained debate state at_ runs shut =>
      intro run now
      left
      rcases calm _ runs with done | ⟨_, fresh⟩
      · rw [at_] at done
        cases done
      · have undone : state.cancelled = false := fresh
        simp [undone]
  | wrote at_ took =>
      intro run runs
      rcases calm _ runs with done | ⟨_, fresh⟩
      · rw [at_] at done
        cases done
      · exact .inr ⟨trivial, fresh⟩
  -- the two steps that cancel `Run` before its end
  | failed at_ => exact absurd rfl undisturbed.2
  | disconnect runs cause fresh => exact absurd rfl undisturbed.1

theorem calm_reachable
    (reached : Reaches (HandleSession.step handler) (fun _ action => Undisturbed action) {}
      session) : Calm session := by
  refine reached.invariant Calm (fun _ runs => by cases runs) ?_
  intro before action after earlier undisturbed taken calm
  exact calm_step taken undisturbed
    (sound_reachable (earlier.weaken fun _ _ _ => trivial)) calm

/-- From the head of its loop an undisturbed handler can go on until `out` is
closed: `Run` is finite, and each of its events can be written. -/
theorem loop_completes (handler : Handler count) {debate : Debate count} {state : State count}
    (finite : Acc (Follows (Orchestration.step debate)) state) :
    ∀ session : Session count, session.run = some (debate, state) →
      session.phase = .looping → Reachable debate state → state.cancelled = false →
      ∃ final, Reaches (HandleSession.step handler) (fun _ action => Undisturbed action)
        session final ∧ final.phase = .returned true := by
  induction finite with
  | intro state _ ih =>
      intro session runs at_ reachable fresh
      by_cases shut : state.main = .closed
      -- the range over `out` ends
      · have last : HandleSession.step handler session .drained =
            some { session with
              phase := .returned (!state.cancelled)
              run := some (HandleSession.cancel (debate, state)) } := by
          simp only [HandleSession.step, at_, runs, shut, if_true]
        exact ⟨_, .next .refl ⟨by simp, by simp⟩ last, by simp [fresh]⟩
      · obtain ⟨inner, next, kept, moved⟩ :=
          served_goes_on (shape_reachable reachable) (attended_uncancelled reachable fresh)
            fun ended => shut ended.1
        have later := reachable_step reachable moved
        have still := uncancelled_after moved kept fresh
        cases offers : offered state inner with
        | none =>
            -- the handler stays where it is
            have first : HandleSession.step handler session (.run inner) =
                some { session with run := some (debate, next) } := by
              simp only [HandleSession.step, runs, if_neg kept, moved, offers]
            obtain ⟨final, reached, done⟩ :=
              ih next ⟨inner, moved⟩ { session with run := some (debate, next) } rfl at_ later
                still
            exact ⟨final, (Reaches.next .refl ⟨by simp, by simp⟩ first).trans reached, done⟩
        | some event =>
            -- one round of the loop: the event is received and written
            have first : HandleSession.step handler session (.run inner) =
                some { session with
                  phase := .writing event state.cancelled
                  run := some (debate, next) } := by
              simp only [HandleSession.step, runs, if_neg kept, moved, offers, at_]
            have second : HandleSession.step handler
                { session with
                  phase := .writing event state.cancelled
                  run := some (debate, next) } (.write true) =
                some { session with
                  phase := .looping
                  run := some (debate, next)
                  written := session.written ++ [event] } := by
              simp [HandleSession.step, fresh]
            obtain ⟨final, reached, done⟩ :=
              ih next ⟨inner, moved⟩
                { session with
                  phase := .looping
                  run := some (debate, next)
                  written := session.written ++ [event] } rfl rfl later still
            have both : Reaches (HandleSession.step handler)
                (fun _ action => Undisturbed action) session _ :=
              .next (.next .refl ⟨by simp, by simp⟩ first) ⟨by simp, by simp⟩ second
            exact ⟨final, both.trans reached, done⟩

end Undisturbed

/-- After a round's mark every event that carries a round carries a later one. -/
def InOrder (first later : Event) : Prop :=
  first.type = .roundComplete → later.round = 0 ∨ first.round < later.round

theorem round_of_word (debate : Debate count) (call : Call count) (event : Event)
    (member : event ∈ word debate call) :
    event.type ≠ .roundComplete ∧ (event.round = 0 ∨ event.round = call.round) := by
  have failure : (debate.failure call).type ≠ .roundComplete ∧ (debate.failure call).round = 0 :=
    ⟨by simp [Debate.failure, Error], rfl⟩
  rw [word] at member
  generalize answer debate call = outcome at member
  cases outcome with
  | error reason =>
      rw [List.mem_singleton.mp member]
      exact ⟨failure.1, .inl failure.2⟩
  | ok script =>
      rcases List.mem_append.mp member with token | last
      · obtain ⟨delta, _, same⟩ := List.mem_map.mp token
        subst same
        exact ⟨by simp [Token], .inr rfl⟩
      · rw [List.mem_singleton.mp last]
        split
        · exact ⟨failure.1, .inl failure.2⟩
        · unfold Debate.ending
          split
          · exact ⟨by simp [Verdict], .inl rfl⟩
          · exact ⟨by simp [PersonaDone], .inr rfl⟩

theorem ordered_word {debate : Debate count} {events : List Event}
    (session : SessionWord debate events) : events.Pairwise InOrder := by
  obtain ⟨rounds, words, rfl⟩ := session
  -- only a round's mark asks anything of what follows it
  have free : ∀ (call : Call count) (event : Event), event ∈ word debate call → ∀ later,
      InOrder event later := by
    intro call event member later marks
    exact absurd marks (round_of_word debate call event member).1
  refine List.pairwise_append.mpr ⟨?_, ?_, ?_⟩
  · refine words.pairwise (fun round seat event member later => free _ event member later)
      (fun round other seat later event member _ => ?_) fun round other later _ => .inr later
    rcases (round_of_word debate _ event member).2 with none_ | own
    · exact .inl none_
    · exact .inr (by rw [own]; exact later)
  · exact List.Pairwise.imp_of_mem (fun member _ _ => free _ _ member _)
      (List.pairwise_of_forall fun _ _ => trivial)
  · intro first member last moderates marks
    obtain ⟨round, _, high, marked | ⟨seat, inside⟩⟩ := words.mem first member
    · rcases (round_of_word debate _ last moderates).2 with none_ | own
      · exact .inl none_
      · right
        rw [marked, own]
        exact Nat.lt_of_lt_of_eq high (Nat.add_comm 1 _)
    · exact absurd marks (round_of_word debate _ first inside).1

/-- What a session writes after a valid ask begins a word of its debate: whole
rounds, each the panel's words interleaved and closed by its mark, then the
moderator's word. Undisturbed, the loop can always be completed, and has then
written a whole word. -/
theorem session_grammar (handler : Handler count)
    (closed : ∀ event, handler.closedTakes event = false) :
    (∀ session, Reaches (HandleSession.step handler) always {} session →
      ∀ debate state, session.run = some (debate, state) →
        (∃ message : ClientMessage, message.validate = none ∧
          debate = handler.debate message) ∧
        session.written.Pairwise InOrder ∧
        ∃ whole, SessionWord debate whole ∧ session.written <+: whole ∧
          (session.phase = .returned true → session.written = whole)) ∧
    ∀ session, Reaches (HandleSession.step handler) (fun _ action => Undisturbed action) {}
        session → ∀ debate state, session.run = some (debate, state) →
      (∀ complete, session.phase = .returned complete → complete = true) ∧
      ∃ final, Reaches (HandleSession.step handler) (fun _ action => Undisturbed action)
        session final ∧ final.phase = .returned true := by
  constructor
  -- safety: the log that was told is that of an uncancelled state
  · intro session reached debate state runs
    have running := (sound_reachable reached).runs _ runs
    obtain ⟨seen, reachable, fresh, events, shut⟩ :=
      ((tells_reachable closed reached).told debate state runs).seen
    obtain ⟨whole, grammar, begins, ends⟩ := events_begin reachable fresh
    rw [events] at begins ends
    refine ⟨running.1, ?_, whole, grammar, begins, fun complete => ?_⟩
    · exact (ordered_word grammar).sublist begins.sublist
    · exact ends (shut (by simpa using complete))
  -- liveness: from the loop, or from the write in it, the loop completes
  · intro session reached debate state runs
    have calm := calm_reachable reached _ runs
    have anyway : Reaches (HandleSession.step handler) always {} session :=
      reached.weaken fun _ _ _ => trivial
    have reachable := ((sound_reachable anyway).runs _ runs).2
    refine ⟨fun complete at_ => ?_, ?_⟩
    · rcases calm with done | ⟨inside, _⟩
      · rw [at_] at done
        cases done
        rfl
      · rw [at_] at inside
        exact inside.elim
    · rcases calm with done | ⟨inside, fresh⟩
      · exact ⟨session, .refl, done⟩
      · have completes := loop_completes handler (run_finite (shape_reachable reachable))
        cases at_ : session.phase with
        | looping => exact completes session runs at_ reachable fresh
        | writing event late =>
            rw [at_] at inside
            have first : HandleSession.step handler session (.write true) =
                some { session with
                  phase := .looping
                  written := session.written ++ [event] } := by
              simp only [HandleSession.step, at_, if_true]
              rw [if_pos (.inl inside)]
            obtain ⟨final, later, done⟩ := completes { session with
                phase := .looping
                written := session.written ++ [event] } runs rfl reachable fresh
            exact ⟨final, (Reaches.next .refl ⟨by simp, by simp⟩ first).trans later, done⟩
        | _ =>
            rw [at_] at inside
            exact inside.elim

def duetHandler : Handler 2 where
  toOrchestrator := New duet.provider "glm" 2
  personas := duet.personas
  closedTakes := fun _ => false

/-- One token is written, the client leaves, and the next one is not. -/
def cutShort : List (HandleSession.Action 2) :=
  [.accept true, .send (some ⟨"ask", "why?", 2⟩), .read, .validate, .run .spawn,
    .run (.stream ⟨1, some duet_first⟩ .start), .run (.stream ⟨1, some duet_first⟩ .produce),
    .run (.stream ⟨1, some duet_first⟩ .pass), .run (.stream ⟨1, some duet_first⟩ .send),
    .write true, .run (.stream ⟨1, some duet_first⟩ .produce),
    .run (.stream ⟨1, some duet_first⟩ .pass), .leave, .disconnect,
    .run (.stream ⟨1, some duet_first⟩ .send), .write false]

theorem session_grammar_cut_short :
    ∃ session, perform (HandleSession.step duetHandler) always {} cutShort = some session ∧
      session.written = [Token "skeptic" 1 "a"] ∧
      ∃ (debate : Debate 2) (whole : List Event), SessionWord debate whole ∧
        session.written <+: whole := by
  have run : (perform (HandleSession.step duetHandler) always {} cutShort).map (fun session =>
      (session.written, session.run.isSome)) = some ([Token "skeptic" 1 "a"], true) := by
    decide +kernel
  obtain ⟨session, performed, facts⟩ := Option.map_eq_some_iff.mp run
  obtain ⟨written, started⟩ := Prod.mk.inj facts
  obtain ⟨⟨debate, state⟩, runs⟩ := Option.isSome_iff_exists.mp started
  obtain ⟨_, _, whole, grammar, begins, _⟩ :=
    (session_grammar duetHandler fun _ => rfl).1 session (perform_reaches _ _ _ performed) debate
      state runs
  exact ⟨session, performed, written, debate, whole, grammar, begins⟩

end Council.SessionGrammar

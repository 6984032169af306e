import Council.DebateShape
import Mathlib.Algebra.Order.BigOperators.Group.Finset
import Mathlib.Data.Fintype.Option

/-!
Cancellation unwinds a debate: in a cancelled state some goroutine can go on
without the consumer until all of them have ended, no run goes on forever, and
`out` is closed once, with nothing sent on it afterwards.
-/

namespace Council.Unwinding

open Council.Machines
open Council.Provider
open Council.ServerProtocol
open Council.Orchestration
open Council.DebateShape

variable {count : Nat}

/-- `out` is closed and every goroutine of the run is gone. -/
def Ended (state : State count) : Prop :=
  state.main = .closed ∧
    ∀ call, (state.calls call).pc.running = false ∧ (state.calls call).source.alive = false

/-- The calls a run can make. -/
def roster (debate : Debate count) : Finset (Call count) :=
  (Finset.range (debate.rounds + 2) ×ˢ Finset.univ).image fun pair => ⟨pair.1, pair.2⟩

theorem mem_roster {debate : Debate count} {call : Call count} (made : Makes debate call) :
    call ∈ roster debate := by
  refine Finset.mem_image.mpr ⟨(call.round, call.speaker), ?_, rfl⟩
  simp only [Finset.mem_product, Finset.mem_range, Finset.mem_univ, and_true]
  obtain ⟨round, speaker⟩ := call
  cases speaker with
  | none =>
      have last : round = debate.rounds + 1 := made
      dsimp only
      omega
  | some seat =>
      have within : 1 ≤ round ∧ round ≤ debate.rounds := made
      dsimp only
      omega

def total (debate : Debate count) (weight : Streaming → Nat) (calls : Call count → Streaming) :
    Nat :=
  ∑ call ∈ roster debate, weight (calls call)

section Totals
variable {debate : Debate count} {weight : Streaming → Nat} {calls : Call count → Streaming}
  {call : Call count} {stream : Streaming}

theorem total_falls (member : call ∈ roster debate)
    (less : weight stream < weight (calls call)) :
    total debate weight (Function.update calls call stream) < total debate weight calls := by
  refine Finset.sum_lt_sum (fun other _ => ?_) ⟨call, member, by rwa [Function.update_self]⟩
  by_cases here : other = call
  · subst here
    rw [Function.update_self]
    exact less.le
  · rw [Function.update_of_ne here]

theorem total_keeps (same : weight stream = weight (calls call)) :
    total debate weight (Function.update calls call stream) = total debate weight calls := by
  refine Finset.sum_congr rfl fun other _ => ?_
  by_cases here : other = call
  · subst here
    rw [Function.update_self, same]
  · rw [Function.update_of_ne here]

end Totals

/-- Steps `Run` still has to take, spawning apart. -/
def mainRank (debate : Debate count) : Main → Nat
  | .spawning round _ => 2 * (debate.rounds - round) + 5
  | .announcing round => 2 * (debate.rounds - round) + 4
  | .moderating => 2
  | .returning => 1
  | .closed => 0

/-- Steps until the call has been made. -/
def unmade (stream : Streaming) : Nat :=
  match stream.pc with
  | .idle => 2
  | .calling => 1
  | _ => 0

def pcWeight : Pc → Nat
  | .receiving => 2
  | .emitting _ true => 3
  | .emitting _ false => 1
  | _ => 0

def sourceWeight : Producer → Nat
  | .absent => 0
  | .reading pending => 4 * pending.length + 4
  | .sending event pending => if event.err.isSome then 2 else 4 * pending.length + 6
  | .closing => 1
  | .closed => 0

/-- Bounds what an activation and its provider goroutine can still do. -/
def weight (stream : Streaming) : Nat := pcWeight stream.pc + sourceWeight stream.source

theorem weight_produce {source moved : Producer} (produced : source.produce = some moved) :
    sourceWeight moved < sourceWeight source := by
  cases source with
  | reading pending =>
      cases pending with
      | nil => cases produced; simp [sourceWeight]
      | cons event rest =>
          cases produced
          simp only [sourceWeight, List.length_cons]
          split <;> omega
  | closing => cases produced; simp [sourceWeight]
  | absent => cases produced
  | sending event pending => cases produced
  | closed => cases produced

theorem weight_lose {source moved : Producer} (lost : source.lose = some moved) :
    sourceWeight moved < sourceWeight source := by
  cases source <;> cases lost
  simp only [sourceWeight, Option.isSome_some, if_true]
  omega

theorem weight_abort {source moved : Producer} (aborted : source.abort = some moved) :
    sourceWeight moved < sourceWeight source := by
  cases source <;> cases aborted
  simp only [sourceWeight]
  split <;> omega

/-- Making the call brings it nearer to an end; every later step lowers what
is left of it. -/
theorem falls_of_advanced {debate : Debate count} {cancelled : Bool}
    {transcript : Transcripts.Transcript} {call : Call count} {before after : Streaming}
    {action : StreamAction} {events : List Event}
    (advanced : Advanced debate cancelled transcript call before action after events) :
    unmade after < unmade before ∨
      unmade after = unmade before ∧ weight after < weight before := by
  cases advanced with
  | refused calls answer => exact .inl (by simp [unmade, calls])
  | started calls answer => exact .inl (by simp [unmade, calls])
  | produced moved =>
      exact .inr ⟨rfl, Nat.add_lt_add_left (weight_produce moved) _⟩
  | lost done moved => exact .inr ⟨rfl, Nat.add_lt_add_left (weight_lose moved) _⟩
  | aborted done moved => exact .inr ⟨rfl, Nat.add_lt_add_left (weight_abort moved) _⟩
  | @failed event pending reason receives offered error =>
      refine .inr ⟨by simp [unmade, receives], ?_⟩
      simp [weight, receives, offered, error, pcWeight, sourceWeight, Producer.sent]
  | @spoke event pending receives offered delta =>
      refine .inr ⟨by simp [unmade, receives], ?_⟩
      simp only [weight, receives, offered, delta, pcWeight, sourceWeight, Producer.sent,
        Option.isSome_none, Bool.false_eq_true, if_false]
      omega
  | drained receives ended =>
      exact .inr ⟨by simp [unmade, receives], by simp [weight, receives, pcWeight]⟩
  | @sent event more emits =>
      refine .inr ⟨?_, ?_⟩
      · cases more <;> simp [unmade, emits]
      · cases more <;> simp [weight, emits, pcWeight]
  | @dropped event more done emits =>
      refine .inr ⟨by simp [unmade, emits], ?_⟩
      cases more <;> simp [weight, emits, pcWeight]

/-- The calls to make come before what the calls made have left to do. -/
def rank (debate : Debate count) (state : State count) : Nat × Nat :=
  ((if state.cancelled then 0 else 1) + mainRank debate state.main +
      total debate unmade state.calls,
    total debate weight state.calls)

theorem first_falls {first second first' second' : Nat} (less : first' < first) :
    WellFoundedRelation.rel (first', second') (first, second) :=
  Prod.Lex.left _ _ less

theorem second_falls {first second second' : Nat} (less : second' < second) :
    WellFoundedRelation.rel (first, second') (first, second) :=
  Prod.Lex.right _ less

theorem rank_falls (debate : Debate count) (before after : State count)
    (action : Action count) (shape : Shape debate before)
    (taken : step debate before action = some after) :
    WellFoundedRelation.rel (rank debate after) (rank debate before) := by
  have bounded := shape.bounded
  have staged := shape.staged
  cases moves_of_step debate before after action taken with
  | cancel fresh =>
      apply first_falls
      simp only [fresh, Bool.false_eq_true, if_true, if_false]
      omega
  -- the call was idle, so there is one less to make
  | @spawn round seat at_ room =>
      refine first_falls (Nat.add_lt_add_of_le_of_lt ?_ (total_falls (mem_roster ?_) ?_))
      · rw [at_]
        exact le_refl _
      · rw [at_] at bounded
        exact ⟨bounded.1, bounded.2.1⟩
      · have ahead := staged ⟨round, some seat⟩
        rw [at_] at ahead
        simp only [stage, le_refl, and_true, or_true, if_true, Stage.Fits] at ahead
        simp [unmade, ahead]
  -- `Run` itself moves on
  | wait at_ done =>
      apply first_falls
      simp only [at_, mainRank]
      omega
  | another at_ left =>
      apply first_falls
      simp only [at_, mainRank]
      omega
  -- `Run` moves on and makes the moderator's call
  | last at_ over_ =>
      refine first_falls (Nat.add_lt_add_of_lt_of_le ?_ ?_)
      · simp only [at_, mainRank]
        omega
      · have ahead := staged ⟨debate.rounds + 1, none⟩
        rw [at_] at ahead
        have made : Makes debate ⟨debate.rounds + 1, none⟩ := rfl
        refine (total_falls (mem_roster made) ?_).le
        rw [Stage.Fits.eq_def] at ahead
        simp only [stage] at ahead
        simp [unmade, ahead]
  | quit at_ done =>
      apply first_falls
      simp only [at_, mainRank]
      omega
  | close due =>
      apply first_falls
      rcases due with at_ | ⟨at_, _⟩
      · simp only [at_, mainRank]
        omega
      · simp only [at_, mainRank]
        omega
  | @stream call action stream events advanced =>
      have begun := begun_of_advanced advanced (shape.coherent call)
      have member : call ∈ roster debate := mem_roster (shape.ranged call begun)
      rcases falls_of_advanced advanced with sooner | ⟨same, lighter⟩
      · exact first_falls (Nat.add_lt_add_left (total_falls member sooner) _)
      · unfold rank
        rw [total_keeps same]
        exact second_falls (total_falls member lighter)

section Progress
variable {debate : Debate count} {state : State count}

/-- A cancelled activation or provider goroutine that has not ended can go on
without a receiver: the select of `emit` takes `ctx.Done()`, the interrupted
read returns, and a receiving activation has a producer. -/
theorem advance_cancelled (debate : Debate count) (transcript : Transcripts.Transcript)
    (call : Call count) {stream : Streaming} (coherent : Coherent stream)
    (open_ : stream.pc.running = true ∨ stream.source.alive = true) :
    ∃ action, action ≠ .send ∧
      (advance debate true transcript call stream action).isSome = true := by
  by_cases calls : stream.pc = .calling
  · refine ⟨.start, by simp, ?_⟩
    simp only [advance, calls]
    split <;> rfl
  -- the select of `emit` has its other arm
  by_cases emits : ∃ event more, stream.pc = .emitting event more
  · obtain ⟨event, more, emits⟩ := emits
    exact ⟨.drop, by simp, by simp [advance, emits]⟩
  cases source : stream.source with
  | reading pending => exact ⟨.lose, by simp, by simp [advance, source, Producer.lose]⟩
  | sending event pending => exact ⟨.abort, by simp, by simp [advance, source, Producer.abort]⟩
  | closing => exact ⟨.produce, by simp, by simp [advance, source, Producer.produce]⟩
  | absent =>
      rw [source] at open_
      cases pc : stream.pc with
      | idle => simp [pc, Pc.running, Producer.alive] at open_
      | calling => exact absurd pc calls
      | receiving =>
          rw [Coherent, pc] at coherent
          exact absurd source coherent.1
      | emitting event more => exact absurd ⟨event, more, pc⟩ emits
      | finished => simp [pc, Pc.running, Producer.alive] at open_
  | closed =>
      rw [source] at open_
      cases pc : stream.pc with
      | idle => simp [pc, Pc.running, Producer.alive] at open_
      | calling => exact absurd pc calls
      | receiving => exact ⟨.drain, by simp, by simp [advance, pc, source]⟩
      | emitting event more => exact absurd ⟨event, more, pc⟩ emits
      | finished => simp [pc, Pc.running, Producer.alive] at open_

/-- With a receiver and without cancellation an activation goes on as well,
unless its producer was left behind. -/
theorem advance_served (debate : Debate count) (transcript : Transcripts.Transcript)
    (call : Call count) {stream : Streaming} (cancelled : Bool) (coherent : Coherent stream)
    (attended : stream.pc.running = false → stream.source.inFlight = false)
    (open_ : stream.pc.running = true ∨ stream.source.alive = true) :
    ∃ action, (advance debate cancelled transcript call stream action).isSome = true := by
  cases pc : stream.pc with
  | calling =>
      refine ⟨.start, ?_⟩
      simp only [advance, pc]
      split <;> rfl
  | emitting event more => exact ⟨.send, by simp [advance, pc]⟩
  | receiving =>
      cases source : stream.source with
      | absent =>
          rw [Coherent, pc] at coherent
          exact absurd source coherent.1
      | reading pending =>
          refine ⟨.produce, ?_⟩
          cases pending <;> simp [advance, source, Producer.produce]
      | sending event pending =>
          refine ⟨.pass, ?_⟩
          simp only [advance, pc, source]
          split <;> rfl
      | closing => exact ⟨.produce, by simp [advance, source, Producer.produce]⟩
      | closed => exact ⟨.drain, by simp [advance, pc, source]⟩
  | idle =>
      rw [Coherent, pc] at coherent
      simp [coherent, Pc.running, Producer.alive] at open_
  | finished =>
      have left := attended (by rw [pc]; rfl)
      cases source : stream.source with
      | absent => simp [pc, source, Pc.running, Producer.alive] at open_
      | reading pending => simp [source, Producer.inFlight] at left
      | sending event pending => simp [source, Producer.inFlight] at left
      | closing => exact ⟨.produce, by simp [advance, source, Producer.produce]⟩
      | closed => simp [pc, source, Pc.running, Producer.alive] at open_

/-- Where every call is at rest, `Run` itself can go on, and it needs a
receiver only at a round's end that was not cancelled. -/
theorem main_goes_on (shape : Shape debate state)
    (still : ∀ call, (state.calls call).pc.running = false) (open_ : state.main ≠ .closed) :
    ∃ action, action ≠ .cancel ∧ (state.cancelled = true → action.sends = false) ∧
      (step debate state action).isSome = true := by
  have bounded := shape.bounded
  have staged := shape.staged
  cases at_ : state.main with
  | spawning round next =>
      have quiet : state.running round = 0 :=
        (not_running_iff state round).mpr fun seat => still _
      rw [at_] at bounded
      rcases Nat.lt_or_eq_of_le bounded.2.2 with vacant | full
      · refine ⟨.spawn, by simp, fun _ => rfl, ?_⟩
        simp [step, at_, vacant, quiet, debate.positive]
      · exact ⟨.wait, by simp, fun _ => rfl, by simp [step, at_, full, quiet]⟩
  | announcing round =>
      by_cases cancelled : state.cancelled = true
      · exact ⟨.quit, by simp, fun _ => rfl, by simp [step, at_, cancelled]⟩
      · exact ⟨.announce, by simp, fun now => absurd now cancelled, by simp [step, at_]⟩
  | moderating =>
      have ended : (state.calls ⟨debate.rounds + 1, none⟩).pc = .finished := by
        have fits := staged ⟨debate.rounds + 1, none⟩
        have rest := still ⟨debate.rounds + 1, none⟩
        rw [at_] at fits
        simp only [stage, if_true] at fits
        revert fits rest
        cases (state.calls ⟨debate.rounds + 1, none⟩).pc <;> simp [Pc.running, Stage.Fits]
      exact ⟨.close, by simp, fun _ => rfl, by simp [step, at_, ended]⟩
  | returning => exact ⟨.close, by simp, fun _ => rfl, by simp [step, at_]⟩
  | closed => exact absurd at_ open_

theorem unfinished_cases (unfinished : ¬ Ended state) :
    (∃ call, (state.calls call).pc.running = true ∨ (state.calls call).source.alive = true) ∨
      (∀ call, (state.calls call).pc.running = false) ∧ state.main ≠ .closed := by
  by_cases open_ : ∃ call, (state.calls call).pc.running = true ∨
      (state.calls call).source.alive = true
  · exact .inl open_
  · have quiet : ∀ call, (state.calls call).pc.running = false ∧
        (state.calls call).source.alive = false := by
      intro call
      simpa [not_or] using not_exists.mp open_ call
    exact .inr ⟨fun call => (quiet call).1, fun closed => unfinished ⟨closed, quiet⟩⟩

theorem cancelled_goes_on (shape : Shape debate state) (cancelled : state.cancelled = true)
    (unfinished : ¬ Ended state) :
    ∃ action after, action.sends = false ∧ step debate state action = some after := by
  rcases unfinished_cases unfinished with ⟨call, open_⟩ | ⟨still, open_⟩
  · obtain ⟨action, silent, enabled⟩ :=
      advance_cancelled debate state.transcript call (shape.coherent call) open_
    have stepped : (step debate state (.stream call action)).isSome = true := by
      simpa [step, cancelled] using enabled
    obtain ⟨after, taken⟩ := Option.isSome_iff_exists.mp stepped
    refine ⟨.stream call action, after, ?_, taken⟩
    cases action <;> first | rfl | exact absurd rfl silent
  · obtain ⟨action, _, silent, enabled⟩ := main_goes_on shape still open_
    obtain ⟨after, taken⟩ := Option.isSome_iff_exists.mp enabled
    exact ⟨action, after, silent cancelled, taken⟩

theorem served_goes_on (shape : Shape debate state)
    (attended : ∀ call, Attended (state.calls call)) (unfinished : ¬ Ended state) :
    ∃ action after, action ≠ .cancel ∧ step debate state action = some after := by
  rcases unfinished_cases unfinished with ⟨call, open_⟩ | ⟨still, open_⟩
  · have resting : (state.calls call).pc.running = false →
        (state.calls call).source.inFlight = false := by
      intro rest
      by_contra flying
      rcases attended call (by simpa using flying) with receives | ⟨event, emits⟩
      · rw [receives] at rest
        cases rest
      · rw [emits] at rest
        cases rest
    obtain ⟨action, enabled⟩ :=
      advance_served debate state.transcript call state.cancelled (shape.coherent call)
        resting open_
    have stepped : (step debate state (.stream call action)).isSome = true := by
      simpa [step] using enabled
    obtain ⟨after, taken⟩ := Option.isSome_iff_exists.mp stepped
    exact ⟨.stream call action, after, by simp, taken⟩
  · obtain ⟨action, kept, _, enabled⟩ := main_goes_on shape still open_
    obtain ⟨after, taken⟩ := Option.isSome_iff_exists.mp enabled
    exact ⟨action, after, kept, taken⟩

end Progress

section Close
variable {debate : Debate count} {before after : State count} {action : Action count}

theorem closed_step (shape : Shape debate before) (closed : before.main = .closed)
    (taken : step debate before action = some after) :
    after.main = .closed ∧ action.sends = false ∧ action ≠ .close := by
  cases moves_of_step debate before after action taken with
  | cancel fresh => exact ⟨closed, rfl, by simp⟩
  | spawn seat at_ room => rw [closed] at at_; cases at_
  | wait at_ done => rw [closed] at at_; cases at_
  | another at_ left => rw [closed] at at_; cases at_
  | last at_ over_ => rw [closed] at at_; cases at_
  | quit at_ done => rw [closed] at at_; cases at_
  | close due =>
      rcases due with at_ | ⟨at_, _⟩
      · rw [closed] at at_
        cases at_
      · rw [closed] at at_
        cases at_
  | @stream call action stream events advanced =>
      have settled := shape.staged call
      rw [closed] at settled
      refine ⟨closed, ?_, by simp⟩
      cases advanced with
      | sent emits =>
          rcases settled with idle | finished
          · rw [idle] at emits
            cases emits
          · rw [finished] at emits
            cases emits
      | _ => rfl

theorem closes_only_by_close (open_ : before.main ≠ .closed)
    (taken : step debate before action = some after) :
    after.main = .closed ↔ action = .close := by
  cases moves_of_step debate before after action taken with
  | close due => simp
  | cancel fresh => simpa using open_
  | stream advanced => simpa using open_
  | _ => simp

theorem closed_run (actions : List (Action count)) (shape : Shape debate before)
    (closed : before.main = .closed)
    (run : perform (step debate) always before actions = some after) :
    after.main = .closed ∧ ∀ action ∈ actions, action.sends = false ∧ action ≠ .close := by
  induction actions generalizing before with
  | nil =>
      cases run
      exact ⟨closed, by simp⟩
  | cons first rest ih =>
      obtain ⟨middle, taken, later⟩ := perform_cons run
      obtain ⟨still, silent⟩ := closed_step shape closed taken
      obtain ⟨ended, quiet⟩ := ih (shape_step debate _ _ _ taken shape) still later
      refine ⟨ended, fun action member => ?_⟩
      rcases List.mem_cons.mp member with here | inside
      · exact here ▸ silent
      · exact quiet action inside

theorem closed_once (actions : List (Action count)) (shape : Shape debate before)
    (open_ : before.main ≠ .closed)
    (run : perform (step debate) always before actions = some after) :
    actions.count .close = if after.main = .closed then 1 else 0 := by
  induction actions generalizing before with
  | nil =>
      cases run
      simp [open_]
  | cons first rest ih =>
      obtain ⟨middle, taken, later⟩ := perform_cons run
      have inside := shape_step debate _ _ _ taken shape
      by_cases close : first = .close
      · have closed := (closes_only_by_close open_ taken).mpr close
        obtain ⟨ended, quiet⟩ := closed_run rest inside closed later
        have none_ : rest.count .close = 0 :=
          List.count_eq_zero.mpr fun member => (quiet _ member).2 rfl
        rw [close, List.count_cons_self, none_, if_pos ended]
      · have still : middle.main ≠ .closed :=
          fun closed => close ((closes_only_by_close open_ taken).mp closed)
        rw [List.count_cons_of_ne close, ih inside still later]

theorem silent_after_close (earlier later : List (Action count)) (shape : Shape debate before)
    (run : perform (step debate) always before (earlier ++ .close :: later) = some after) :
    ∀ action ∈ later, action.sends = false := by
  obtain ⟨middle, first, second⟩ := perform_append run
  obtain ⟨closed, taken, last⟩ := perform_cons second
  have reached := perform_reaches _ _ _ first
  have inside : Shape debate middle :=
    reached.invariant (Shape debate) shape fun _ _ _ _ _ taken holds =>
    shape_step debate _ _ _ taken holds
  have main : closed.main = .closed := by
    cases moves_of_step debate _ _ _ taken with
    | close due => rfl
  intro action member
  exact ((closed_run later (shape_step debate _ _ _ taken inside) main last).2 action member).1

end Close

theorem run_finite {debate : Debate count} {state : State count} (shape : Shape debate state) :
    Acc (Follows (step debate)) state :=
  acc_of_rank (rank debate)
    (fun before action after holds taken => shape_step debate before after action taken holds)
    (fun before action after holds taken => rank_falls debate before after action holds taken)
    state shape

/-- `Run` always unwinds. In a cancelled state that is not over some step
needs no receiver, and such steps alone end the run; uncancelled, the same
holds of the steps a receiving consumer allows. No run is endless, `out` is
closed once, and nothing is sent on it afterwards. -/
theorem cancellation_unwinds (debate : Debate count) (cancelled : Bool)
    (actions : List (Action count)) (state : State count)
    (run : perform (step debate) always (State.initial debate cancelled) actions =
      some state) :
    (state.cancelled = true →
      (¬ Ended state →
        ∃ action after, action.sends = false ∧ step debate state action = some after) ∧
      ∃ final, Reaches (step debate) (fun _ action => action.sends = false) state final ∧
        Ended final) ∧
    (state.cancelled = false →
      (¬ Ended state →
        ∃ action after, action ≠ .cancel ∧ step debate state action = some after) ∧
      ∃ final, Reaches (step debate) (fun _ action => action ≠ .cancel) state final ∧
        Ended final) ∧
    (∀ (states : Nat → State count) (choices : Nat → Action count), states 0 = state →
      ¬ ∀ index, step debate (states index) (choices index) = some (states (index + 1))) ∧
    actions.count .close = (if state.main = .closed then 1 else 0) ∧
    ∀ earlier later, actions = earlier ++ .close :: later →
      ∀ action ∈ later, action.sends = false := by
  have reached : Reachable debate state := ⟨cancelled, perform_reaches _ _ _ run⟩
  have shape := shape_reachable reached
  have finite := run_finite shape
  refine ⟨fun now => ⟨cancelled_goes_on shape now, ?_⟩, fun not_yet => ?_, ?_, ?_, ?_⟩
  -- `ctx` stays done, so a step without a receiver is always there
  · refine completes (fun state => Shape debate state ∧ state.cancelled = true)
      ?_ (fun state holds => cancelled_goes_on holds.1 holds.2) state finite ⟨shape, now⟩
    rintro before action after ⟨inside, done⟩ _ taken
    refine ⟨shape_step debate _ _ _ taken inside, ?_⟩
    by_contra undone
    rw [uncancelled_before taken (by simpa using undone)] at done
    cases done
  -- uncancelled, every producer has its reader
  · have attended := attended_uncancelled reached not_yet
    refine ⟨served_goes_on shape attended, ?_⟩
    refine completes (fun state => Shape debate state ∧ state.cancelled = false ∧
        ∀ call, Attended (state.calls call))
      ?_ (fun state holds => served_goes_on holds.1 holds.2.2) state finite
      ⟨shape, not_yet, attended⟩
    rintro before action after ⟨inside, undone, kept⟩ useful taken
    exact ⟨shape_step debate _ _ _ taken inside, uncancelled_after taken useful undone,
      attended_uncancelled_step taken inside undone kept⟩
  · intro states choices first
    exact no_endless_run states choices (first ▸ finite)
  · refine closed_once actions (shape_initial debate cancelled) ?_ run
    unfold State.initial State.enter
    split <;> simp
  · rintro earlier later rfl
    exact silent_after_close earlier later (shape_initial debate cancelled) run

/-- Cancelled while the first token waits for a receiver. -/
theorem cancellation_unwinds_midway :
    ∃ state, perform (step duet) always (State.initial duet false)
        [.spawn, .stream ⟨1, some duet_first⟩ .start,
          .stream ⟨1, some duet_first⟩ .produce, .stream ⟨1, some duet_first⟩ .pass,
          .cancel] = some state ∧
      ∃ final, Reaches (step duet) (fun _ action => action.sends = false) state final ∧
        Ended final := by
  have enabled : ((perform (step duet) always (State.initial duet false)
      [.spawn, .stream ⟨1, some duet_first⟩ .start,
        .stream ⟨1, some duet_first⟩ .produce, .stream ⟨1, some duet_first⟩ .pass,
        .cancel]).map State.cancelled) = some true := by
    decide +kernel
  obtain ⟨state, run, cancelled⟩ := Option.map_eq_some_iff.mp enabled
  exact ⟨state, run, ((cancellation_unwinds duet false _ state run).1 cancelled).2⟩

end Council.Unwinding

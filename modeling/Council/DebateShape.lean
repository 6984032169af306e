import Council.Orchestration

/-!
What holds of every reachable state of a run, cancelled or not: the goroutine
of `Run` settles which calls are over, which may be running and which have
not been made.
-/

namespace Council.DebateShape

open Council.Machines
open Council.Provider
open Council.ServerProtocol
open Council.Orchestration

variable {count : Nat}

/-- `Reachable debate state`: some run of the debate, its context cancelled
from the start or not, reaches the state. -/
def Reachable (debate : Debate count) (state : State count) : Prop :=
  ∃ cancelled, Reaches (step debate) always (State.initial debate cancelled) state

inductive Stage where
  | ahead
  | current
  | past
  | settled
  deriving DecidableEq

/-- Where a call stands while `Run` is at `main`. -/
def stage (debate : Debate count) : Main → Call count → Stage
  | .spawning round next, ⟨own, some seat⟩ =>
      if own = 0 ∨ round < own ∨ (own = round ∧ next ≤ seat) then .ahead
      else if own = round then .current else .past
  | .announcing round, ⟨own, some _⟩ => if own = 0 ∨ round < own then .ahead else .past
  | .moderating, ⟨own, some _⟩ =>
      if own = 0 ∨ debate.rounds < own then .ahead else .past
  | .moderating, ⟨own, none⟩ => if own = debate.rounds + 1 then .current else .ahead
  | .spawning _ _, ⟨_, none⟩ => .ahead
  | .announcing _, ⟨_, none⟩ => .ahead
  | .returning, _ => .settled
  | .closed, _ => .settled

/-- Only current calls are running. -/
def Stage.Fits : Stage → Pc → Prop
  | .ahead, pc => pc = .idle
  | .current, pc => pc ≠ .idle
  | .past, pc => pc = .finished
  | .settled, pc => pc = .idle ∨ pc = .finished

/-- The fields of an activation agree with where it stands. -/
def Coherent (stream : Streaming) : Prop :=
  match stream.pc with
  | .idle => stream = {}
  | .calling => stream = { pc := .calling }
  | .receiving => stream.source ≠ .absent ∧ stream.request.isSome
  | .emitting _ true => stream.source ≠ .absent ∧ stream.request.isSome
  | .emitting _ false => stream.request.isSome
  | .finished => stream.request.isSome

/-- A stream in flight has a reader that is not done with it. -/
def Attended (stream : Streaming) : Prop :=
  stream.source.inFlight = true →
    stream.pc = .receiving ∨ ∃ event, stream.pc = .emitting event true

/-- `Run` stays within its loop. -/
def Bounded (debate : Debate count) : Main → Prop
  | .spawning round next => 1 ≤ round ∧ round ≤ debate.rounds ∧ next ≤ count
  | .announcing round => 1 ≤ round ∧ round ≤ debate.rounds
  | _ => True

/-- The calls a debate consists of. -/
def Makes (debate : Debate count) (call : Call count) : Prop :=
  match call.speaker with
  | some _ => 1 ≤ call.round ∧ call.round ≤ debate.rounds
  | none => call.round = debate.rounds + 1

/-- `earlier` is a panelist's call of a round before that of `later`. -/
def Precedes (earlier later : Call count) : Prop :=
  earlier.speaker ≠ none ∧ 1 ≤ earlier.round ∧ earlier.round < later.round

structure Shape (debate : Debate count) (state : State count) : Prop where
  bounded : Bounded debate state.main
  staged : ∀ call, (stage debate state.main call).Fits (state.calls call).pc
  ranged : ∀ call, (state.calls call).pc ≠ .idle → Makes debate call
  ordered : ∀ earlier later, Precedes earlier later → (state.calls later).pc ≠ .idle →
    (state.calls earlier).pc = .finished
  coherent : ∀ call, Coherent (state.calls call)

section Streams
variable {debate : Debate count} {cancelled : Bool} {transcript : Transcripts.Transcript}
  {call : Call count} {before after : Streaming} {action : StreamAction}
  {events : List Event}

/-- A step leaves the counter alone or was taken by a running activation,
which does not become idle. -/
theorem pc_of_advanced
    (advanced : Advanced debate cancelled transcript call before action after events) :
    after.pc = before.pc ∨ before.pc.running = true ∧ after.pc ≠ .idle := by
  cases advanced with
  | refused calls answer => exact .inr ⟨by rw [calls]; rfl, by simp⟩
  | started calls answer => exact .inr ⟨by rw [calls]; rfl, by simp⟩
  | produced moved => exact .inl rfl
  | lost done moved => exact .inl rfl
  | aborted done moved => exact .inl rfl
  | failed receives offered error => exact .inr ⟨by rw [receives]; rfl, by simp⟩
  | spoke receives offered delta => exact .inr ⟨by rw [receives]; rfl, by simp⟩
  | drained receives ended => exact .inr ⟨by rw [receives]; rfl, by simp⟩
  | sent emits =>
      refine .inr ⟨by rw [emits]; rfl, ?_⟩
      dsimp only
      split <;> simp
  | dropped done emits => exact .inr ⟨by rw [emits]; rfl, by simp⟩

theorem fits_of_advanced {stage : Stage}
    (advanced : Advanced debate cancelled transcript call before action after events)
    (fits : stage.Fits before.pc) : stage.Fits after.pc := by
  rcases pc_of_advanced advanced with same | ⟨running, begun⟩
  · rwa [same]
  · cases stage with
    | ahead => rw [Stage.Fits] at fits; simp [fits, Pc.running] at running
    | current => exact begun
    | past => rw [Stage.Fits] at fits; simp [fits, Pc.running] at running
    | settled =>
        rcases fits with idle | finished
        · simp [idle, Pc.running] at running
        · simp [finished, Pc.running] at running

theorem produce_present {source moved : Producer} (produced : source.produce = some moved) :
    source ≠ .absent ∧ moved ≠ .absent := by
  cases source with
  | reading pending =>
      cases pending <;> cases produced <;> simp
  | closing => cases produced; simp
  | absent => cases produced
  | sending event pending => cases produced
  | closed => cases produced

theorem lose_present {source moved : Producer} (lost : source.lose = some moved) :
    source ≠ .absent ∧ moved ≠ .absent := by
  cases source <;> cases lost
  simp

theorem abort_present {source moved : Producer} (aborted : source.abort = some moved) :
    source ≠ .absent ∧ moved ≠ .absent := by
  cases source <;> cases aborted
  simp

theorem sent_present (event : StreamEvent) (pending : List StreamEvent) :
    Producer.sent event pending ≠ .absent := by
  unfold Producer.sent
  split <;> simp

/-- Another state of a provider goroutine that runs keeps an activation
coherent. -/
theorem coherent_source {stream : Streaming} {source : Producer}
    (coherent : Coherent stream) (present : stream.source ≠ .absent)
    (still : source ≠ .absent) : Coherent { stream with source := source } := by
  unfold Coherent at coherent ⊢
  cases pc : stream.pc with
  | idle => rw [pc] at coherent; rw [coherent] at present; exact absurd rfl present
  | calling => rw [pc] at coherent; rw [coherent] at present; exact absurd rfl present
  | receiving => rw [pc] at coherent; exact ⟨still, coherent.2⟩
  | emitting event more =>
      rw [pc] at coherent
      cases more with
      | true => exact ⟨still, coherent.2⟩
      | false => exact coherent
  | finished => rw [pc] at coherent; exact coherent

theorem coherent_of_advanced
    (advanced : Advanced debate cancelled transcript call before action after events)
    (coherent : Coherent before) : Coherent after := by
  cases advanced with
  | refused calls answer => exact rfl
  | started calls answer => exact ⟨by simp, rfl⟩
  | produced moved =>
      obtain ⟨present, still⟩ := produce_present moved
      exact coherent_source coherent present still
  | lost done moved =>
      obtain ⟨present, still⟩ := lose_present moved
      exact coherent_source coherent present still
  | aborted done moved =>
      obtain ⟨present, still⟩ := abort_present moved
      exact coherent_source coherent present still
  | failed receives offered error =>
      simp only [Coherent, receives] at coherent
      exact coherent.2
  | spoke receives offered delta =>
      simp only [Coherent, receives] at coherent
      exact ⟨sent_present _ _, coherent.2⟩
  | drained receives ended =>
      simp only [Coherent, receives] at coherent
      exact coherent.2
  | @sent event more emits =>
      simp only [Coherent, emits] at coherent
      cases more with
      | true => exact coherent
      | false => exact coherent
  | @dropped event more done emits =>
      simp only [Coherent, emits] at coherent
      cases more with
      | true => exact coherent.2
      | false => exact coherent

theorem sent_failed {event : StreamEvent} {reason : String} (error : event.err = some reason)
    (pending : List StreamEvent) : (Producer.sent event pending).inFlight = false := by
  simp [Producer.sent, error, Producer.inFlight]

theorem attended_of_advanced
    (advanced : Advanced debate cancelled transcript call before action after events)
    (coherent : Coherent before) (attended : Attended before)
    (kept : action = .drop → before.source.inFlight = false) : Attended after := by
  cases advanced with
  | refused calls answer =>
      rw [Coherent, calls] at coherent
      intro flying
      rw [coherent] at flying
      cases flying
  | started calls answer => exact fun _ => .inl rfl
  | @produced source moved =>
      intro flying
      apply attended
      cases known : before.source with
      | reading pending => rfl
      | closing => rw [known] at moved; cases moved; cases flying
      | absent => rw [known] at moved; cases moved
      | sending event pending => rfl
      | closed => rw [known] at moved; cases moved
  | @lost source done moved =>
      intro flying
      apply attended
      cases known : before.source <;> rw [known] at moved <;> cases moved
      rfl
  | @aborted source done moved =>
      intro flying
      cases known : before.source <;> rw [known] at moved <;> cases moved
      cases flying
  | failed receives offered error =>
      intro flying
      rw [sent_failed error] at flying
      cases flying
  | spoke receives offered delta => exact fun _ => .inr ⟨_, rfl⟩
  | drained receives ended =>
      intro flying
      rw [ended] at flying
      cases flying
  | @sent event more emits =>
      intro flying
      cases more with
      | true => exact .inl rfl
      | false =>
          rcases attended flying with receives | ⟨other, emitting⟩
          · rw [emits] at receives
            cases receives
          · rw [emits] at emitting
            cases emitting
  | dropped done emits =>
      intro flying
      rw [kept rfl] at flying
      cases flying

theorem begun_of_advanced
    (advanced : Advanced debate cancelled transcript call before action after events)
    (coherent : Coherent before) : before.pc ≠ .idle := by
  intro idle
  rw [Coherent, idle] at coherent
  subst coherent
  cases advanced with
  | refused calls answer => cases calls
  | started calls answer => cases calls
  | produced moved => cases moved
  | lost done moved => cases moved
  | aborted done moved => cases moved
  | failed receives offered error => cases receives
  | spoke receives offered delta => cases receives
  | drained receives ended => cases receives
  | sent emits => cases emits
  | dropped done emits => cases emits

end Streams

section Main
variable {debate : Debate count} {state : State count}

theorem forall_update (holds : Call count → Streaming → Prop)
    {calls : Call count → Streaming} {call : Call count} {stream : Streaming}
    (here : holds call stream) (others : ∀ other, other ≠ call → holds other (calls other)) :
    ∀ other, holds other (Function.update calls call stream other) :=
  (Function.forall_update_iff calls holds).mpr ⟨here, others⟩

theorem not_running_iff (state : State count) (round : Nat) :
    state.running round = 0 ↔
      ∀ seat, (state.calls ⟨round, some seat⟩).pc.running = false := by
  simp [State.running, List.countP_eq_zero]

theorem stage_spawned (round : Nat) (seat : Fin count) (call : Call count)
    (other : call ≠ ⟨round, some seat⟩) :
    stage debate (.spawning round (seat + 1)) call =
      stage debate (.spawning round seat) call := by
  obtain ⟨own, speaker⟩ := call
  cases speaker with
  | none => rfl
  | some own_seat =>
      have apart : ¬ (own = round ∧ own_seat.val = seat.val) := by
        rintro ⟨rfl, same⟩
        exact other (by rw [Fin.ext same])
      simp only [stage]
      congr 1
      exact propext (by omega)

theorem fits_waited (shape : Shape debate state) {round : Nat}
    (at_ : state.main = .spawning round count) (done : state.running round = 0)
    (call : Call count) :
    (stage debate (.announcing round) call).Fits (state.calls call).pc := by
  have fits := shape.staged call
  obtain ⟨positive, within, _⟩ : Bounded debate (.spawning round count) := at_ ▸ shape.bounded
  rw [at_] at fits
  obtain ⟨own, speaker⟩ := call
  cases speaker with
  | none => exact fits
  | some seat =>
      have inside := seat.isLt
      simp only [stage] at fits ⊢
      by_cases ahead : own = 0 ∨ round < own
      · rw [if_pos (by omega)] at fits
        rwa [if_pos ahead]
      · rw [if_neg (by omega)] at fits
        rw [if_neg ahead]
        by_cases here : own = round
        · subst here
          rw [if_pos rfl] at fits
          have still := (not_running_iff state own).mp done seat
          change (state.calls ⟨own, some seat⟩).pc ≠ .idle at fits
          change (state.calls ⟨own, some seat⟩).pc = .finished
          revert fits still
          cases (state.calls ⟨own, some seat⟩).pc <;> simp [Pc.running]
        · rwa [if_neg here] at fits

theorem stage_another (round : Nat) (call : Call count) :
    stage debate (.spawning (round + 1) 0) call =
      stage debate (.announcing round) call := by
  obtain ⟨own, speaker⟩ := call
  cases speaker with
  | none => rfl
  | some seat =>
      simp only [stage]
      by_cases ahead : own = 0 ∨ round < own
      · rw [if_pos ahead, if_pos (by omega)]
      · rw [if_neg ahead, if_neg (by omega), if_neg (by omega)]

theorem stage_last (call : Call count) (other : call ≠ ⟨debate.rounds + 1, none⟩) :
    stage debate .moderating call = stage debate (.announcing debate.rounds) call := by
  obtain ⟨own, speaker⟩ := call
  cases speaker with
  | none =>
      have apart : own ≠ debate.rounds + 1 := fun same => other (by rw [same])
      simp only [stage]
      rw [if_neg apart]
  | some seat => rfl

theorem settled_of_announcing {round : Nat} {call : Call count} {pc : Pc}
    (fits : (stage debate (.announcing round) call).Fits pc) :
    Stage.settled.Fits pc := by
  obtain ⟨own, speaker⟩ := call
  cases speaker with
  | none => exact .inl fits
  | some seat =>
      simp only [stage] at fits
      split at fits
      · exact .inl fits
      · exact .inr fits

theorem settled_of_moderating {call : Call count} {pc : Pc}
    (fits : (stage debate .moderating call).Fits pc)
    (finished : call = ⟨debate.rounds + 1, none⟩ → pc = .finished) :
    Stage.settled.Fits pc := by
  by_cases moderator : call = ⟨debate.rounds + 1, none⟩
  · exact .inr (finished moderator)
  · rw [stage_last call moderator] at fits
    exact settled_of_announcing fits

theorem shape_calling {before after : State count} (call : Call count)
    (shape : Shape debate before) (bounded : Bounded debate after.main)
    (calls : after.calls = Function.update before.calls call { pc := .calling })
    (idle : (before.calls call).pc = .idle) (made : Makes debate call)
    (done : ∀ earlier, Precedes earlier call → (before.calls earlier).pc = .finished)
    (staged : ∀ other, other ≠ call →
      (stage debate after.main other).Fits (before.calls other).pc)
    (becomes : stage debate after.main call = .current) : Shape debate after := by
  refine ⟨bounded, ?_, ?_, ?_, ?_⟩
  · rw [calls]
    refine forall_update (fun other stream => (stage debate after.main other).Fits stream.pc)
      ?_ staged
    rw [becomes]
    simp [Stage.Fits]
  · rw [calls]
    exact forall_update (fun other stream => stream.pc ≠ .idle → Makes debate other)
      (fun _ => made) fun other _ => shape.ranged other
  · intro earlier later precedes begun
    have apart : earlier ≠ call := by
      rintro rfl
      -- a later call was made before this one
      have different : later ≠ earlier := by
        rintro rfl
        exact absurd precedes.2.2 (Nat.lt_irrefl _)
      rw [calls, Function.update_of_ne different] at begun
      rw [shape.ordered earlier later precedes begun] at idle
      cases idle
    rw [calls, Function.update_of_ne apart]
    by_cases here : later = call
    · exact done earlier (here ▸ precedes)
    · rw [calls, Function.update_of_ne here] at begun
      exact shape.ordered earlier later precedes begun
  · rw [calls]
    exact forall_update (fun _ stream => Coherent stream) rfl
      fun other _ => shape.coherent other

theorem shape_moved {before after : State count} (shape : Shape debate before)
    (bounded : Bounded debate after.main) (calls : after.calls = before.calls)
    (staged : ∀ call, (stage debate after.main call).Fits (before.calls call).pc) :
    Shape debate after :=
  ⟨bounded, fun call => by rw [calls]; exact staged call,
    fun call => by rw [calls]; exact shape.ranged call,
    fun earlier later => by rw [calls]; exact shape.ordered earlier later,
    fun call => by rw [calls]; exact shape.coherent call⟩

theorem past_of_spawning {round next : Nat} {earlier : Call count}
    (speaks : earlier.speaker ≠ none) (low : 1 ≤ earlier.round) (high : earlier.round < round) :
    stage debate (.spawning round next) earlier = .past := by
  obtain ⟨own, speaker⟩ := earlier
  cases speaker with
  | none => exact absurd rfl speaks
  | some seat =>
      dsimp only at low high
      simp only [stage]
      rw [if_neg (by omega), if_neg (by omega)]

theorem past_of_announcing {round : Nat} {earlier : Call count}
    (speaks : earlier.speaker ≠ none) (low : 1 ≤ earlier.round) (high : earlier.round ≤ round) :
    stage debate (.announcing round) earlier = .past := by
  obtain ⟨own, speaker⟩ := earlier
  cases speaker with
  | none => exact absurd rfl speaks
  | some seat =>
      dsimp only at low high
      simp only [stage]
      rw [if_neg (by omega)]

end Main

theorem shape_blank (debate : Debate count) (cancelled : Bool) :
    Shape debate ⟨cancelled, .returning, {}, fun _ => {}, []⟩ :=
  ⟨trivial, fun _ => .inl rfl, fun _ begun => absurd rfl begun,
    fun _ _ _ begun => absurd rfl begun, fun _ => rfl⟩

theorem shape_initial (debate : Debate count) (cancelled : Bool) :
    Shape debate (State.initial debate cancelled) := by
  have ahead : ∀ call : Call count, (stage debate (.announcing 0) call).Fits Pc.idle := by
    rintro ⟨own, speaker⟩
    cases speaker with
    | none => rfl
    | some seat =>
        simp only [stage]
        rw [if_pos (by omega)]
        rfl
  have blank := shape_blank debate cancelled
  unfold State.initial State.enter
  split
  · rename_i one
    refine shape_moved blank ⟨le_refl _, one, Nat.zero_le _⟩ rfl fun call => ?_
    rw [stage_another 0]
    exact ahead call
  · rename_i none_
    have zero : debate.rounds = 0 := by omega
    refine shape_calling ⟨debate.rounds + 1, none⟩ blank trivial rfl rfl rfl ?_
      (fun other different => ?_) (by simp [stage])
    · rintro earlier ⟨_, low, high⟩
      dsimp only at high
      omega
    · rw [stage_last other different, zero]
      exact ahead other

theorem shape_step (debate : Debate count) (before after : State count)
    (action : Action count) (taken : step debate before action = some after)
    (shape : Shape debate before) : Shape debate after := by
  have bounded := shape.bounded
  have staged := shape.staged
  cases moves_of_step debate before after action taken with
  | cancel fresh => exact shape_moved shape bounded rfl staged
  -- the calls of earlier rounds are over when this one is made
  | @spawn round seat at_ room =>
      rw [at_] at bounded staged
      obtain ⟨positive, within, _⟩ := bounded
      have inside := seat.isLt
      refine shape_calling ⟨round, some seat⟩ shape ⟨positive, within, inside⟩ rfl ?_
        ⟨positive, within⟩ (fun earlier precedes => ?_) (fun other different => ?_) ?_
      · have ahead := staged ⟨round, some seat⟩
        simp only [stage, le_refl, and_true, or_true, if_true] at ahead
        exact ahead
      · have past := staged earlier
        rwa [past_of_spawning precedes.1 precedes.2.1 precedes.2.2] at past
      · rw [stage_spawned round seat other different]
        exact staged other
      · simp only [stage]
        rw [if_neg (by omega), if_pos trivial]
  | @wait round at_ done =>
      rw [at_] at bounded
      exact shape_moved shape ⟨bounded.1, bounded.2.1⟩ rfl (fits_waited shape at_ done)
  | @another round at_ left =>
      rw [at_] at staged
      refine shape_moved shape ⟨by omega, left, Nat.zero_le _⟩ rfl fun call => ?_
      rw [stage_another round call]
      exact staged call
  -- the moderator is called after every panelist of every round
  | @last round at_ over_ =>
      rw [at_] at bounded staged
      have full : round = debate.rounds := le_antisymm bounded.2 over_
      refine shape_calling ⟨debate.rounds + 1, none⟩ shape trivial rfl
        (staged ⟨debate.rounds + 1, none⟩) rfl (fun earlier precedes => ?_)
        (fun other different => ?_) (by simp [stage])
      · have past := staged earlier
        have high : earlier.round ≤ round := full ▸ Nat.le_of_lt_succ precedes.2.2
        rwa [past_of_announcing precedes.1 precedes.2.1 high] at past
      · rw [stage_last other different, ← full]
        exact staged other
  | @quit round at_ done =>
      rw [at_] at staged
      exact shape_moved shape trivial rfl fun call => settled_of_announcing (staged call)
  | close due =>
      refine shape_moved shape trivial rfl fun call => ?_
      rcases due with at_ | ⟨at_, ended⟩
      · rw [at_] at staged
        exact staged call
      · rw [at_] at staged
        exact settled_of_moderating (staged call) fun same => same ▸ ended
  | @stream call action stream events advanced =>
      have begun := begun_of_advanced advanced (shape.coherent call)
      refine ⟨bounded, ?_, ?_, ?_, ?_⟩
      · exact forall_update (fun other stream => (stage debate before.main other).Fits stream.pc)
          (fits_of_advanced advanced (staged call)) fun other _ => staged other
      · exact forall_update (fun other stream => stream.pc ≠ .idle → Makes debate other)
          (fun _ => shape.ranged call begun) fun other _ => shape.ranged other
      -- the call that moves has begun, so it orders nothing new
      · intro earlier later precedes started
        dsimp only at started ⊢
        have first : (before.calls later).pc ≠ .idle := by
          by_cases here : later = call
          · exact here ▸ begun
          · rwa [Function.update_of_ne here] at started
        have finished := shape.ordered earlier later precedes first
        by_cases here : earlier = call
        · subst here
          rw [Function.update_self]
          rcases pc_of_advanced advanced with same | ⟨running, _⟩
          · rw [same, finished]
          · rw [finished] at running
            cases running
        · rwa [Function.update_of_ne here]
      · exact forall_update (fun _ stream => Coherent stream)
          (coherent_of_advanced advanced (shape.coherent call))
          fun other _ => shape.coherent other

theorem shape_reachable {debate : Debate count} {state : State count}
    (reachable : Reachable debate state) : Shape debate state := by
  obtain ⟨cancelled, reached⟩ := reachable
  exact reached.invariant (Shape debate) (shape_initial debate cancelled)
    fun before action after _ _ taken shape => shape_step debate before after action taken shape

theorem attended_initial (debate : Debate count) (cancelled : Bool) (call : Call count) :
    Attended ((State.initial debate cancelled).calls call) := by
  unfold State.initial State.enter
  split
  · exact fun flying => by cases flying
  · refine forall_update (fun _ stream => Attended stream) (fun flying => ?_)
      (fun _ _ flying => ?_) call
    · cases flying
    · cases flying

theorem attended_step {debate : Debate count} {before after : State count}
    {action : Action count} (taken : step debate before action = some after)
    (shape : Shape debate before)
    (kept : ∀ call, action = .stream call .drop → (before.calls call).source.inFlight = false)
    (attended : ∀ call, Attended (before.calls call)) (call : Call count) :
    Attended (after.calls call) := by
  have fresh : Attended { pc := .calling } := fun flying => by cases flying
  cases moves_of_step debate before after action taken with
  | spawn seat at_ room =>
      exact forall_update (fun _ stream => Attended stream) fresh (fun other _ => attended other)
        call
  | last at_ over_ =>
      exact forall_update (fun _ stream => Attended stream) fresh (fun other _ => attended other)
        call
  | @stream moved action stream events advanced =>
      refine forall_update (fun _ stream => Attended stream) ?_ (fun other _ => attended other)
        call
      exact attended_of_advanced advanced (shape.coherent moved) (attended moved)
        fun drop => kept moved (by rw [drop])
  | _ => exact attended call

theorem uncancelled_before {debate : Debate count} {before after : State count}
    {action : Action count} (taken : step debate before action = some after)
    (uncancelled : after.cancelled = false) : before.cancelled = false := by
  cases moves_of_step debate before after action taken with
  | cancel fresh => exact fresh
  | _ => exact uncancelled

theorem uncancelled_after {debate : Debate count} {before after : State count}
    {action : Action count} (taken : step debate before action = some after)
    (kept : action ≠ .cancel) (uncancelled : before.cancelled = false) :
    after.cancelled = false := by
  cases moves_of_step debate before after action taken with
  | cancel fresh => exact absurd rfl kept
  | _ => exact uncancelled

theorem cancelled_of_drop {debate : Debate count} {before after : State count}
    {call : Call count} (taken : step debate before (.stream call .drop) = some after) :
    before.cancelled = true := by
  cases moves_of_step debate before after _ taken with
  | stream advanced =>
      cases advanced with
      | dropped done emits => exact done

theorem attended_uncancelled_step {debate : Debate count} {before after : State count}
    {action : Action count} (taken : step debate before action = some after)
    (shape : Shape debate before) (uncancelled : before.cancelled = false)
    (attended : ∀ call, Attended (before.calls call)) (call : Call count) :
    Attended (after.calls call) := by
  refine attended_step taken shape (fun other drop => ?_) attended call
  subst drop
  rw [cancelled_of_drop taken] at uncancelled
  cases uncancelled

theorem attended_uncancelled {debate : Debate count} {state : State count}
    (reachable : Reachable debate state) (uncancelled : state.cancelled = false) :
    ∀ call, Attended (state.calls call) := by
  obtain ⟨cancelled, reached⟩ := reachable
  refine reached.invariant (fun state => state.cancelled = false →
    ∀ call, Attended (state.calls call)) (fun _ => attended_initial debate cancelled) ?_
    uncancelled
  intro before action after earlier _ taken holds uncancelled
  have first := uncancelled_before taken uncancelled
  exact attended_uncancelled_step taken (shape_reachable ⟨cancelled, earlier⟩) first (holds first)

end Council.DebateShape

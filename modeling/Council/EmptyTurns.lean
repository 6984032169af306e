import Council.DebateContent

/-!
Turns without content. A panelist whose stream of a round yields no text is
skipped when its answer is rendered for the others, but its own next request
still carries an empty assistant turn.
-/

namespace Council.EmptyTurns

open Council.Machines
open Council.Provider
open Council.ServerProtocol
open Council.Transcripts
open Council.Orchestration
open Council.DebateShape
open Council.HeardRounds
open Council.DebateContent

variable {count : Nat}

/-- Every message of every request made so far says something. -/
def FilledTurns (state : State count) : Prop :=
  ∀ call request, (state.calls call).request = some request →
    ∀ turn ∈ request.messageHistory, turn.message ≠ ""

/-- A panelist that calls again has said something in the round before. -/
def HadSpoken (state : State count) (action : Action count) : Prop :=
  match action with
  | .stream ⟨round, some seat⟩ .start =>
      1 < round → (state.calls ⟨round - 1, some seat⟩).text ≠ ""
  | _ => True

instance (state : State count) (action : Action count) :
    Decidable (HadSpoken state action) := by
  unfold HadSpoken
  split <;> infer_instance

theorem append_ne_empty {first second : String} (filled : first ≠ "") :
    first ++ second ≠ "" :=
  fun empty => filled (String.append_eq_empty_iff.mp empty).1

section Requests
variable {debate : Debate count} {state before after : State count}

/-- The one message of a request that can be empty is the panelist's own last
answer. -/
theorem filled_iff (question : debate.question ≠ "")
    (distinct : Function.Injective fun seat => (debate.personas seat).id)
    (reachable : Reachable debate state) {round : Nat} {seat : Fin count} {request : Request}
    (asked : (state.calls ⟨round, some seat⟩).request = some request) :
    (∀ turn ∈ request.messageHistory, turn.message ≠ "") ↔
      (1 < round → (state.calls ⟨round - 1, some seat⟩).text ≠ "") := by
  rw [(hears_reachable reachable).asked _ _ asked]
  by_cases later : 1 < round
  · obtain ⟨earlier, rfl⟩ := Nat.exists_eq_add_of_le' later
    have history := buildRequest_history debate distinct
      (fun seat => (state.calls ⟨earlier + 1, some seat⟩).text)
      (heard debate state earlier) (earlier + 1) (earlier + 2) seat later
    have instructed : instruction (earlier + 2) ≠ "" := by
      unfold instruction
      split <;> decide
    have prior : heard debate state (earlier + 2 - 1) =
        (heard debate state earlier).append
          { number := earlier + 1
            answers := List.ofFn (answerOf debate fun seat =>
              (state.calls ⟨earlier + 1, some seat⟩).text) } :=
      heard_succ debate state earlier
    simp only [Debate.request, prior, history, List.forall_mem_cons, question, later,
      append_ne_empty (append_ne_empty instructed), ne_eq, not_false_eq_true, true_and,
      List.not_mem_nil, false_implies, implies_true, and_true, forall_true_left]
    rfl
  · have first :
        (debate.request (heard debate state (round - 1)) ⟨round, some seat⟩).messageHistory =
          [⟨.user, debate.question⟩] := by
      simp only [Debate.request, buildRequest]
      rw [if_neg later]
    simp [first, later, question]

theorem moderator_filled (question : debate.question ≠ "") (prior : Transcript) (round : Nat) :
    ∀ turn ∈ (debate.request prior ⟨round, none⟩).messageHistory, turn.message ≠ "" := by
  intro turn member
  rw [List.mem_singleton.mp member]
  exact append_ne_empty (append_ne_empty question)

/-- What the steps of a run have kept of `HadSpoken`. -/
def Spoke (state : State count) : Prop :=
  ∀ seat round request, 1 < round → (state.calls ⟨round, some seat⟩).request = some request →
    (state.calls ⟨round - 1, some seat⟩).text ≠ ""

theorem filled_of_spoke (question : debate.question ≠ "")
    (distinct : Function.Injective fun seat => (debate.personas seat).id)
    (reachable : Reachable debate state) (spoke : Spoke state) : FilledTurns state := by
  rintro ⟨round, speaker⟩ request asked
  cases speaker with
  | none =>
      rw [(hears_reachable reachable).asked _ _ asked]
      exact moderator_filled question _ round
  | some seat =>
      exact (filled_iff question distinct reachable asked).mpr fun later =>
        spoke seat round request later asked

theorem request_new {action : Action count} (taken : step debate before action = some after)
    {call : Call count} {request : Request}
    (asked : (after.calls call).request = some request) :
    (before.calls call).request = some request ∨ action = .stream call .start := by
  cases moves_of_step debate before after action taken with
  | spawn seat at_ room => exact .inl (request_calling asked)
  | last at_ over_ => exact .inl (request_calling asked)
  | @stream moved action stream events advanced =>
      by_cases here : call = moved
      · subst here
        dsimp only at asked
        rw [Function.update_self] at asked
        cases advanced with
        | refused calls answer => exact .inr rfl
        | started calls answer => exact .inr rfl
        | _ => exact .inl asked
      · dsimp only at asked
        rw [Function.update_of_ne here] at asked
        exact .inl asked
  | _ => exact .inl asked

theorem spoke_step {action : Action count} (taken : step debate before action = some after)
    (reachable : Reachable debate before) (meets : HadSpoken before action)
    (spoke : Spoke before) : Spoke after := by
  intro seat round request later asked
  have shape := shape_reachable reachable
  have told : (before.calls ⟨round - 1, some seat⟩).text ≠ "" := by
    rcases request_new taken asked with old | started
    · exact spoke seat round request later old
    · subst started
      exact meets later
  have begun : (before.calls ⟨round, some seat⟩).pc ≠ .idle := by
    rcases request_new taken asked with old | started
    · exact begun_of_asked shape old
    · subst started
      cases moves_of_step debate before after _ taken with
      | stream advanced => exact begun_of_advanced advanced (shape.coherent _)
  have finished := over_of_made shape begun (round - 1) seat (by omega) (le_refl _)
  rwa [text_frozen taken shape _ finished]

end Requests

/-- In a run whose panelists all had said something before they call again,
every message of every request is filled; a call after a silent round makes a
request with an empty turn. -/
theorem filled_turns_exactly (debate : Debate count) (message : ClientMessage)
    (accepted : message.validate = none) (asks : debate.question = message.question)
    (distinct : Function.Injective fun seat => (debate.personas seat).id) :
    (∀ cancelled state,
      Reaches (step debate) HadSpoken (State.initial debate cancelled) state →
      FilledTurns state) ∧
    ∀ before after call, Reachable debate before →
      step debate before (.stream call .start) = some after →
      ¬ HadSpoken before (.stream call .start) → ¬ FilledTurns after := by
  have question : debate.question ≠ "" := asks ▸ validate_question message accepted
  constructor
  · intro cancelled state reached
    have known : ∀ {state}, Reaches (step debate) HadSpoken (State.initial debate cancelled) state →
        Reachable debate state := fun reached =>
      ⟨cancelled, reached.weaken fun _ _ _ => trivial⟩
    apply filled_of_spoke question distinct (known reached)
    refine reached.invariant Spoke ?_ fun before action after earlier meets taken spoke =>
      spoke_step taken (known earlier) meets spoke
    -- at the start there is no request
    intro seat round request later asked
    have none_ := begun_of_asked (shape_initial debate cancelled) asked
    unfold State.initial State.enter at none_
    split at none_
    · exact absurd rfl none_
    · dsimp only at none_
      rw [Function.update_of_ne (by simp)] at none_
      exact absurd rfl none_
  -- the new request has a turn of its own, which is the silent round's text
  · rintro before after ⟨round, speaker⟩ reachable taken silent filled
    cases speaker with
    | none => exact silent trivial
    | some seat =>
        obtain ⟨cancelled, reached⟩ := reachable
        have shape := shape_reachable ⟨cancelled, reached⟩
        have later : Reachable debate after := ⟨cancelled, .next reached trivial taken⟩
        obtain ⟨request, asked⟩ : ∃ request,
            (after.calls ⟨round, some seat⟩).request = some request := by
          cases moves_of_step debate before after _ taken with
          | stream advanced =>
              dsimp only
              rw [Function.update_self]
              cases advanced with
              | refused calls answer => exact ⟨_, rfl⟩
              | started calls answer => exact ⟨_, rfl⟩
        have told := (filled_iff question distinct later asked).mp (filled _ _ asked)
        refine silent fun next => ?_
        have begun : (before.calls ⟨round, some seat⟩).pc ≠ .idle := by
          cases moves_of_step debate before after _ taken with
          | stream advanced => exact begun_of_advanced advanced (shape.coherent _)
        have finished := over_of_made shape begun (round - 1) seat (by omega) (le_refl _)
        rw [← text_frozen taken shape _ finished]
        exact told next

/-- Both panelists of `duet` speak in the first round, the second before its
stream fails. -/
theorem filled_turns_exactly_duet :
    ∃ state, Reaches (step duet) HadSpoken (State.initial duet false) state ∧
      (state.calls ⟨2, some duet_first⟩).request.isSome = true ∧ FilledTurns state := by
  have played : ((perform (step duet) HadSpoken (State.initial duet false)
      (duet_round 1 ++ [.spawn, .stream ⟨2, some duet_first⟩ .start])).map fun state =>
        (state.calls ⟨2, some duet_first⟩).request.isSome) = some true := by
    decide +kernel
  obtain ⟨state, run, asked⟩ := Option.map_eq_some_iff.mp played
  have reached := perform_reaches _ _ _ run
  have accepted : ClientMessage.validate ⟨"ask", "why?", 2⟩ = none := by decide +kernel
  exact ⟨state, reached, asked,
    (filled_turns_exactly duet _ accepted rfl duet_distinct).1 false state reached⟩

/-- A panel of one whose first stream does not start. -/
def mute : Debate 1 where
  toOrchestrator := New (fun _ _ => .error "connection refused") "glm" 1
  question := "why?"
  personas := fun _ => ⟨"The Skeptic", "skeptic", "doubt"⟩
  rounds := 2

def mute_seat : Fin 1 := ⟨0, Nat.one_pos⟩

/-- The failure of the first round leaves an empty assistant turn in the
request of the second. -/
theorem empty_turn_after_failure :
    ClientMessage.validate ⟨"ask", mute.question, 2⟩ = none ∧
      (Function.Injective fun seat => (mute.personas seat).id) ∧
      ∃ state, Reachable mute state ∧ state.cancelled = false ∧ ¬ FilledTurns state := by
  have played : ((perform (step mute) always (State.initial mute false)
      [.spawn, .stream ⟨1, some mute_seat⟩ .start, .stream ⟨1, some mute_seat⟩ .send, .wait,
        .announce, .spawn, .stream ⟨2, some mute_seat⟩ .start]).map fun state =>
        (state.cancelled, (state.calls ⟨2, some mute_seat⟩).request.map Request.messageHistory)) =
      some (false, some [⟨.user, "why?"⟩, ⟨.assistant, ""⟩,
        ⟨.user, "Directly rebut the other panelists' latest points below.\n\n"⟩]) := by
    decide +kernel
  obtain ⟨state, run, known⟩ := Option.map_eq_some_iff.mp played
  obtain ⟨uncancelled, asked⟩ := Prod.mk.inj known
  obtain ⟨request, made, history⟩ := Option.map_eq_some_iff.mp asked
  refine ⟨by decide +kernel, fun _ _ _ => Subsingleton.elim _ _, state,
    ⟨false, perform_reaches _ _ _ run⟩, uncancelled, fun filled => ?_⟩
  exact filled _ request made ⟨.assistant, ""⟩ (by rw [history]; simp) rfl

end Council.EmptyTurns

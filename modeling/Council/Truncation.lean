import Council.ZaiProvider
import Council.DebateContent

/-!
Truncated answers. A stream ends the same way at the terminator of its body
and where the body simply stops, so the panel's last event for a call tells
the two apart exactly when no body stops silently.
-/

namespace Council.Truncation

open Council.Machines
open Council.Provider
open Council.ServerProtocol
open Council.Orchestration
open Council.DebateShape
open Council.StreamWords
open Council.ZaiProvider

variable {count : Nat}

/-- The upstream answer is a stream that reached its terminator. -/
def Answered : Except String Response → Prop
  | .error _ => False
  | .ok response => response.status = 200 ∧ reachesDone response.pieces = true

/-- The answer is a refusal or its body is delimited. -/
def Settled : Except String Response → Prop
  | .error _ => True
  | .ok response => response.status = 200 → Delimited response.pieces response.broken

/-- The event says that a stream was finished. -/
def Completes (event : Event) : Prop := event.type = .personaDone ∨ event.type = .verdict

/-- What was sent for a call claims an end only if there was one, and reports
the failure otherwise. -/
def Honest (failure : Event) (sent : List Event) (answer : Except String Response) : Prop :=
  ((∃ event ∈ sent, Completes event) → Answered answer) ∧
    (¬ Answered answer → failure ∈ sent)

theorem delimited_iff (decode : Decoder) (pieces : List Piece) (broken : Option String) :
    ((scan decode pieces broken).failure = none → reachesDone pieces = true) ↔
      Delimited pieces broken := by
  rw [scan_clean_iff]
  constructor
  · intro honest
    by_cases done : reachesDone pieces = true
    · exact .inl done
    · right
      by_contra silent
      obtain ⟨read, short⟩ := not_or.mp silent
      refine done (honest (.inr ⟨by simpa using read, fun piece member => ?_⟩))
      exact not_not.mp fun long => short ⟨piece, member, long⟩
  · rintro (done | read | ⟨piece, member, long⟩) clean
    · exact done
    · rcases clean with done | ⟨none_, _⟩
      · exact done
      · simp [none_] at read
    · rcases clean with done | ⟨_, short⟩
      · exact done
      · exact absurd (short piece member) long

theorem settled_iff (decode : Decoder) (answer : Except String Response) :
    ((streamResponse decode answer).failure = none → Answered answer) ↔ Settled answer := by
  cases answer with
  | error err => simp [streamResponse, Settled]
  | ok response =>
      by_cases accepted : response.status = 200
      · have scanned := delimited_iff decode response.pieces response.broken
        simpa [streamResponse, Settled, Answered, accepted] using scanned
      · simp [streamResponse, Settled, accepted]

section Words
variable (debate : Debate count) (call : Call count)

theorem completes_ending (text : String) : Completes (debate.ending call text) := by
  unfold Debate.ending
  split
  · exact .inr rfl
  · exact .inl rfl

theorem ending_ne_failure (text : String) : debate.ending call text ≠ debate.failure call := by
  intro same
  have typed := congrArg Event.type same
  rcases completes_ending debate call text with done | verdict
  · rw [done] at typed
    cases typed
  · rw [verdict] at typed
    cases typed

theorem not_completes_failure : ¬ Completes (debate.failure call) := by
  rintro (done | verdict)
  · cases done
  · cases verdict

theorem token_open (script : Script) (event : Event)
    (member : event ∈ script.deltas.map (Token (debate.persona call.speaker).id call.round)) :
    ¬ Completes event ∧ event ≠ debate.failure call := by
  obtain ⟨delta, _, same⟩ := List.mem_map.mp member
  subst same
  refine ⟨?_, fun failed => ?_⟩
  · rintro (done | verdict)
    · cases done
    · cases verdict
  · cases congrArg Event.type failed

/-- The last event of a word is honest exactly if a clean close stands for a
terminator. -/
theorem honest_word_iff (script : Script) (answer : Except String Response) :
    Honest (debate.failure call) (streamWord debate call (.ok script)) answer ↔
      (script.failure = none → Answered answer) := by
  cases failed : script.failure with
  | none =>
      have ended : ∃ event ∈ streamWord debate call (.ok script), Completes event := by
        refine ⟨debate.ending call (String.join script.deltas), ?_, completes_ending debate call _⟩
        simp [streamWord, failed]
      have unreported : debate.failure call ∉ streamWord debate call (.ok script) := by
        intro member
        simp only [streamWord, failed] at member
        rcases List.mem_append.mp member with token | last
        · exact (token_open debate call script _ token).2 rfl
        · exact ending_ne_failure debate call _ (List.mem_singleton.mp last).symm
      refine ⟨fun honest _ => honest.1 ended, fun answered => ⟨fun _ => answered rfl, ?_⟩⟩
      exact fun truncated => absurd (answered rfl) truncated
  | some reason =>
      refine ⟨fun _ clean => by (cases clean), fun _ => ⟨?_, fun _ => ?_⟩⟩
      · rintro ⟨event, member, completes⟩
        simp only [streamWord, failed] at member
        rcases List.mem_append.mp member with token | last
        · exact absurd completes (token_open debate call script _ token).1
        · rw [List.mem_singleton.mp last] at completes
          exact absurd completes (not_completes_failure debate call)
      · simp [streamWord, failed]

theorem completes_last {outcome : Outcome} {sent rest : List Event}
    (word : sent ++ rest = streamWord debate call outcome) {event : Event}
    (member : event ∈ sent) (completes : Completes event) : rest = [] := by
  have split_ : ∀ tokens : List Event, ∀ last : Event,
      (∀ token ∈ tokens, ¬ Completes token) → sent ++ rest = tokens ++ [last] → rest = [] := by
    intro tokens last opens same
    by_contra more
    have dropped := congrArg List.dropLast same
    rw [List.dropLast_append_of_ne_nil more, List.dropLast_concat] at dropped
    exact opens event (dropped ▸ List.mem_append_left _ member) completes
  cases outcome with
  | error reason => exact split_ [] _ (by simp) word
  | ok script =>
      exact split_ _ _ (fun token inside => (token_open debate call script token inside).1) word

end Words

theorem finished_of_completes {debate : Debate count} {state : State count}
    (reachable : Reachable debate state) (uncancelled : state.cancelled = false)
    {call : Call count} {event : Event} (member : event ∈ sentBy state.emitted call)
    (completes : Completes event) : (state.calls call).pc = .finished := by
  have shape := shape_reachable reachable
  have conserved := conserves_uncancelled reachable uncancelled call
  cases asked : (state.calls call).request with
  | none =>
      simp only [Conserved, asked] at conserved
      rw [conserved] at member
      cases member
  | some request =>
      simp only [Conserved, asked] at conserved
      have over_ := completes_last debate call conserved.1 member completes
      have coherent := shape.coherent call
      cases pc : (state.calls call).pc with
      | idle => rw [Coherent, pc] at coherent; rw [coherent] at asked; cases asked
      | calling => rw [Coherent, pc] at coherent; rw [coherent] at asked; cases asked
      | receiving =>
          simp only [remaining, pc] at over_
          cases left : (state.calls call).source.left with
          | nil => simp [left, lane] at over_
          | cons first rest =>
              simp only [left, lane] at over_
              split at over_ <;> cases over_
      | emitting last more => cases more <;> simp [remaining, pc] at over_
      | finished => rfl

/-- A clean close stands for a terminator exactly where the body is
delimited. In an uncancelled run over `ZaiProvider` a completed call is over,
and what was sent for a call that is over is honest exactly where the answer
it got is settled. -/
theorem truncation_reported_exactly (decode : Decoder) :
    (∀ response : Response, response.status = 200 →
      (((streamResponse decode (.ok response)).failure = none →
          reachesDone response.pieces = true) ↔
        Delimited response.pieces response.broken)) ∧
    ∀ (debate : Debate count) (model : String) (upstream : Upstream count)
      (state : State count), Reachable (overZai debate model decode upstream) state →
      state.cancelled = false →
      (∀ call, ∀ event ∈ sentBy state.emitted call, Completes event →
        (state.calls call).pc = .finished) ∧
      ∀ call request, (state.calls call).request = some request →
        (state.calls call).pc = .finished →
        (Honest (debate.failure call) (sentBy state.emitted call)
            (upstream call (wireRequest model request)) ↔
          Settled (upstream call (wireRequest model request))) := by
  constructor
  · intro response accepted
    have scanned := delimited_iff decode response.pieces response.broken
    simpa [streamResponse, accepted] using scanned
  · intro debate model upstream state reachable uncancelled
    refine ⟨fun call event member completes =>
      finished_of_completes reachable uncancelled member completes, ?_⟩
    intro call request asked finished
    have shape := shape_reachable reachable
    obtain ⟨made, known, word, _, _⟩ :=
      finished_call (shape.coherent call) (conserves_uncancelled reachable uncancelled call)
        finished
    cases known.symm.trans asked
    rw [word]
    exact (honest_word_iff (overZai debate model decode upstream) call _ _).trans
      (settled_iff decode _)

/-- One chunk and then the end of the body. -/
def cutOff : Response where
  status := 200
  snippet := ""
  lines := []
  tail := bytes "data: x"
  broken := none
  together := true

def oneWord : Decoder := fun data => if data = bytes "x" then some ["yes"] else none

/-- A panelist alone, every answer of whose model is cut off. -/
def lonely : Debate 1 where
  toOrchestrator := New (fun _ _ => .error "") "glm" 1
  question := "why?"
  personas := fun _ => ⟨"The Skeptic", "skeptic", "doubt"⟩
  rounds := 2

def cutOffDebate : Debate 1 := overZai lonely "glm" oneWord fun _ _ => .ok cutOff

def onlySeat : Fin 1 := ⟨0, Nat.one_pos⟩

theorem cut_off_played : ∃ state, Reachable cutOffDebate state ∧ state.cancelled = false ∧
    (state.calls ⟨1, some onlySeat⟩).request.isSome = true ∧
    sentBy state.emitted ⟨1, some onlySeat⟩ =
      [Token "skeptic" 1 "yes", PersonaDone "skeptic" 1] := by
  have played : ((perform (step cutOffDebate) always (State.initial cutOffDebate false)
      ([.spawn] ++ (([.start, .produce, .pass, .send, .produce, .drain, .send] :
        List StreamAction).map (.stream ⟨1, some onlySeat⟩)))).map fun state =>
        (state.cancelled, (state.calls ⟨1, some onlySeat⟩).request.isSome,
          sentBy state.emitted ⟨1, some onlySeat⟩)) =
      some (false, true, [Token "skeptic" 1 "yes", PersonaDone "skeptic" 1]) := by
    decide +kernel
  obtain ⟨state, run, known⟩ := Option.map_eq_some_iff.mp played
  obtain ⟨uncancelled, asked, sent⟩ := by simpa only [Prod.mk.injEq] using known
  exact ⟨state, ⟨false, perform_reaches _ _ _ run⟩, uncancelled, asked, sent⟩

theorem truncation_reported_exactly_cut_off :
    (((streamResponse oneWord (.ok cutOff)).failure = none →
        reachesDone cutOff.pieces = true) ↔ Delimited cutOff.pieces cutOff.broken) ∧
    ∃ state, Reachable cutOffDebate state ∧
      (state.calls ⟨1, some onlySeat⟩).pc = .finished ∧
      (Honest (lonely.failure ⟨1, some onlySeat⟩) (sentBy state.emitted ⟨1, some onlySeat⟩)
        (.ok cutOff) ↔ Settled (.ok cutOff)) := by
  have exactly := @truncation_reported_exactly 1 oneWord
  obtain ⟨state, reachable, uncancelled, asked, sent⟩ := cut_off_played
  obtain ⟨request, made⟩ := Option.isSome_iff_exists.mp asked
  have runs := exactly.2 lonely "glm" (fun _ _ => .ok cutOff) state reachable uncancelled
  -- the call is over, for its `persona_done` has been sent
  have finished := runs.1 ⟨1, some onlySeat⟩ (PersonaDone "skeptic" 1) (by simp [sent]) (.inl rfl)
  exact ⟨exactly.1 cutOff rfl, state, reachable, finished, runs.2 _ request made finished⟩

/-- The cut-off answer is told as a finished one: `persona_done` is sent, and
no error. -/
theorem truncation_unreported :
    (streamResponse oneWord (.ok cutOff)).failure = none ∧ reachesDone cutOff.pieces = false ∧
      ∃ state, Reachable cutOffDebate state ∧ state.cancelled = false ∧
        sentBy state.emitted ⟨1, some onlySeat⟩ =
          [Token "skeptic" 1 "yes", PersonaDone "skeptic" 1] := by
  obtain ⟨state, reachable, uncancelled, _, sent⟩ := cut_off_played
  exact ⟨by decide +kernel, by decide +kernel, state, reachable, uncancelled, sent⟩

end Council.Truncation

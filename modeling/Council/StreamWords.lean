import Council.DebateShape

/-!
What one `Stream` call puts on `out`. Uncancelled, the events already sent for
a call and those its activation still has to send make up the word of the
provider's answer: one token for each delta, and one last event.
-/

namespace Council.StreamWords

open Council.Machines
open Council.Provider
open Council.ServerProtocol
open Council.Orchestration
open Council.DebateShape

variable {count : Nat}

def streamWord (debate : Debate count) (call : Call count) : Outcome → List Event
  | .error _ => [debate.failure call]
  | .ok script =>
      script.deltas.map (Token (debate.persona call.speaker).id call.round) ++
        [match script.failure with
          | some _ => debate.failure call
          | none => debate.ending call (String.join script.deltas)]

/-- The text a call that got this answer leaves behind. -/
def outcomeText : Outcome → String
  | .error _ => ""
  | .ok script => String.join script.deltas

/-- The events due while a stream still has `pending` to deliver. -/
def lane (debate : Debate count) (call : Call count) (text : String) :
    List StreamEvent → List Event
  | [] => [debate.ending call text]
  | event :: pending =>
      match event.err with
      | some _ => [debate.failure call]
      | none =>
          Token (debate.persona call.speaker).id call.round event.delta ::
            lane debate call (text ++ event.delta) pending

/-- What an activation that made its request still has to send. -/
def remaining (debate : Debate count) (call : Call count) (stream : Streaming) : List Event :=
  match stream.pc with
  | .receiving => lane debate call stream.text stream.source.left
  | .emitting event true => event :: lane debate call stream.text stream.source.left
  | .emitting event false => [event]
  | _ => []

/-- The event an activation is about to send. -/
def inHand (stream : Streaming) : List Event :=
  match stream.pc with
  | .emitting event _ => [event]
  | _ => []

/-- The text of the tokens among the events. -/
def spoken (events : List Event) : String := String.join (events.map Event.delta)

/-- What was sent on `out` for one call. -/
def sentBy (emitted : List (Option (Call count) × Event)) (call : Call count) : List Event :=
  emitted.filterMap fun entry => if entry.1 = some call then some entry.2 else none

theorem spoken_append (first second : List Event) :
    spoken (first ++ second) = spoken first ++ spoken second := by
  simp [spoken, String.join_append]

theorem spoken_cons (event : Event) (events : List Event) :
    spoken (event :: events) = event.delta ++ spoken events := by
  simp [spoken]

theorem delta_ending (debate : Debate count) (call : Call count) (text : String) :
    (debate.ending call text).delta = "" := by
  unfold Debate.ending
  split <;> rfl

theorem lane_script (debate : Debate count) (call : Call count) (text : String)
    (deltas : List String) (failure : Option String) :
    lane debate call text (Script.events ⟨deltas, failure⟩) =
      deltas.map (Token (debate.persona call.speaker).id call.round) ++
        [match failure with
          | some _ => debate.failure call
          | none => debate.ending call (text ++ String.join deltas)] := by
  induction deltas generalizing text with
  | nil => cases failure <;> simp [Script.events, lane]
  | cons delta rest ih =>
      have tail := ih (text ++ delta)
      simp only [Script.events] at tail
      simp only [Script.events, List.map_cons, List.cons_append, lane, tail,
        String.join_cons, String.append_assoc]

theorem lane_start (debate : Debate count) (call : Call count) (script : Script) :
    lane debate call "" script.events = streamWord debate call (.ok script) := by
  rw [lane_script debate call "" script.deltas script.failure]
  simp [streamWord]

theorem spoken_streamWord (debate : Debate count) (call : Call count) (outcome : Outcome) :
    spoken (streamWord debate call outcome) = outcomeText outcome := by
  cases outcome with
  | error reason => simp [spoken, streamWord, outcomeText, Debate.failure, Error]
  | ok script =>
      have deltas : (script.deltas.map
          (Token (debate.persona call.speaker).id call.round)).map Event.delta =
            script.deltas := by
        rw [List.map_map]
        exact List.map_id _
      have last : ∀ event : Event, event.delta = "" → spoken [event] = "" := by
        intro event silent
        simp [spoken, silent]
      rw [streamWord, spoken_append, spoken, deltas, last]
      · simp [outcomeText]
      · cases script.failure with
        | some reason => rfl
        | none => exact delta_ending debate call _

section Sent
variable (emitted : List (Option (Call count) × Event)) (call other : Call count)

theorem sentBy_stream (events : List Event) :
    sentBy (emitted ++ events.map fun event => (some call, event)) other =
      sentBy emitted other ++ if other = call then events else [] := by
  simp only [sentBy, List.filterMap_append, List.filterMap_map]
  congr 1
  by_cases here : other = call
  · subst here
    simp
  · have apart : ¬ call = other := fun same => here same.symm
    simp [here, apart]

theorem sentBy_cons_own (event : Event) :
    sentBy ((some call, event) :: emitted) call = event :: sentBy emitted call := by
  simp [sentBy]

theorem sentBy_cons_other (origin : Option (Call count)) (event : Event)
    (different : origin ≠ some call) :
    sentBy ((origin, event) :: emitted) call = sentBy emitted call := by
  simp [sentBy, different]

theorem sentBy_mark (event : Event) :
    sentBy (emitted ++ [(none, event)]) call = sentBy emitted call := by
  simp [sentBy, List.filterMap_append]

end Sent

/-- A call without a request has sent nothing; one with a request has sent
the beginning of the answer's word, has the rest before it, and its builder
holds the tokens up to the one in hand. -/
def Conserved (debate : Debate count) (call : Call count) (stream : Streaming)
    (sent : List Event) : Prop :=
  match stream.request with
  | none => sent = []
  | some request =>
      sent ++ remaining debate call stream =
          streamWord debate call (debate.provider call request) ∧
        stream.text = spoken (sent ++ inHand stream)

theorem produce_left {source moved : Producer} (produced : source.produce = some moved) :
    moved.left = source.left := by
  cases source with
  | reading pending => cases pending <;> cases produced <;> rfl
  | closing => cases produced; rfl
  | absent => cases produced
  | sending event pending => cases produced
  | closed => cases produced

theorem conserved_of_advanced {debate : Debate count} {transcript : Transcripts.Transcript}
    {call : Call count} {before after : Streaming} {action : StreamAction}
    {events sent : List Event}
    (advanced : Advanced debate false transcript call before action after events)
    (coherent : Coherent before) (conserved : Conserved debate call before sent) :
    Conserved debate call after (sent ++ events) := by
  cases advanced with
  | @refused reason calls answer =>
      rw [Coherent, calls] at coherent
      rw [coherent] at conserved ⊢
      have none_ : sent = [] := conserved
      subst none_
      constructor
      · simp [remaining, answer, streamWord]
      · simp [inHand, spoken, Debate.failure, Error]
  | @started script calls answer =>
      rw [Coherent, calls] at coherent
      rw [coherent] at conserved ⊢
      have none_ : sent = [] := conserved
      subst none_
      constructor
      · simp [remaining, answer, Producer.left, lane_start]
      · simp [inHand, spoken]
  | @produced source moved =>
      simpa only [Conserved, remaining, produce_left moved, inHand, List.append_nil]
        using conserved
  -- a read is lost and a send is given up only once `ctx` is done
  | lost done moved => cases done
  | aborted done moved => cases done
  -- from here on the call is under way and has its request
  | @failed event pending reason receives offered error =>
      rw [Coherent, receives] at coherent
      obtain ⟨request, made⟩ := Option.isSome_iff_exists.mp coherent.2
      simp only [Conserved, made, remaining, receives, offered, inHand, Producer.left, lane,
        error, List.append_nil] at conserved ⊢
      refine ⟨conserved.1, ?_⟩
      rw [conserved.2, spoken_append]
      simp [spoken, Debate.failure, Error]
  | @spoke event pending receives offered delta =>
      rw [Coherent, receives] at coherent
      obtain ⟨request, made⟩ := Option.isSome_iff_exists.mp coherent.2
      simp only [Conserved, made, remaining, receives, offered, inHand, Producer.left, lane,
        delta, Producer.sent, Option.isSome_none, Bool.false_eq_true, if_false,
        List.append_nil] at conserved ⊢
      refine ⟨conserved.1, ?_⟩
      rw [conserved.2, spoken_append]
      simp [spoken, Token]
  | drained receives ended =>
      rw [Coherent, receives] at coherent
      obtain ⟨request, made⟩ := Option.isSome_iff_exists.mp coherent.2
      simp only [Conserved, made, remaining, receives, ended, inHand, Producer.left, lane,
        List.append_nil] at conserved ⊢
      refine ⟨conserved.1, ?_⟩
      rw [spoken_append, ← conserved.2]
      simp [spoken, delta_ending]
  | @sent event more emits =>
      have made : before.request.isSome := by
        rw [Coherent, emits] at coherent
        cases more with
        | true => exact coherent.2
        | false => exact coherent
      obtain ⟨request, made⟩ := Option.isSome_iff_exists.mp made
      cases more with
      | true =>
          simp only [Conserved, made, remaining, emits, inHand, if_true, List.append_nil,
            List.append_assoc, List.cons_append, List.nil_append] at conserved ⊢
          exact conserved
      | false =>
          simp only [Conserved, made, remaining, emits, inHand, Bool.false_eq_true, if_false,
            List.append_nil] at conserved ⊢
          exact conserved
  | dropped done emits => cases done

/-- Conservation in a state. -/
def Conserves (debate : Debate count) (state : State count) : Prop :=
  ∀ call, Conserved debate call (state.calls call) (sentBy state.emitted call)

theorem conserves_calling {debate : Debate count} {before after : State count}
    (call : Call count) (conserves : Conserves debate before)
    (idle : (before.calls call).pc = .idle) (coherent : Coherent (before.calls call))
    (calls : after.calls = Function.update before.calls call { pc := .calling })
    (sent : ∀ other, sentBy after.emitted other = sentBy before.emitted other) :
    Conserves debate after := by
  intro other
  rw [sent other, calls]
  refine forall_update (fun other stream =>
    Conserved debate other stream (sentBy before.emitted other)) ?_
    (fun other _ => conserves other) other
  -- the call was idle, so it has sent nothing
  have blank := conserves call
  rw [Coherent, idle] at coherent
  rw [coherent] at blank
  exact blank

theorem conserves_step {debate : Debate count} {before after : State count}
    {action : Action count} (taken : step debate before action = some after)
    (shape : Shape debate before) (uncancelled : before.cancelled = false)
    (conserves : Conserves debate before) : Conserves debate after := by
  have staged := shape.staged
  cases moves_of_step debate before after action taken with
  | cancel fresh => exact conserves
  | @spawn round seat at_ room =>
      refine conserves_calling ⟨round, some seat⟩ conserves ?_ (shape.coherent _) rfl
        fun _ => rfl
      have ahead := staged ⟨round, some seat⟩
      rw [at_] at ahead
      simp only [stage, le_refl, and_true, or_true, if_true] at ahead
      exact ahead
  | wait at_ done => exact conserves
  | another at_ left =>
      intro call
      dsimp only
      rw [sentBy_mark]
      exact conserves call
  | last at_ over_ =>
      refine conserves_calling ⟨debate.rounds + 1, none⟩ conserves ?_ (shape.coherent _) rfl
        fun other => sentBy_mark before.emitted other _
      have ahead := staged ⟨debate.rounds + 1, none⟩
      rw [at_] at ahead
      exact ahead
  | quit at_ done => exact conserves
  | close due => exact conserves
  -- only the call that moves adds to its own events
  | @stream call action stream events advanced =>
      rw [uncancelled] at advanced
      intro other
      dsimp only
      rw [sentBy_stream]
      by_cases here : other = call
      · subst here
        rw [Function.update_self, if_pos rfl]
        exact conserved_of_advanced advanced (shape.coherent other) (conserves other)
      · rw [Function.update_of_ne here, if_neg here, List.append_nil]
        exact conserves other

theorem conserves_initial (debate : Debate count) (cancelled : Bool) :
    Conserves debate (State.initial debate cancelled) := by
  unfold State.initial State.enter
  split
  · exact fun call => rfl
  · exact forall_update (fun other stream => Conserved debate other stream (sentBy [] other))
      rfl fun _ _ => rfl

theorem conserves_uncancelled {debate : Debate count} {state : State count}
    (reachable : Reachable debate state) (uncancelled : state.cancelled = false) :
    Conserves debate state := by
  obtain ⟨cancelled, reached⟩ := reachable
  refine reached.invariant (fun state => state.cancelled = false → Conserves debate state)
    (fun _ => conserves_initial debate cancelled) ?_ uncancelled
  intro before action after earlier _ taken holds undone
  have first := uncancelled_before taken undone
  exact conserves_step taken (shape_reachable ⟨cancelled, earlier⟩) first (holds first)

theorem finished_call {debate : Debate count} {call : Call count} {stream : Streaming}
    {sent : List Event} (coherent : Coherent stream)
    (conserved : Conserved debate call stream sent) (finished : stream.pc = .finished) :
    ∃ request, stream.request = some request ∧
      sent = streamWord debate call (debate.provider call request) ∧
      stream.text = outcomeText (debate.provider call request) ∧
      stream.text = spoken sent := by
  rw [Coherent, finished] at coherent
  obtain ⟨request, made⟩ := Option.isSome_iff_exists.mp coherent
  simp only [Conserved, made, remaining, finished, inHand, List.append_nil] at conserved
  refine ⟨request, made, conserved.1, ?_, conserved.2⟩
  rw [conserved.2, conserved.1, spoken_streamWord]

end Council.StreamWords

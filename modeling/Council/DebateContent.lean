import Council.StreamWords
import Council.HeardRounds

/-!
What a debate says does not depend on its schedule. `sequential` runs the
rounds one call after another; every uncancelled run, however its goroutines
interleave, makes the same requests and gets the same texts, and what a
request shows of the others is what was sent on `out` for them.
-/

namespace Council.DebateContent

open Council.Machines
open Council.Provider
open Council.ServerProtocol
open Council.Transcripts
open Council.Orchestration
open Council.DebateShape
open Council.StreamWords
open Council.HeardRounds

variable {count : Nat}

/-- The answers of a round whose panel has heard `prior`. -/
def roundAnswers (debate : Debate count) (prior : Transcript) (round : Nat) :
    List PersonaAnswer :=
  List.ofFn fun seat =>
    { personaID := (debate.personas seat).id
      name := (debate.personas seat).name
      text := outcomeText (debate.provider ⟨round, some seat⟩
        (debate.request prior ⟨round, some seat⟩)) }

/-- The transcript after so many rounds. -/
def sequential (debate : Debate count) : Nat → Transcript
  | 0 => {}
  | round + 1 =>
      (sequential debate round).append
        { number := round + 1,
          answers := roundAnswers debate (sequential debate round) (round + 1) }

def sequentialRequest (debate : Debate count) (call : Call count) : Request :=
  debate.request (sequential debate (call.round - 1)) call

def sequentialText (debate : Debate count) (call : Call count) : String :=
  outcomeText (debate.provider call (sequentialRequest debate call))

section Sequential
variable {debate : Debate count} {state : State count}

theorem heard_sequential (reachable : Reachable debate state)
    (uncancelled : state.cancelled = false) {rounds : Nat} (over_ : Over state rounds) :
    heard debate state rounds = sequential debate rounds := by
  have shape := shape_reachable reachable
  have conserves := conserves_uncancelled reachable uncancelled
  induction rounds with
  | zero => rfl
  | succ rounds ih =>
      have earlier := ih fun round seat low high => over_ round seat low (by omega)
      have answers : state.answers debate (rounds + 1) =
          roundAnswers debate (sequential debate rounds) (rounds + 1) := by
        refine congrArg List.ofFn (funext fun seat => ?_)
        have finished := over_ (rounds + 1) seat (by omega) (le_refl _)
        obtain ⟨request, made, _, text, _⟩ :=
          finished_call (shape.coherent _) (conserves ⟨rounds + 1, some seat⟩) finished
        have asked := (hears_reachable reachable).asked _ _ made
        rw [Nat.add_sub_cancel, earlier] at asked
        rw [text, asked]
      rw [heard_succ, earlier, answers, sequential]

theorem asked_sequential (reachable : Reachable debate state)
    (uncancelled : state.cancelled = false) (call : Call count) (request : Request)
    (asked : (state.calls call).request = some request) :
    request = sequentialRequest debate call := by
  have shape := shape_reachable reachable
  have over_ := over_of_made shape (begun_of_asked shape asked)
  rw [(hears_reachable reachable).asked call request asked,
    heard_sequential reachable uncancelled over_]
  rfl

end Sequential

def said (events : List Event) (persona : String) (round : Nat) : String :=
  String.join ((events.filter fun event =>
    event.type = .token ∧ event.persona = persona ∧ event.round = round).map Event.delta)

/-- The answers of some seats that say something, as they are read out, in
panel order. -/
def readOut (debate : Debate count) (texts : Fin count → String) (shown : Fin count → Bool) :
    String :=
  String.join (((List.finRange count).filter fun seat => shown seat && texts seat ≠ "").map
    fun seat => "[" ++ (debate.personas seat).name ++ "]: " ++ texts seat ++ "\n\n")

def instruction (round : Nat) : String :=
  if round % 2 = 1 then "Having heard the others, sharpen and restate YOUR position."
  else "Directly rebut the other panelists' latest points below."

/-- An event sent for a call names the call, if it is a token at all. -/
def Tagged (debate : Debate count) (entry : Option (Call count) × Event) : Prop :=
  match entry.1 with
  | none => entry.2.type ≠ .token
  | some call =>
      Makes debate call ∧
        (entry.2.type = .token ∧ entry.2.persona = (debate.persona call.speaker).id ∧
            entry.2.round = call.round ∨
          entry.2.type ≠ .token ∧ entry.2.delta = "")

theorem tagged_streamWord (debate : Debate count) (call : Call count) (outcome : Outcome)
    (event : Event) (member : event ∈ streamWord debate call outcome) :
    event.type = .token ∧ event.persona = (debate.persona call.speaker).id ∧
        event.round = call.round ∨
      event.type ≠ .token ∧ event.delta = "" := by
  have failure : (debate.failure call).type ≠ .token ∧ (debate.failure call).delta = "" :=
    ⟨by simp [Debate.failure, Error], rfl⟩
  cases outcome with
  | error reason =>
      rw [List.mem_singleton.mp member]
      exact .inr failure
  | ok script =>
      rcases List.mem_append.mp member with token | last
      · obtain ⟨delta, _, same⟩ := List.mem_map.mp token
        subst same
        exact .inl ⟨rfl, rfl, rfl⟩
      · rw [List.mem_singleton.mp last]
        right
        split
        · exact failure
        · refine ⟨?_, delta_ending debate call _⟩
          unfold Debate.ending
          split <;> simp [Verdict, PersonaDone]

theorem sent_prefix {debate : Debate count} {call : Call count} {stream : Streaming}
    {sent : List Event} (conserved : Conserved debate call stream sent) :
    ∃ outcome, sent <+: streamWord debate call outcome := by
  cases made : stream.request with
  | none =>
      simp only [Conserved, made] at conserved
      exact ⟨.error "", conserved ▸ List.nil_prefix⟩
  | some request =>
      simp only [Conserved, made] at conserved
      exact ⟨_, ⟨_, conserved.1⟩⟩

/-- The events of `Run` itself are no tokens, and no call is spoken for
before it begins. -/
theorem marks_step {debate : Debate count} {before after : State count}
    {action : Action count} (taken : step debate before action = some after)
    (shape : Shape debate before)
    (marks : ∀ entry ∈ before.emitted,
      match entry.1 with
      | none => entry.2.type ≠ .token
      | some call => Makes debate call) :
    ∀ entry ∈ after.emitted,
      match entry.1 with
      | none => entry.2.type ≠ .token
      | some call => Makes debate call := by
  cases moves_of_step debate before after action taken with
  | another at_ left =>
      intro entry member
      rcases List.mem_append.mp member with earlier | last
      · exact marks entry earlier
      · rw [List.mem_singleton.mp last]
        simp [RoundComplete]
  | last at_ over_ =>
      intro entry member
      rcases List.mem_append.mp member with earlier | last
      · exact marks entry earlier
      · rw [List.mem_singleton.mp last]
        simp [RoundComplete]
  | @stream call action stream events advanced =>
      intro entry member
      rcases List.mem_append.mp member with earlier | last
      · exact marks entry earlier
      · obtain ⟨event, _, same⟩ := List.mem_map.mp last
        subst same
        exact shape.ranged call (begun_of_advanced advanced (shape.coherent call))
  | _ => exact marks

section Said
variable {events : List Event} {event : Event} {persona : String} {round : Nat}

theorem said_cons_of
    (matching : event.type = .token ∧ event.persona = persona ∧ event.round = round) :
    said (event :: events) persona round = event.delta ++ said events persona round := by
  simp [said, matching]

theorem said_cons_not
    (other : ¬ (event.type = .token ∧ event.persona = persona ∧ event.round = round)) :
    said (event :: events) persona round = said events persona round := by
  rw [said, List.filter_cons_of_neg (by simpa using other), ← said]

end Said

theorem marks_reachable {debate : Debate count} {state : State count}
    (reachable : Reachable debate state) :
    ∀ entry ∈ state.emitted,
      match entry.1 with
      | none => entry.2.type ≠ .token
      | some call => Makes debate call := by
  obtain ⟨cancelled, reached⟩ := reachable
  refine reached.invariant (fun state => ∀ entry ∈ state.emitted,
    match entry.1 with
    | none => entry.2.type ≠ .token
    | some call => Makes debate call) ?_ ?_
  · unfold State.initial State.enter
    split <;> simp
  · intro before action after earlier _ taken marks
    exact marks_step taken (shape_reachable ⟨cancelled, earlier⟩) marks

theorem tagged_uncancelled {debate : Debate count} {state : State count}
    (reachable : Reachable debate state) (uncancelled : state.cancelled = false) :
    ∀ entry ∈ state.emitted, Tagged debate entry := by
  rintro ⟨origin, event⟩ member
  have marked := marks_reachable reachable _ member
  cases origin with
  | none => exact marked
  | some call =>
      refine ⟨marked, ?_⟩
      obtain ⟨outcome, beginning⟩ := sent_prefix (conserves_uncancelled reachable uncancelled call)
      refine tagged_streamWord debate call outcome event (beginning.subset ?_)
      exact List.mem_filterMap.mpr ⟨_, member, if_pos rfl⟩

theorem said_eq {debate : Debate count}
    (distinct : Function.Injective fun seat => (debate.personas seat).id) (seat : Fin count)
    (round : Nat) (within : round ≤ debate.rounds)
    (emitted : List (Option (Call count) × Event))
    (tagged : ∀ entry ∈ emitted, Tagged debate entry) :
    said (emitted.map Prod.snd) (debate.personas seat).id round =
      spoken (sentBy emitted ⟨round, some seat⟩) := by
  induction emitted with
  | nil => rfl
  | cons entry rest ih =>
      obtain ⟨origin, event⟩ := entry
      have tail := ih fun other member => tagged other (List.mem_cons_of_mem _ member)
      have own := tagged _ List.mem_cons_self
      rw [List.map_cons]
      by_cases here : origin = some ⟨round, some seat⟩
      · subst here
        rw [sentBy_cons_own, spoken_cons, ← tail]
        rcases own.2 with ⟨token, persona, same⟩ | ⟨other, silent⟩
        · exact said_cons_of ⟨token, persona, same⟩
        · rw [silent, String.empty_append]
          exact said_cons_not fun matching => other matching.1
      · rw [sentBy_cons_other _ _ _ _ here, ← tail]
        apply said_cons_not
        rintro ⟨token, persona, same⟩
        cases origin with
        | none => exact own token
        | some call =>
            obtain ⟨made, ⟨_, named, numbered⟩ | ⟨other, _⟩⟩ := own
            · -- the names tell the panel apart, the round tells the moderator
              obtain ⟨number, speaker⟩ := call
              cases speaker with
              | none =>
                  have last : number = debate.rounds + 1 := made
                  dsimp only at numbered same
                  omega
              | some other =>
                  have seats := distinct (named.symm.trans persona)
                  dsimp only at numbered same
                  exact here (by rw [seats, ← numbered, same])
            · exact other token

section Requests
variable (debate : Debate count)

def answerOf (texts : Fin count → String) (seat : Fin count) : PersonaAnswer :=
  { personaID := (debate.personas seat).id
    name := (debate.personas seat).name
    text := texts seat }

theorem renderAnswers_panel (texts : Fin count → String) (shown : PersonaAnswer → Bool) :
    renderAnswers ((List.ofFn (answerOf debate texts)).filter shown) =
      readOut debate texts fun seat => shown (answerOf debate texts seat) := by
  rw [renderAnswers_eq, List.ofFn_eq_map, List.filter_map, List.filter_map, List.map_map,
    List.filter_filter, readOut]
  congr 2
  refine List.filter_congr fun seat _ => ?_
  rw [Bool.and_comm]
  rfl

theorem ownLatest_panel (distinct : Function.Injective fun seat => (debate.personas seat).id)
    (texts : Fin count → String) (seat : Fin count) :
    (List.ofFn (answerOf debate texts)).find?
        (fun answer => answer.personaID = (debate.personas seat).id) =
      some (answerOf debate texts seat) := by
  cases found : (List.ofFn (answerOf debate texts)).find?
      (fun answer => answer.personaID = (debate.personas seat).id) with
  | none =>
      have absent := List.find?_eq_none.mp found (answerOf debate texts seat)
        (List.mem_ofFn.mpr ⟨seat, rfl⟩)
      simp [answerOf] at absent
  | some answer =>
      obtain ⟨other, same⟩ := List.mem_ofFn.mp (List.mem_of_find?_eq_some found)
      have named := List.find?_some found
      subst same
      rw [distinct (of_decide_eq_true named)]

theorem buildRequest_history
    (distinct : Function.Injective fun seat => (debate.personas seat).id)
    (texts : Fin count → String) (prior : Transcript) (number round : Nat) (seat : Fin count)
    (later : 1 < round) :
    (buildRequest debate (debate.personas seat)
        (prior.append { number := number, answers := List.ofFn (answerOf debate texts) })
        round).messageHistory =
      [⟨.user, debate.question⟩, ⟨.assistant, texts seat⟩,
        ⟨.user, instruction round ++ "\n\n" ++
          readOut debate texts fun other => other ≠ seat⟩] := by
  have others : (fun other => decide ((debate.personas other).id ≠ (debate.personas seat).id)) =
      fun other => decide (other ≠ seat) :=
    funext fun other => decide_eq_decide.mpr (not_congr distinct.eq_iff)
  have shown := renderAnswers_panel debate texts fun answer =>
    answer.personaID ≠ (debate.personas seat).id
  rw [show (fun seat_1 => decide ((answerOf debate texts seat_1).personaID ≠
      (debate.personas seat).id)) = _ from others] at shown
  simp only [buildRequest, later, if_true, ownLatest_append, othersFor_append,
    ownLatest_panel debate distinct, shown, List.cons_append, List.nil_append]
  by_cases odd : round % 2 = 1
  · have kind : kindOfRound round = .statement := if_pos odd
    simp only [kind, instruction, if_pos odd]
    rfl
  · have kind : kindOfRound round = .rebuttal := if_neg odd
    simp only [kind, instruction, if_neg odd]
    rfl

theorem sequential_render (rounds : Nat) :
    (sequential debate rounds).render =
      String.join ((List.range rounds).map fun earlier =>
        readOut debate (fun seat => sequentialText debate ⟨earlier + 1, some seat⟩)
          fun _ => true) := by
  induction rounds with
  | zero => rfl
  | succ rounds ih =>
      have last := renderAnswers_panel debate
        (fun seat => sequentialText debate ⟨rounds + 1, some seat⟩) fun _ => true
      rw [List.filter_true] at last
      rw [sequential, render_append, ih, List.range_succ, List.map_append, String.join_append,
        List.map_singleton, String.join_cons, String.join_nil, String.append_empty, ← last]
      rfl

end Requests

section Shown
variable {debate : Debate count} {state : State count}

theorem said_finished
    (distinct : Function.Injective fun seat => (debate.personas seat).id)
    (reachable : Reachable debate state) (uncancelled : state.cancelled = false)
    (seat : Fin count) (round : Nat)
    (finished : (state.calls ⟨round, some seat⟩).pc = .finished) :
    (state.calls ⟨round, some seat⟩).text =
        said state.events (debate.personas seat).id round ∧
      said state.events (debate.personas seat).id round =
        sequentialText debate ⟨round, some seat⟩ := by
  have shape := shape_reachable reachable
  have made : Makes debate ⟨round, some seat⟩ :=
    shape.ranged _ fun idle => by rw [finished] at idle; cases idle
  obtain ⟨request, asked, _, text, spoke⟩ :=
    finished_call (shape.coherent _) (conserves_uncancelled reachable uncancelled _) finished
  have heard := said_eq distinct seat round made.2 state.emitted
    (tagged_uncancelled reachable uncancelled)
  have same := asked_sequential reachable uncancelled _ _ asked
  have told : (state.calls ⟨round, some seat⟩).text =
      said state.events (debate.personas seat).id round := spoke.trans heard.symm
  refine ⟨told, told.symm.trans ?_⟩
  rw [text, same]
  rfl

theorem said_before
    (distinct : Function.Injective fun seat => (debate.personas seat).id)
    (reachable : Reachable debate state) (uncancelled : state.cancelled = false)
    {call : Call count} {request : Request}
    (asked : (state.calls call).request = some request) (round : Nat) (low : 1 ≤ round)
    (high : round < call.round) (seat : Fin count) :
    said state.events (debate.personas seat).id round =
      sequentialText debate ⟨round, some seat⟩ := by
  have shape := shape_reachable reachable
  have begun := begun_of_asked shape asked
  have finished := shape.ordered ⟨round, some seat⟩ call ⟨by simp, low, high⟩ begun
  exact (said_finished distinct reachable uncancelled seat round finished).2

end Shown

/-- In an uncancelled run every request is the sequential debate's, and shows
what was sent on `out` for the rounds before it; a panelist's text is what
was sent for it, and two runs agree on both. -/
theorem content_fixed_by_debate (debate : Debate count)
    (distinct : Function.Injective fun seat => (debate.personas seat).id)
    (state : State count) (reachable : Reachable debate state)
    (uncancelled : state.cancelled = false) :
    (∀ seat request, (state.calls ⟨1, some seat⟩).request = some request →
      request.messageHistory = [⟨.user, debate.question⟩]) ∧
    (∀ seat round request, 1 < round →
      (state.calls ⟨round, some seat⟩).request = some request →
      request.messageHistory =
        [⟨.user, debate.question⟩,
          ⟨.assistant, said state.events (debate.personas seat).id (round - 1)⟩,
          ⟨.user, instruction round ++ "\n\n" ++
            readOut debate
              (fun other => said state.events (debate.personas other).id (round - 1))
              fun other => other ≠ seat⟩]) ∧
    (∀ round request, (state.calls ⟨round, none⟩).request = some request →
      request.messageHistory =
        [⟨.user, debate.question ++ "\n\n" ++
          String.join ((List.range debate.rounds).map fun earlier =>
            readOut debate
              (fun seat => said state.events (debate.personas seat).id (earlier + 1))
              fun _ => true)⟩]) ∧
    (∀ seat round, (state.calls ⟨round, some seat⟩).pc = .finished →
      (state.calls ⟨round, some seat⟩).text =
        said state.events (debate.personas seat).id round) ∧
    ∀ other, Reachable debate other → other.cancelled = false →
      (∀ call first second, (state.calls call).request = some first →
        (other.calls call).request = some second → first = second) ∧
      ∀ seat round, (state.calls ⟨round, some seat⟩).pc = .finished →
        (other.calls ⟨round, some seat⟩).pc = .finished →
        said state.events (debate.personas seat).id round =
          said other.events (debate.personas seat).id round := by
  have asked := asked_sequential reachable uncancelled
  refine ⟨?_, ?_, ?_, ?_, ?_⟩
  · intro seat request made
    rw [asked _ _ made]
    rfl
  · intro seat round request later made
    have before := said_before distinct reachable uncancelled made (round - 1) (by omega)
      (Nat.sub_lt (by omega) Nat.one_pos)
    simp only [before]
    rw [asked _ _ made]
    -- `sequential` counts the rounds from zero
    obtain ⟨earlier, rfl⟩ := Nat.exists_eq_add_of_le' later
    exact buildRequest_history debate distinct
      (fun seat => sequentialText debate ⟨earlier + 1, some seat⟩)
      (sequential debate earlier) (earlier + 1) (earlier + 2) seat later
  · intro round request made
    have shape := shape_reachable reachable
    -- only the moderator calls without a seat
    have last : round = debate.rounds + 1 :=
      shape.ranged ⟨round, none⟩ (begun_of_asked shape made)
    subst last
    have before : ∀ earlier ∈ List.range debate.rounds, ∀ seat,
        said state.events (debate.personas seat).id (earlier + 1) =
          sequentialText debate ⟨earlier + 1, some seat⟩ := by
      intro earlier member
      have high := List.mem_range.mp member
      exact said_before distinct reachable uncancelled made (earlier + 1) (by omega)
        (Nat.succ_lt_succ high)
    have shown : (List.range debate.rounds).map (fun earlier =>
          readOut debate
            (fun seat => said state.events (debate.personas seat).id (earlier + 1))
            fun _ => true) =
        (List.range debate.rounds).map (fun earlier =>
          readOut debate (fun seat => sequentialText debate ⟨earlier + 1, some seat⟩)
            fun _ => true) :=
      List.map_congr_left fun earlier member => by
        rw [funext (before earlier member)]
    rw [shown, ← sequential_render, asked _ _ made]
    rfl
  · intro seat round finished
    exact (said_finished distinct reachable uncancelled seat round finished).1
  -- both runs ask what the sequential debate asks
  · intro other known undone
    have agreed := asked_sequential known undone
    constructor
    · intro call first second one two
      rw [asked _ _ one, agreed _ _ two]
    · intro seat round one two
      rw [(said_finished distinct reachable uncancelled seat round one).2,
        (said_finished distinct known undone seat round two).2]

theorem duet_distinct : Function.Injective fun seat => (duet.personas seat).id := by
  have apart : ∀ first second, (duet.personas first).id = (duet.personas second).id →
      first = second := by
    decide +kernel
  exact fun first second same => apart first second same

/-- The skeptic's second request, after a round in which the optimist's
stream failed. -/
theorem content_fixed_by_debate_rebuttal :
    ∃ state, Reachable duet state ∧
      ∃ request, (state.calls ⟨2, some duet_first⟩).request = some request ∧
        request.messageHistory =
          [⟨.user, "why?"⟩, ⟨.assistant, said state.events "skeptic" 1⟩,
            ⟨.user, instruction 2 ++ "\n\n" ++
              readOut duet (fun other => said state.events (duet.personas other).id 1)
                fun other => other ≠ duet_first⟩] := by
  have played : ((perform (step duet) always (State.initial duet false)
      (duet_round 1 ++ [.spawn, .stream ⟨2, some duet_first⟩ .start])).map fun state =>
        (state.cancelled, (state.calls ⟨2, some duet_first⟩).request.isSome)) =
      some (false, true) := by
    decide +kernel
  obtain ⟨state, run, known⟩ := Option.map_eq_some_iff.mp played
  obtain ⟨uncancelled, asked⟩ := Prod.mk.inj known
  obtain ⟨request, asked⟩ := Option.isSome_iff_exists.mp asked
  have reached : Reachable duet state := ⟨false, perform_reaches _ _ _ run⟩
  exact ⟨state, reached, request, asked,
    (content_fixed_by_debate duet duet_distinct state reached uncancelled).2.1 duet_first 2 request
      (by decide) asked⟩

end Council.DebateContent

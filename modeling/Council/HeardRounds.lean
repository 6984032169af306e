import Council.DebateShape

/-!
What a call is shown is what the finished calls of the rounds before it left
behind. This holds of every run: a finished call never changes its text, so
the transcript `Run` holds and the requests already made stay readings of the
present state.
-/

namespace Council.HeardRounds

open Council.Machines
open Council.Provider
open Council.Transcripts
open Council.Orchestration
open Council.DebateShape

variable {count : Nat}

/-- The transcript of the first `rounds` rounds, read off the calls. -/
def heard (debate : Debate count) (state : State count) (rounds : Nat) : Transcript :=
  { rounds := (List.range rounds).map fun earlier =>
      { number := earlier + 1, answers := state.answers debate (earlier + 1) } }

theorem heard_succ (debate : Debate count) (state : State count) (rounds : Nat) :
    heard debate state (rounds + 1) =
      (heard debate state rounds).append
        { number := rounds + 1, answers := state.answers debate (rounds + 1) } := by
  simp [heard, Transcript.append, List.range_succ]

/-- Every panelist's call of the first `rounds` rounds is over. -/
def Over (state : State count) (rounds : Nat) : Prop :=
  ∀ round seat, 1 ≤ round → round ≤ rounds →
    (state.calls ⟨round, some seat⟩).pc = .finished

/-- The transcript `Run` holds at this point. -/
def Recorded (debate : Debate count) (state : State count) : Prop :=
  match state.main with
  | .spawning round _ => state.transcript = heard debate state (round - 1)
  | .announcing round => state.transcript = heard debate state round
  | .moderating => state.transcript = heard debate state debate.rounds
  | _ => True

structure Hears (debate : Debate count) (state : State count) : Prop where
  recorded : Recorded debate state
  asked : ∀ call request, (state.calls call).request = some request →
    request = debate.request (heard debate state (call.round - 1)) call

section Steps
variable {debate : Debate count} {state before after : State count} {action : Action count}

theorem text_frozen (taken : step debate before action = some after)
    (shape : Shape debate before) (call : Call count)
    (finished : (before.calls call).pc = .finished) :
    (after.calls call).text = (before.calls call).text := by
  have staged := shape.staged
  cases moves_of_step debate before after action taken with
  | @spawn round seat at_ room =>
      have apart : call ≠ ⟨round, some seat⟩ := by
        rintro rfl
        have ahead := staged ⟨round, some seat⟩
        rw [at_] at ahead
        simp only [stage, le_refl, and_true, or_true, if_true] at ahead
        rw [finished] at ahead
        cases ahead
      dsimp only
      rw [Function.update_of_ne apart]
  | last at_ over_ =>
      have apart : call ≠ ⟨debate.rounds + 1, none⟩ := by
        rintro rfl
        have ahead := staged ⟨debate.rounds + 1, none⟩
        rw [at_, finished] at ahead
        cases ahead
      dsimp only
      rw [Function.update_of_ne apart]
  | @stream moved action stream events advanced =>
      by_cases here : call = moved
      · subst here
        dsimp only
        rw [Function.update_self]
        cases advanced with
        | spoke receives offered delta => rw [finished] at receives; cases receives
        | _ => rfl
      · dsimp only
        rw [Function.update_of_ne here]
  | _ => rfl

theorem heard_frozen (taken : step debate before action = some after)
    (shape : Shape debate before) {rounds : Nat} (over_ : Over before rounds) :
    heard debate after rounds = heard debate before rounds := by
  unfold heard
  congr 1
  refine List.map_congr_left fun earlier member => ?_
  have within := List.mem_range.mp member
  congr 1
  refine congrArg List.ofFn (funext fun seat => ?_)
  rw [text_frozen taken shape _ (over_ (earlier + 1) seat (by omega) (by omega))]

theorem over_of_spawning (shape : Shape debate state) {round next : Nat}
    (at_ : state.main = .spawning round next) : Over state (round - 1) := by
  intro earlier seat low high
  have past := shape.staged ⟨earlier, some seat⟩
  rw [at_, past_of_spawning (by simp) low (by dsimp only; omega)] at past
  exact past

theorem over_of_announcing (shape : Shape debate state) {round : Nat}
    (at_ : state.main = .announcing round) : Over state round := by
  intro earlier seat low high
  have past := shape.staged ⟨earlier, some seat⟩
  rw [at_, past_of_announcing (by simp) low high] at past
  exact past

theorem over_of_moderating (shape : Shape debate state) (at_ : state.main = .moderating) :
    Over state debate.rounds := by
  intro earlier seat low high
  have past := shape.staged ⟨earlier, some seat⟩
  rw [at_, stage_last _ (by simp), past_of_announcing (by simp) low high] at past
  exact past

theorem over_of_made (shape : Shape debate state) {call : Call count}
    (begun : (state.calls call).pc ≠ .idle) : Over state (call.round - 1) := by
  intro earlier seat low high
  exact shape.ordered ⟨earlier, some seat⟩ call ⟨by simp, low, by dsimp only; omega⟩ begun

theorem begun_of_asked (shape : Shape debate state) {call : Call count} {request : Request}
    (asked : (state.calls call).request = some request) : (state.calls call).pc ≠ .idle := by
  intro idle
  have coherent := shape.coherent call
  rw [Coherent, idle] at coherent
  rw [coherent] at asked
  cases asked

theorem transcript_of_calling (shape : Shape debate state) (recorded : Recorded debate state)
    {call : Call count} (calling : (state.calls call).pc = .calling) :
    state.transcript = heard debate state (call.round - 1) := by
  have fits := shape.staged call
  rw [calling] at fits
  rw [Recorded] at recorded
  obtain ⟨own, speaker⟩ := call
  cases at_ : state.main with
  | spawning round next =>
      rw [at_] at recorded fits
      cases speaker with
      | none => cases fits
      | some seat =>
          simp only [stage] at fits
          split at fits
          · cases fits
          · split at fits
            · rename_i here
              rw [here]
              exact recorded
            · cases fits
  -- no call is being made
  | announcing round =>
      rw [at_] at fits
      cases speaker with
      | none => cases fits
      | some seat =>
          simp only [stage] at fits
          split at fits
          · cases fits
          · cases fits
  | moderating =>
      rw [at_] at recorded fits
      cases speaker with
      | none =>
          simp only [stage] at fits
          split at fits
          · rename_i here
            rw [here]
            exact recorded
          · cases fits
      | some seat =>
          simp only [stage] at fits
          split at fits
          · cases fits
          · cases fits
  | returning =>
      rw [at_] at fits
      rcases fits with idle | finished
      · cases idle
      · cases finished
  | closed =>
      rw [at_] at fits
      rcases fits with idle | finished
      · cases idle
      · cases finished

theorem request_calling {calls : Call count → Streaming} {moved call : Call count}
    {request : Request}
    (made : (Function.update calls moved { pc := .calling } call).request = some request) :
    (calls call).request = some request := by
  by_cases here : call = moved
  · subst here
    rw [Function.update_self] at made
    cases made
  · rwa [Function.update_of_ne here] at made

/-- A request made earlier still reads the present state, and so does the one
this step makes, if it makes any. -/
theorem asked_step (taken : step debate before action = some after)
    (shape : Shape debate before) (hears : Hears debate before) (call : Call count)
    (request : Request) (made : (after.calls call).request = some request) :
    request = debate.request (heard debate after (call.round - 1)) call := by
  -- the rounds an earlier request has read are over
  have old : (before.calls call).request = some request →
      request = debate.request (heard debate after (call.round - 1)) call := by
    intro asked
    rw [heard_frozen taken shape (over_of_made shape (begun_of_asked shape asked))]
    exact hears.asked call request asked
  cases moves_of_step debate before after action taken with
  | spawn seat at_ room => exact old (request_calling made)
  | last at_ over_ => exact old (request_calling made)
  | @stream moved action stream events advanced =>
      by_cases here : call = moved
      · subst here
        have begun := begun_of_advanced advanced (shape.coherent call)
        rw [heard_frozen taken shape (over_of_made shape begun)] at old ⊢
        dsimp only at made
        rw [Function.update_self] at made
        cases advanced with
        | refused calls answer =>
            cases made
            rw [transcript_of_calling shape hears.recorded calls]
        | started calls answer =>
            cases made
            rw [transcript_of_calling shape hears.recorded calls]
        | _ => exact old made
      · dsimp only at made
        rw [Function.update_of_ne here] at made
        exact old made
  | _ => exact old made

theorem recorded_step (taken : step debate before action = some after)
    (shape : Shape debate before) (recorded : Recorded debate before) :
    Recorded debate after := by
  have bounded := shape.bounded
  have frozen : ∀ rounds, Over before rounds →
      heard debate after rounds = heard debate before rounds :=
    fun rounds over_ => heard_frozen taken shape over_
  rw [Recorded] at recorded
  cases moves_of_step debate before after action taken with
  | cancel fresh => exact recorded
  | @spawn round seat at_ room =>
      rw [at_] at recorded
      have same := frozen _ (over_of_spawning shape at_)
      exact recorded.trans same.symm
  -- `Wait` appends the round that is just over
  | @wait round at_ done =>
      rw [at_] at bounded recorded
      obtain ⟨earlier, rfl⟩ := Nat.exists_eq_add_of_le' bounded.1
      have before_ : before.transcript = heard debate before earlier := recorded
      have same := heard_succ debate before earlier
      rw [← before_] at same
      exact same.symm
  | another at_ left =>
      rw [at_] at recorded
      exact recorded
  | @last round at_ over_ =>
      rw [at_] at recorded bounded
      have full : round = debate.rounds := le_antisymm bounded.2 over_
      rw [full] at recorded
      have same := frozen _ (full ▸ over_of_announcing shape at_)
      exact recorded.trans same.symm
  | quit at_ done => exact trivial
  | close due => exact trivial
  | @stream moved action stream events advanced =>
      cases at_ : before.main with
      | spawning round next =>
          rw [at_] at recorded
          have same := frozen _ (over_of_spawning shape at_)
          simp only [Recorded]
          exact recorded.trans same.symm
      | announcing round =>
          rw [at_] at recorded
          have same := frozen _ (over_of_announcing shape at_)
          simp only [Recorded]
          exact recorded.trans same.symm
      | moderating =>
          rw [at_] at recorded
          have same := frozen _ (over_of_moderating shape at_)
          simp only [Recorded]
          exact recorded.trans same.symm
      | returning => simp only [Recorded]
      | closed => simp only [Recorded]

theorem hears_initial (debate : Debate count) (cancelled : Bool) :
    Hears debate (State.initial debate cancelled) := by
  unfold State.initial State.enter
  split
  · exact ⟨rfl, fun _ _ made => by cases made⟩
  · rename_i none_
    have zero : debate.rounds = 0 := by omega
    refine ⟨?_, fun call request made => ?_⟩
    · simp only [Recorded, heard, zero]
      rfl
    · by_cases here : call = ⟨debate.rounds + 1, none⟩
      · subst here
        dsimp only at made
        rw [Function.update_self] at made
        cases made
      · dsimp only at made
        rw [Function.update_of_ne here] at made
        cases made

theorem hears_reachable (reachable : Reachable debate state) : Hears debate state := by
  obtain ⟨cancelled, reached⟩ := reachable
  apply reached.invariant (Hears debate) (hears_initial debate cancelled)
  intro before action after earlier _ taken hears
  have shape := shape_reachable ⟨cancelled, earlier⟩
  exact ⟨recorded_step taken shape hears.recorded,
    fun call request made => asked_step taken shape hears call request made⟩

end Steps

end Council.HeardRounds

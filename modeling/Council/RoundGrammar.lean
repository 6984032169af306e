import Council.DebateContent
import Council.Interleavings
import Council.StreamLimit

/-!
What an uncancelled run puts on `out` is the beginning of a word of rounds:
the panel's words interleaved and closed by the round's mark, round after
round, and the moderator's word at the end.
-/

namespace Council.RoundGrammar

open Council.Machines
open Council.Provider
open Council.ServerProtocol
open Council.Orchestration
open Council.DebateShape
open Council.StreamWords
open Council.HeardRounds
open Council.DebateContent
open Council.StreamLimit
open Council.Interleavings

variable {count : Nat} {debate : Debate count} {state before after : State count}
  {action : Action count}

def answer (debate : Debate count) (call : Call count) : Outcome :=
  debate.provider call (sequentialRequest debate call)

/-- The word of a call: its tokens and its last event. -/
def word (debate : Debate count) (call : Call count) : List Event :=
  streamWord debate call (answer debate call)

def panelWords (debate : Debate count) (round : Nat) (seat : Fin count) : List Event :=
  word debate ⟨round, some seat⟩

/-- `B_1 RC(1) ... B_R RC(R) M`. -/
def SessionWord (debate : Debate count) (events : List Event) : Prop :=
  ∃ rounds, Rounds (panelWords debate) RoundComplete 1 debate.rounds rounds ∧
    events = rounds ++ word debate ⟨debate.rounds + 1, none⟩

/-- A round is open: the rounds before it are whole, and `block` holds what
each seat has sent for it. -/
def OpenRound (debate : Debate count) (state : State count) (round : Nat) : Prop :=
  ∃ closed block, Rounds (panelWords debate) RoundComplete 1 (round - 1) closed ∧
    state.events = closed ++ block.map Prod.snd ∧
    ∀ seat, tagged block seat = sentBy state.emitted ⟨round, some seat⟩

/-- The rounds are whole, and what follows is the moderator's. -/
def LastWord (debate : Debate count) (state : State count) : Prop :=
  ∃ closed, Rounds (panelWords debate) RoundComplete 1 debate.rounds closed ∧
    state.events = closed ++ sentBy state.emitted ⟨debate.rounds + 1, none⟩

/-- What `out` has carried, by where `Run` stands. -/
def Logged (debate : Debate count) (state : State count) : Prop :=
  match state.main with
  | .spawning round _ => OpenRound debate state round
  | .announcing round => OpenRound debate state round
  | .moderating => LastWord debate state
  | .closed =>
      LastWord debate state ∧ (state.calls ⟨debate.rounds + 1, none⟩).pc = .finished
  | .returning => False

section Words
variable (reachable : Reachable debate state) (uncancelled : state.cancelled = false)

include reachable uncancelled

theorem sent_begins (call : Call count) :
    sentBy state.emitted call <+: word debate call := by
  have conserved := conserves_uncancelled reachable uncancelled call
  cases made : (state.calls call).request with
  | none =>
      simp only [Conserved, made] at conserved
      rw [conserved]
      exact List.nil_prefix
  | some request =>
      simp only [Conserved, made] at conserved
      have same := asked_sequential reachable uncancelled call request made
      rw [same] at conserved
      exact ⟨_, conserved.1⟩

theorem sent_whole {call : Call count} (finished : (state.calls call).pc = .finished) :
    sentBy state.emitted call = word debate call := by
  obtain ⟨request, made, sent, _⟩ :=
    finished_call ((shape_reachable reachable).coherent call)
      (conserves_uncancelled reachable uncancelled call) finished
  rw [asked_sequential reachable uncancelled call request made] at sent
  exact sent

theorem sent_nothing {call : Call count} (idle : (state.calls call).pc = .idle) :
    sentBy state.emitted call = [] := by
  have conserved := conserves_uncancelled reachable uncancelled call
  have coherent := (shape_reachable reachable).coherent call
  rw [Coherent, idle] at coherent
  rw [coherent] at conserved
  exact conserved

end Words

section Steps

theorem sent_of_advanced {cancelled : Bool} {transcript : Transcripts.Transcript}
    {call : Call count} {stream moved : Streaming} {step_ : StreamAction} {events : List Event}
    (advanced : Advanced debate cancelled transcript call stream step_ moved events) :
    events = [] ∨ stream.pc.running = true := by
  cases advanced with
  | sent emits => exact .inr (by rw [emits]; rfl)
  | _ => exact .inl rfl

theorem open_silent {round : Nat} (opened : OpenRound debate before round)
    (emitted : after.emitted = before.emitted) : OpenRound debate after round := by
  rw [OpenRound, State.events, emitted]
  exact opened

theorem last_silent (logged : LastWord debate before)
    (emitted : after.emitted = before.emitted) : LastWord debate after := by
  rw [LastWord, State.events, emitted]
  exact logged

theorem open_stream {round : Nat} (opened : OpenRound debate before round) (seat : Fin count)
    (events : List Event) (sent : after.emitted =
      before.emitted ++ events.map fun event => (some ⟨round, some seat⟩, event)) :
    OpenRound debate after round := by
  obtain ⟨closed, block, rounds, log, own⟩ := opened
  refine ⟨closed, block ++ events.map fun event => (seat, event), rounds, ?_, fun other => ?_⟩
  · rw [State.events] at log ⊢
    rw [sent, List.map_append, log, List.map_append, List.append_assoc]
    simp
  · rw [sent, sentBy_stream, tagged_append, own other]
    congr 1
    by_cases here : other = seat
    · subst here
      simp [tagged, List.filter_map, Function.comp_def]
    · simp [tagged, here, Ne.symm here]

theorem last_stream (logged : LastWord debate before) (events : List Event)
    (sent : after.emitted =
      before.emitted ++ events.map fun event => (some ⟨debate.rounds + 1, none⟩, event)) :
    LastWord debate after := by
  obtain ⟨closed, rounds, log⟩ := logged
  refine ⟨closed, rounds, ?_⟩
  rw [State.events] at log ⊢
  rw [sent, sentBy_stream, if_pos rfl, List.map_append, log, List.append_assoc]
  simp

theorem closed_round (reachable : Reachable debate before)
    (uncancelled : before.cancelled = false) {round : Nat} (at_ : before.main = .announcing round)
    (opened : OpenRound debate before round) :
    Rounds (panelWords debate) RoundComplete 1 round
      (before.events ++ [RoundComplete round]) := by
  obtain ⟨closed, block, rounds, log, own⟩ := opened
  have shape := shape_reachable reachable
  have bounded := shape.bounded
  rw [at_] at bounded
  obtain ⟨earlier, rfl⟩ := Nat.exists_eq_add_of_le' bounded.1
  have words : tagged block = panelWords debate (1 + earlier) := by
    funext seat
    have finished := over_of_announcing shape at_ (earlier + 1) seat (by omega) (le_refl _)
    rw [own seat, sent_whole reachable uncancelled finished, Nat.add_comm earlier 1]
    rfl
  have interleaves : Interleaves (panelWords debate (1 + earlier)) (block.map Prod.snd) := by
    rw [← words]
    exact .of_tagged block
  have longer := rounds.snoc interleaves
  rw [log, List.append_assoc, Nat.add_comm earlier 1]
  rw [Nat.add_sub_cancel, Nat.add_comm earlier 1] at longer
  exact longer

theorem logged_quiet (logged : Logged debate before) (main : after.main = before.main)
    (emitted : after.emitted = before.emitted)
    (finished : ∀ call, (before.calls call).pc = .finished →
      (after.calls call).pc = .finished) : Logged debate after := by
  rw [Logged] at logged ⊢
  rw [main]
  cases at_ : before.main with
  | spawning round next =>
      rw [at_] at logged
      exact open_silent logged emitted
  | announcing round =>
      rw [at_] at logged
      exact open_silent logged emitted
  | moderating =>
      rw [at_] at logged
      exact last_silent logged emitted
  | closed =>
      rw [at_] at logged
      exact ⟨last_silent logged.1 emitted, finished _ logged.2⟩
  | returning =>
      rw [at_] at logged
      exact logged

theorem logged_step (taken : step debate before action = some after)
    (reachable : Reachable debate before) (uncancelled : before.cancelled = false)
    (kept : after.cancelled = false) (logged : Logged debate before) : Logged debate after := by
  have shape := shape_reachable reachable
  have staged := shape.staged
  cases moves_of_step debate before after action taken with
  | cancel fresh => cases kept
  | spawn seat at_ room =>
      rw [Logged, at_] at logged
      exact open_silent logged rfl
  | wait at_ done =>
      rw [Logged, at_] at logged
      exact open_silent logged rfl
  -- the mark closes the round, and the next one is still silent
  | @another round at_ left =>
      rw [Logged, at_] at logged
      have rounds := closed_round reachable uncancelled at_ logged
      refine ⟨before.events ++ [RoundComplete round], [], rounds, ?_, fun seat => ?_⟩
      · simp [State.events]
      · have ahead := staged ⟨round + 1, some seat⟩
        rw [at_] at ahead
        simp only [stage, Nat.lt_succ_self, or_true, if_true, Stage.Fits] at ahead
        dsimp only
        rw [sentBy_mark, sent_nothing reachable uncancelled ahead]
        rfl
  -- the mark closes the last round, and the moderator has said nothing
  | @last round at_ over_ =>
      rw [Logged, at_] at logged
      have rounds := closed_round reachable uncancelled at_ logged
      have bounded := shape.bounded
      rw [at_] at bounded
      have full : round = debate.rounds := le_antisymm bounded.2 over_
      have ahead := staged ⟨debate.rounds + 1, none⟩
      rw [at_] at ahead
      refine ⟨before.events ++ [RoundComplete round], full ▸ rounds, ?_⟩
      dsimp only
      rw [sentBy_mark, sent_nothing reachable uncancelled ahead]
      simp [State.events]
  | quit at_ done =>
      rw [uncancelled] at done
      cases done
  | close due =>
      rcases due with at_ | ⟨at_, ended⟩
      · rw [Logged, at_] at logged
        exact logged.elim
      · rw [Logged, at_] at logged
        exact ⟨last_silent logged rfl, ended⟩
  | @stream call action stream events advanced =>
      rcases sent_of_advanced advanced with nothing | running
      · subst nothing
        refine logged_quiet logged rfl (by simp) fun other finished => ?_
        refine forall_update (fun other stream => (before.calls other).pc = .finished →
          stream.pc = .finished) (fun over_ => ?_) (fun _ _ over_ => over_) other finished
        rcases pc_of_advanced advanced with same | ⟨running, _⟩
        · rw [same, over_]
        · rw [over_] at running
          cases running
      -- a step that sends is one of the open round or of the moderator
      · rcases running_current shape running with ⟨round, next, seat, at_, rfl⟩ | ⟨at_, rfl⟩
        · rw [Logged, at_] at logged
          simp only [Logged, at_]
          exact open_stream logged seat events rfl
        · rw [Logged, at_] at logged
          simp only [Logged, at_]
          exact last_stream logged events rfl

theorem logged_initial (debate : Debate count) (cancelled : Bool) :
    Logged debate (State.initial debate cancelled) := by
  unfold State.initial State.enter
  split
  · exact ⟨[], [], .empty 1, rfl, fun _ => rfl⟩
  · rename_i none_
    have zero : debate.rounds = 0 := by omega
    refine ⟨[], ?_, rfl⟩
    rw [zero]
    exact .empty 1

theorem logged_reachable (reachable : Reachable debate state)
    (uncancelled : state.cancelled = false) : Logged debate state := by
  obtain ⟨cancelled, reached⟩ := reachable
  refine reached.invariant (fun state => state.cancelled = false → Logged debate state)
    (fun _ => logged_initial debate cancelled) ?_ uncancelled
  intro before action after earlier _ taken holds undone
  have first := uncancelled_before taken undone
  exact logged_step taken ⟨cancelled, earlier⟩ first undone (holds first)

end Steps

theorem open_begins (reachable : Reachable debate state) (uncancelled : state.cancelled = false)
    {round : Nat} (low : 1 ≤ round) (high : round ≤ debate.rounds)
    (opened : OpenRound debate state round) :
    ∃ whole, SessionWord debate whole ∧ state.events <+: whole := by
  obtain ⟨closed, block, rounds, log, own⟩ := opened
  obtain ⟨earlier, rfl⟩ := Nat.exists_eq_add_of_le' low
  -- what the panel has yet to say completes the round
  obtain ⟨rest, interleaves⟩ :=
    Interleaves.complete (panelWords debate (1 + earlier)) block fun seat => by
      rw [own seat, Nat.add_comm earlier 1]
      exact sent_begins reachable uncancelled _
  rw [Nat.add_sub_cancel] at rounds
  obtain ⟨later, all⟩ := (rounds.snoc interleaves).extend (debate.rounds - (earlier + 1))
  rw [Nat.add_sub_cancel' high] at all
  refine ⟨_, ⟨_, all, rfl⟩, ?_⟩
  rw [log]
  simp only [List.append_assoc]
  exact (List.prefix_append_right_inj closed).mpr (List.prefix_append _ _)

theorem events_begin (reachable : Reachable debate state) (uncancelled : state.cancelled = false) :
    ∃ whole, SessionWord debate whole ∧ state.events <+: whole ∧
      (state.main = .closed → state.events = whole) := by
  have logged := logged_reachable reachable uncancelled
  have bounded := (shape_reachable reachable).bounded
  cases at_ : state.main with
  | spawning round next =>
      rw [at_] at bounded
      rw [Logged, at_] at logged
      obtain ⟨whole, session, begins⟩ :=
        open_begins reachable uncancelled bounded.1 bounded.2.1 logged
      exact ⟨whole, session, begins, fun closed => by cases closed⟩
  | announcing round =>
      rw [at_] at bounded
      rw [Logged, at_] at logged
      obtain ⟨whole, session, begins⟩ :=
        open_begins reachable uncancelled bounded.1 bounded.2 logged
      exact ⟨whole, session, begins, fun closed => by cases closed⟩
  | moderating =>
      rw [Logged, at_] at logged
      obtain ⟨closed, rounds, log⟩ := logged
      refine ⟨_, ⟨closed, rounds, rfl⟩, ?_, fun now => by cases now⟩
      rw [log]
      exact (List.prefix_append_right_inj closed).mpr
        (sent_begins reachable uncancelled _)
  -- an uncancelled run does not quit
  | returning =>
      rw [Logged, at_] at logged
      exact logged.elim
  | closed =>
      rw [Logged, at_] at logged
      obtain ⟨⟨closed, rounds, log⟩, finished⟩ := logged
      rw [sent_whole reachable uncancelled finished] at log
      exact ⟨_, ⟨closed, rounds, rfl⟩, by rw [log], fun _ => log⟩

end Council.RoundGrammar

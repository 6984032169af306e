import Council.Provider
import Council.ServerProtocol
import Council.Transcripts
import Council.Machines
import Mathlib.Logic.Function.Basic
import Mathlib.Data.List.FinRange

/-!
`orchestrator.Run` as a labelled machine: the goroutine that runs the rounds,
one goroutine for each persona of a round under the errgroup limit, and the
provider goroutine behind each stream. A send on the unbuffered channel `out`
is one step, taken when the consumer receives.

Every `Stream` call of a run has a name of its own, its round and its
speaker, so goroutines of different rounds are told apart. `emitted` records
what was sent on `out`; no step reads it.
-/

namespace Council.Orchestration

open Council.Provider
open Council.ServerProtocol
open Council.Transcripts

variable {count : Nat}

/-- A seat of the panel, or `none` for the moderator. -/
abbrev Speaker (count : Nat) := Option (Fin count)

structure Call (count : Nat) where
  round : Nat
  speaker : Speaker count
  deriving DecidableEq, Repr

structure Orchestrator (count : Nat) where
  provider : Call count → Request → Outcome
  model : String
  limit : Nat
  positive : 0 < limit

def New (provider : Call count → Request → Outcome) (model : String) (limit : Int) :
    Orchestrator count where
  provider := provider
  model := model
  limit := if limit ≤ 0 then 1 else limit.toNat
  positive := by split <;> omega

/-- The arguments of one `Run`. -/
structure Debate (count : Nat) extends Orchestrator count where
  question : String
  personas : Fin count → Persona
  rounds : Nat

def Debate.persona (debate : Debate count) : Speaker count → Persona
  | some seat => debate.personas seat
  | none => Moderator

def buildRequest (debate : Debate count) (persona : Persona) (prior : Transcript)
    (round : Nat) : Request :=
  let question : Message := { role := .user, message := debate.question }
  let own : List Message :=
    match prior.ownLatest persona.id with
    | some own => [{ role := .assistant, message := own.text }]
    | none => []
  let sysInstruction :=
    match kindOfRound round with
    | .statement => "Having heard the others, sharpen and restate YOUR position."
    | .rebuttal => "Directly rebut the other panelists' latest points below."
  let otherMsgs := renderAnswers (prior.othersFor persona.id)
  { systemPrompt := persona.systemPrompt
    messageHistory :=
      if round > 1 then
        question :: (own ++
          [{ role := .user, message := sysInstruction ++ "\n\n" ++ otherMsgs }])
      else [question]
    model := debate.model }

/-- The request of `runModerator`. -/
def moderatorRequest (debate : Debate count) (transcript : Transcript) : Request :=
  { systemPrompt := Moderator.systemPrompt
    messageHistory :=
      [{ role := .user, message := debate.question ++ "\n\n" ++ transcript.render }]
    model := debate.model }

def Debate.request (debate : Debate count) (transcript : Transcript) (call : Call count) :
    Request :=
  match call.speaker with
  | some seat => buildRequest debate (debate.personas seat) transcript call.round
  | none => moderatorRequest debate transcript

/-- Where an activation of `stream` stands. `emitting event more` is the
select of `emit`; after a send it returns to the loop if `more`. -/
inductive Pc where
  | idle
  | calling
  | receiving
  | emitting (event : Event) (more : Bool)
  | finished
  deriving DecidableEq, Repr

/-- An activation of `stream`: the request it made, the builder's text, and
the provider goroutine it reads from. -/
structure Streaming where
  pc : Pc := .idle
  request : Option Request := none
  text : String := ""
  source : Producer := .absent
  deriving DecidableEq, Repr

/-- The goroutine holds a place in the errgroup. -/
def Pc.running : Pc → Bool
  | .idle => false
  | .finished => false
  | _ => true

/-- The event after a stream that closed without an error. -/
def Debate.ending (debate : Debate count) (call : Call count) (text : String) : Event :=
  match call.speaker with
  | none => Verdict text
  | some seat => PersonaDone (debate.personas seat).id call.round

def Debate.failure (debate : Debate count) (call : Call count) : Event :=
  Error (debate.persona call.speaker).id "stream failed"

inductive StreamAction where
  | start
  | produce
  | lose
  | abort
  | pass
  | drain
  | send
  | drop
  deriving DecidableEq, Repr

/-- One step of an activation or of its provider goroutine, and what it sends
on `out`. -/
def advance (debate : Debate count) (cancelled : Bool) (transcript : Transcript)
    (call : Call count) (stream : Streaming) :
    StreamAction → Option (Streaming × List Event)
  | .start =>
      match stream.pc with
      | .calling =>
          let request := debate.request transcript call
          match debate.provider call request with
          | .error _ =>
              some ({ stream with
                pc := .emitting (debate.failure call) false, request := some request }, [])
          | .ok script =>
              some ({ stream with
                pc := .receiving, request := some request,
                source := .reading script.events }, [])
      | _ => none
  | .produce => stream.source.produce.map fun source => ({ stream with source := source }, [])
  | .lose =>
      if cancelled then
        stream.source.lose.map fun source => ({ stream with source := source }, [])
      else none
  | .abort =>
      if cancelled then
        stream.source.abort.map fun source => ({ stream with source := source }, [])
      else none
  | .pass =>
      match stream.pc, stream.source with
      | .receiving, .sending event pending =>
          match event.err with
          | some _ =>
              some ({ stream with
                pc := .emitting (debate.failure call) false,
                source := .sent event pending }, [])
          | none =>
              some ({ stream with
                pc := .emitting
                  (Token (debate.persona call.speaker).id call.round event.delta) true,
                text := stream.text ++ event.delta,
                source := .sent event pending }, [])
      | _, _ => none
  | .drain =>
      match stream.pc, stream.source with
      | .receiving, .closed =>
          some ({ stream with pc := .emitting (debate.ending call stream.text) false }, [])
      | _, _ => none
  | .send =>
      match stream.pc with
      | .emitting event more =>
          some ({ stream with pc := if more then .receiving else .finished }, [event])
      | _ => none
  | .drop =>
      match stream.pc with
      | .emitting _ _ =>
          if cancelled then some ({ stream with pc := .finished }, []) else none
      | _ => none

/-- The goroutine of `Run`: at the `next`-th `g.Go` or, past the panel, at
`g.Wait`; at the `emit` of a round's end; in `runModerator`; at the deferred
`close(out)`; or gone. -/
inductive Main where
  | spawning (round next : Nat)
  | announcing (round : Nat)
  | moderating
  | returning
  | closed
  deriving DecidableEq, Repr

structure State (count : Nat) where
  cancelled : Bool
  main : Main
  transcript : Transcript
  calls : Call count → Streaming
  emitted : List (Option (Call count) × Event)

/-- The events on `out`, in the order they were sent. -/
def State.events (state : State count) : List Event := state.emitted.map Prod.snd

/-- How many goroutines of the round hold a place in the errgroup. -/
def State.running (state : State count) (round : Nat) : Nat :=
  (List.finRange count).countP fun seat => (state.calls ⟨round, some seat⟩).pc.running

/-- The slice `answers` once every goroutine of the round has stored its own. -/
def State.answers (debate : Debate count) (state : State count) (round : Nat) :
    List PersonaAnswer :=
  List.ofFn fun seat =>
    { personaID := (debate.personas seat).id
      name := (debate.personas seat).name
      text := (state.calls ⟨round, some seat⟩).text }

/-- The loop head: another round, or the moderator. -/
def State.enter (debate : Debate count) (state : State count) (round : Nat) : State count :=
  if round ≤ debate.rounds then { state with main := .spawning round 0 }
  else
    { state with
      main := .moderating
      calls := Function.update state.calls ⟨debate.rounds + 1, none⟩ { pc := .calling } }

/-- The state `Run` starts in. -/
def State.initial (debate : Debate count) (cancelled : Bool) : State count :=
  State.enter debate
    { cancelled := cancelled, main := .returning, transcript := {}, calls := fun _ => {},
      emitted := [] } 1

inductive Action (count : Nat) where
  | cancel
  | spawn
  | wait
  | announce
  | quit
  | close
  | stream (call : Call count) (action : StreamAction)
  deriving DecidableEq, Repr

/-- The step sends on `out`, so the consumer must receive. -/
def Action.sends : Action count → Bool
  | .announce => true
  | .stream _ .send => true
  | _ => false

def step (debate : Debate count) (state : State count) : Action count → Option (State count)
  | .cancel => if state.cancelled then none else some { state with cancelled := true }
  | .spawn =>
      match state.main with
      | .spawning round next =>
          if vacant : next < count then
            if state.running round < debate.limit then
              some { state with
                main := .spawning round (next + 1)
                calls := Function.update state.calls ⟨round, some ⟨next, vacant⟩⟩
                  { pc := .calling } }
            else none
          else none
      | _ => none
  | .wait =>
      match state.main with
      | .spawning round next =>
          if next = count ∧ state.running round = 0 then
            some { state with
              main := .announcing round
              transcript := state.transcript.append
                { number := round, answers := state.answers debate round } }
          else none
      | _ => none
  | .announce =>
      match state.main with
      | .announcing round =>
          some (State.enter debate
            { state with emitted := state.emitted ++ [(none, RoundComplete round)] }
            (round + 1))
      | _ => none
  | .quit =>
      match state.main with
      | .announcing _ =>
          if state.cancelled then some { state with main := .returning } else none
      | _ => none
  | .close =>
      match state.main with
      | .moderating =>
          if (state.calls ⟨debate.rounds + 1, none⟩).pc = .finished then
            some { state with main := .closed }
          else none
      | .returning => some { state with main := .closed }
      | _ => none
  | .stream call action =>
      (advance debate state.cancelled state.transcript call (state.calls call) action).map
        fun result =>
          { state with
            calls := Function.update state.calls call result.1
            emitted := state.emitted ++ result.2.map fun event => (some call, event) }

/-- Everything one step of an activation can do. -/
inductive Advanced (debate : Debate count) (cancelled : Bool) (transcript : Transcript)
    (call : Call count) (before : Streaming) :
    StreamAction → Streaming → List Event → Prop where
  | refused {reason : String} (calls : before.pc = .calling)
      (answer : debate.provider call (debate.request transcript call) = .error reason) :
      Advanced debate cancelled transcript call before .start
        { before with
          pc := .emitting (debate.failure call) false
          request := some (debate.request transcript call) } []
  | started {script : Script} (calls : before.pc = .calling)
      (answer : debate.provider call (debate.request transcript call) = .ok script) :
      Advanced debate cancelled transcript call before .start
        { before with
          pc := .receiving
          request := some (debate.request transcript call)
          source := .reading script.events } []
  | produced {source : Producer} (moved : before.source.produce = some source) :
      Advanced debate cancelled transcript call before .produce
        { before with source := source } []
  | lost {source : Producer} (done : cancelled = true)
      (moved : before.source.lose = some source) :
      Advanced debate cancelled transcript call before .lose
        { before with source := source } []
  | aborted {source : Producer} (done : cancelled = true)
      (moved : before.source.abort = some source) :
      Advanced debate cancelled transcript call before .abort
        { before with source := source } []
  | failed {event : StreamEvent} {pending : List StreamEvent} {reason : String}
      (receives : before.pc = .receiving) (offered : before.source = .sending event pending)
      (error : event.err = some reason) :
      Advanced debate cancelled transcript call before .pass
        { before with
          pc := .emitting (debate.failure call) false
          source := .sent event pending } []
  | spoke {event : StreamEvent} {pending : List StreamEvent}
      (receives : before.pc = .receiving) (offered : before.source = .sending event pending)
      (delta : event.err = none) :
      Advanced debate cancelled transcript call before .pass
        { before with
          pc := .emitting (Token (debate.persona call.speaker).id call.round event.delta) true
          text := before.text ++ event.delta
          source := .sent event pending } []
  | drained (receives : before.pc = .receiving) (ended : before.source = .closed) :
      Advanced debate cancelled transcript call before .drain
        { before with pc := .emitting (debate.ending call before.text) false } []
  | sent {event : Event} {more : Bool} (emits : before.pc = .emitting event more) :
      Advanced debate cancelled transcript call before .send
        { before with pc := if more then .receiving else .finished } [event]
  | dropped {event : Event} {more : Bool} (done : cancelled = true)
      (emits : before.pc = .emitting event more) :
      Advanced debate cancelled transcript call before .drop
        { before with pc := .finished } []

theorem advanced_of_advance (debate : Debate count) (cancelled : Bool)
    (transcript : Transcript) (call : Call count) (before after : Streaming)
    (action : StreamAction) (events : List Event)
    (taken : advance debate cancelled transcript call before action = some (after, events)) :
    Advanced debate cancelled transcript call before action after events := by
  cases action with
  | start =>
      simp only [advance] at taken
      split at taken
      · rename_i calls
        split at taken
        · rename_i reason answer
          cases taken
          exact .refused calls answer
        · rename_i script answer
          cases taken
          exact .started calls answer
      · cases taken
  | produce =>
      obtain ⟨source, moved, same⟩ := Option.map_eq_some_iff.mp taken
      cases same
      exact .produced moved
  | lose =>
      simp only [advance] at taken
      split at taken
      · rename_i done
        obtain ⟨source, moved, same⟩ := Option.map_eq_some_iff.mp taken
        cases same
        exact .lost done moved
      · cases taken
  | abort =>
      simp only [advance] at taken
      split at taken
      · rename_i done
        obtain ⟨source, moved, same⟩ := Option.map_eq_some_iff.mp taken
        cases same
        exact .aborted done moved
      · cases taken
  | pass =>
      simp only [advance] at taken
      split at taken
      · rename_i event pending receives offered
        split at taken
        · rename_i reason error
          cases taken
          exact .failed receives offered error
        · rename_i delta
          cases taken
          exact .spoke receives offered delta
      · cases taken
  | drain =>
      simp only [advance] at taken
      split at taken
      · rename_i receives ended
        cases taken
        exact .drained receives ended
      · cases taken
  | send =>
      simp only [advance] at taken
      split at taken
      · rename_i event more emits
        cases taken
        exact .sent emits
      · cases taken
  -- the other arm of the select in `emit`
  | drop =>
      simp only [advance] at taken
      split at taken
      · rename_i event more emits
        split at taken
        · rename_i done
          cases taken
          exact .dropped done emits
        · cases taken
      · cases taken

/-- Everything one step of a run can do. -/
inductive Moves (debate : Debate count) (state : State count) :
    Action count → State count → Prop where
  | cancel (fresh : state.cancelled = false) :
      Moves debate state .cancel { state with cancelled := true }
  | spawn {round : Nat} (seat : Fin count) (at_ : state.main = .spawning round seat)
      (room : state.running round < debate.limit) :
      Moves debate state .spawn
        { state with
          main := .spawning round (seat + 1)
          calls := Function.update state.calls ⟨round, some seat⟩ { pc := .calling } }
  | wait {round : Nat} (at_ : state.main = .spawning round count)
      (done : state.running round = 0) :
      Moves debate state .wait
        { state with
          main := .announcing round
          transcript := state.transcript.append
            { number := round, answers := state.answers debate round } }
  | another {round : Nat} (at_ : state.main = .announcing round)
      (left : round < debate.rounds) :
      Moves debate state .announce
        { state with
          main := .spawning (round + 1) 0
          emitted := state.emitted ++ [(none, RoundComplete round)] }
  | last {round : Nat} (at_ : state.main = .announcing round)
      (over_ : debate.rounds ≤ round) :
      Moves debate state .announce
        { state with
          main := .moderating
          calls := Function.update state.calls ⟨debate.rounds + 1, none⟩ { pc := .calling }
          emitted := state.emitted ++ [(none, RoundComplete round)] }
  | quit {round : Nat} (at_ : state.main = .announcing round)
      (done : state.cancelled = true) :
      Moves debate state .quit { state with main := .returning }
  | close (due : state.main = .returning ∨ state.main = .moderating ∧
        (state.calls ⟨debate.rounds + 1, none⟩).pc = .finished) :
      Moves debate state .close { state with main := .closed }
  | stream {call : Call count} {action : StreamAction} {after : Streaming}
      {events : List Event}
      (advanced : Advanced debate state.cancelled state.transcript call (state.calls call)
        action after events) :
      Moves debate state (.stream call action)
        { state with
          calls := Function.update state.calls call after
          emitted := state.emitted ++ events.map fun event => (some call, event) }

theorem moves_of_step (debate : Debate count) (state after : State count)
    (action : Action count) (taken : step debate state action = some after) :
    Moves debate state action after := by
  cases action with
  | cancel =>
      simp only [step] at taken
      split at taken
      · cases taken
      · rename_i fresh
        cases taken
        exact .cancel (by simpa using fresh)
  | spawn =>
      simp only [step] at taken
      split at taken
      · rename_i round next at_
        split at taken
        · rename_i vacant
          split at taken
          · rename_i room
            cases taken
            exact .spawn ⟨next, vacant⟩ at_ room
          · cases taken
        · cases taken
      · cases taken
  | wait =>
      simp only [step] at taken
      split at taken
      · rename_i round next at_
        split at taken
        · rename_i done
          obtain ⟨full, idle⟩ := done
          cases taken
          subst full
          exact .wait at_ idle
        · cases taken
      · cases taken
  -- after the last round `enter` calls the moderator
  | announce =>
      simp only [step, State.enter] at taken
      split at taken
      · rename_i round at_
        split at taken
        · rename_i left
          cases taken
          exact .another at_ left
        · rename_i over_
          cases taken
          exact .last at_ (Nat.le_of_not_lt over_)
      · cases taken
  | quit =>
      simp only [step] at taken
      split at taken
      · rename_i round at_
        split at taken
        · rename_i done
          cases taken
          exact .quit at_ done
        · cases taken
      · cases taken
  | close =>
      simp only [step] at taken
      split at taken
      · rename_i at_
        split at taken
        · rename_i ended
          cases taken
          exact .close (.inr ⟨at_, ended⟩)
        · cases taken
      · rename_i at_
        cases taken
        exact .close (.inl at_)
      · cases taken
  | stream call action =>
      obtain ⟨⟨after, events⟩, advanced, same⟩ := Option.map_eq_some_iff.mp taken
      cases same
      exact .stream (advanced_of_advance _ _ _ _ _ _ _ _ advanced)

/-- Two panelists, one at a time, over two rounds; each stream has two deltas
and the second panelist's fails after them. -/
def duet : Debate 2 where
  toOrchestrator :=
    New (fun call _ => .ok ⟨["a", "b"],
      if call.speaker.any fun seat => seat.val = 1 then some "reset" else none⟩) "glm" 0
  question := "why?"
  personas := fun seat =>
    if seat.val = 0 then ⟨"The Skeptic", "skeptic", "doubt"⟩
    else ⟨"The Optimist", "optimist", "hope"⟩
  rounds := 2

def duet_first : Fin 2 := ⟨0, Nat.zero_lt_two⟩
def duet_second : Fin 2 := ⟨1, Nat.one_lt_two⟩

/-- The steps of a call of `duet`: two tokens, then the last event, reached
by `ending`. -/
def duet_call (round : Nat) (speaker : Speaker 2) (ending : List StreamAction) :
    List (Action 2) :=
  let spoken : List StreamAction :=
    [.start, .produce, .pass, .send, .produce, .pass, .send, .produce] ++ ending ++ [.send]
  spoken.map (.stream ⟨round, speaker⟩)

def duet_round (round : Nat) : List (Action 2) :=
  [.spawn] ++ duet_call round (some duet_first) [.drain] ++ [.spawn] ++
    duet_call round (some duet_second) [.pass] ++ [.wait, .announce]

end Council.Orchestration

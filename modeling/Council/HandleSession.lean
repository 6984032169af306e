import Council.Unwinding

/-!
`ws.HandleSession` (`backend/internal/ws/session.go`) as a labelled machine:
one connection, its handler, and the `Run` the handler starts. The handler
receives from `out` only at the head of its loop; goroutines of `Run` go on
beside it, also after it has returned.

`frames` holds what the client has sent. `written` records the events that
were written successfully; no step reads it.
-/

namespace Council.HandleSession

open Council.Machines
open Council.Provider
open Council.ServerProtocol
open Council.Orchestration
open Council.DebateShape

variable {count : Nat}

/-- What the handler closes over, and whether a connection that is closed
already takes the write of an event. -/
structure Handler (count : Nat) extends Orchestrator count where
  personas : Fin count → Persona
  closedTakes : Event → Bool

/-- The arguments of `orch.Run` for a valid ask. -/
def Handler.debate (handler : Handler count) (message : ClientMessage) : Debate count where
  toOrchestrator := handler.toOrchestrator
  question := message.question
  personas := handler.personas
  rounds := if message.rounds = 0 then DefaultRounds else message.rounds.toNat

/-- Where the handler stands. A write is `late` if `ctx` was done when its
event was received; a return is `complete` if `out` was closed and `ctx` was
not done. -/
inductive Phase where
  | accepting
  | reading
  | validating (message : ClientMessage)
  | refusing
  | looping
  | writing (event : Event) (late : Bool)
  | returned (complete : Bool)
  deriving DecidableEq, Repr

/-- A frame is `none` if it is no JSON message of at most `maxInboundBytes`. -/
structure Session (count : Nat) where
  phase : Phase := .accepting
  frames : List (Option ClientMessage) := []
  gone : Bool := false
  run : Option (Debate count × State count) := none
  written : List Event := []

inductive Action (count : Nat) where
  | send (frame : Option ClientMessage)
  | leave
  | accept (succeeds : Bool)
  | read
  | interrupt
  | validate
  | refuse (succeeds : Bool)
  | run (action : Orchestration.Action count)
  | drained
  | write (succeeds : Bool)
  | disconnect
  deriving DecidableEq, Repr

/-- Only the client can take the step. -/
def Action.client : Action count → Bool
  | .send _ | .leave => true
  | _ => false

/-- The event this step of `Run` hands to the consumer. -/
def offered (state : State count) : Orchestration.Action count → Option Event
  | .announce =>
      match state.main with
      | .announcing round => some (RoundComplete round)
      | _ => none
  | .stream call .send =>
      match (state.calls call).pc with
      | .emitting event _ => some event
      | _ => none
  | _ => none

/-- `cancel()`, which may come twice. -/
def cancel (run : Debate count × State count) : Debate count × State count :=
  (run.1, { run.2 with cancelled := true })

def refusal : Event := Error "" "invalid request"

def step (handler : Handler count) (session : Session count) :
    Action count → Option (Session count)
  | .send frame =>
      if session.gone then none
      else some { session with frames := session.frames ++ [frame] }
  | .leave => if session.gone then none else some { session with gone := true }
  | .accept succeeds =>
      match session.phase with
      | .accepting =>
          some { session with phase := if succeeds then .reading else .returned false }
      | _ => none
  | .read =>
      -- without a deadline: the read waits for the first frame or the close
      match session.phase, session.frames with
      | .reading, some message :: _ => some { session with phase := .validating message }
      | .reading, none :: _ => some { session with phase := .returned false }
      | _, _ => none
  | .interrupt =>
      match session.phase with
      | .reading =>
          if session.gone then some { session with phase := .returned false } else none
      | _ => none
  | .validate =>
      match session.phase with
      | .validating message =>
          match message.validate with
          | some _ => some { session with phase := .refusing }
          | none =>
              let debate := handler.debate message
              some { session with
                phase := .looping
                run := some (debate, State.initial debate false) }
      | _ => none
  | .refuse succeeds =>
      -- the first frame of a connection always fits its send buffer
      match session.phase with
      | .refusing =>
          some { session with
            phase := .returned false
            written := if succeeds then session.written ++ [refusal] else session.written }
      | _ => none
  | .run action =>
      match session.run with
      | some (debate, state) =>
          if action = .cancel then none
          else
            match Orchestration.step debate state action, offered state action with
            | some after, none => some { session with run := some (debate, after) }
            | some after, some event =>
                match session.phase with
                | .looping =>
                    some { session with
                      phase := .writing event state.cancelled
                      run := some (debate, after) }
                | _ => none
            | none, _ => none
      | none => none
  | .drained =>
      match session.phase, session.run with
      | .looping, some (debate, state) =>
          if state.main = .closed then
            some { session with
              phase := .returned (!state.cancelled)
              run := some (cancel (debate, state)) }
          else none
      | _, _ => none
  | .write succeeds =>
      match session.phase with
      | .writing event late =>
          if succeeds then
            -- CloseRead closes the connection before it cancels `ctx`
            if late = false ∨ handler.closedTakes event then
              some { session with phase := .looping, written := session.written ++ [event] }
            else none
          else
            some { session with phase := .returned false, run := session.run.map cancel }
      | _ => none
  | .disconnect =>
      match session.run with
      | some (debate, state) =>
          -- a second data frame violates CloseRead and closes the connection
          if (session.gone ∨ 2 ≤ session.frames.length) ∧ state.cancelled = false then
            some { session with run := some (cancel (debate, state)) }
          else none
      | none => none

/-- Everything one step can do. -/
inductive Moves (handler : Handler count) (session : Session count) :
    Action count → Session count → Prop where
  | send (frame : Option ClientMessage) (present : session.gone = false) :
      Moves handler session (.send frame)
        { session with frames := session.frames ++ [frame] }
  | leave (present : session.gone = false) :
      Moves handler session .leave { session with gone := true }
  | accept (at_ : session.phase = .accepting) (succeeds : Bool) :
      Moves handler session (.accept succeeds)
        { session with phase := if succeeds then .reading else .returned false }
  | read {message : ClientMessage} {rest : List (Option ClientMessage)}
      (at_ : session.phase = .reading) (first : session.frames = some message :: rest) :
      Moves handler session .read { session with phase := .validating message }
  | garbled {rest : List (Option ClientMessage)}
      (at_ : session.phase = .reading) (first : session.frames = none :: rest) :
      Moves handler session .read { session with phase := .returned false }
  | interrupt (at_ : session.phase = .reading) (gone : session.gone = true) :
      Moves handler session .interrupt { session with phase := .returned false }
  | invalid {message : ClientMessage} {reason : String}
      (at_ : session.phase = .validating message) (wrong : message.validate = some reason) :
      Moves handler session .validate { session with phase := .refusing }
  | valid {message : ClientMessage}
      (at_ : session.phase = .validating message) (accepted : message.validate = none) :
      Moves handler session .validate
        { session with
          phase := .looping
          run := some (handler.debate message,
            State.initial (handler.debate message) false) }
  | refuse (at_ : session.phase = .refusing) (succeeds : Bool) :
      Moves handler session (.refuse succeeds)
        { session with
          phase := .returned false
          written := if succeeds then session.written ++ [refusal] else session.written }
  | inner {debate : Debate count} {state after : State count}
      {action : Orchestration.Action count} (runs : session.run = some (debate, state))
      (kept : action ≠ .cancel) (taken : Orchestration.step debate state action = some after)
      (silent : offered state action = none) :
      Moves handler session (.run action) { session with run := some (debate, after) }
  | receive {debate : Debate count} {state after : State count}
      {action : Orchestration.Action count} {event : Event}
      (at_ : session.phase = .looping) (runs : session.run = some (debate, state))
      (kept : action ≠ .cancel) (taken : Orchestration.step debate state action = some after)
      (offers : offered state action = some event) :
      Moves handler session (.run action)
        { session with
          phase := .writing event state.cancelled
          run := some (debate, after) }
  | drained {debate : Debate count} {state : State count}
      (at_ : session.phase = .looping) (runs : session.run = some (debate, state))
      (closed : state.main = .closed) :
      Moves handler session .drained
        { session with
          phase := .returned (!state.cancelled)
          run := some (cancel (debate, state)) }
  | wrote {event : Event} {late : Bool} (at_ : session.phase = .writing event late)
      (took : late = false ∨ handler.closedTakes event = true) :
      Moves handler session (.write true)
        { session with phase := .looping, written := session.written ++ [event] }
  | failed {event : Event} {late : Bool} (at_ : session.phase = .writing event late) :
      Moves handler session (.write false)
        { session with phase := .returned false, run := session.run.map cancel }
  | disconnect {debate : Debate count} {state : State count}
      (runs : session.run = some (debate, state))
      (cause : session.gone = true ∨ 2 ≤ session.frames.length)
      (fresh : state.cancelled = false) :
      Moves handler session .disconnect
        { session with run := some (cancel (debate, state)) }

theorem moves_of_step (handler : Handler count) (session after : Session count)
    (action : Action count) (taken : step handler session action = some after) :
    Moves handler session action after := by
  cases action with
  | send frame =>
      simp only [step] at taken
      split at taken
      · cases taken
      · rename_i present
        cases taken
        exact .send frame (by simpa using present)
  | leave =>
      simp only [step] at taken
      split at taken
      · cases taken
      · rename_i present
        cases taken
        exact .leave (by simpa using present)
  | accept succeeds =>
      simp only [step] at taken
      split at taken
      · rename_i at_
        cases taken
        exact .accept at_ succeeds
      · cases taken
  | read =>
      simp only [step] at taken
      split at taken
      · rename_i at_ first
        cases taken
        exact .read at_ first
      · rename_i at_ first
        cases taken
        exact .garbled at_ first
      · cases taken
  | interrupt =>
      simp only [step] at taken
      split at taken
      · rename_i at_
        split at taken
        · rename_i gone
          cases taken
          exact .interrupt at_ gone
        · cases taken
      · cases taken
  | validate =>
      simp only [step] at taken
      split at taken
      · rename_i message at_
        split at taken
        · rename_i wrong
          cases taken
          exact .invalid at_ wrong
        · rename_i accepted
          cases taken
          exact .valid at_ accepted
      · cases taken
  | refuse succeeds =>
      simp only [step] at taken
      split at taken
      · rename_i at_
        cases taken
        exact .refuse at_ succeeds
      · cases taken
  -- a step of `Run` that offers an event needs the handler at its receive
  | run action =>
      simp only [step] at taken
      split at taken
      · rename_i debate state runs
        split at taken
        · cases taken
        · rename_i kept
          split at taken
          · rename_i advanced silent
            cases taken
            exact .inner runs kept advanced silent
          · rename_i advanced offers
            split at taken
            · rename_i at_
              cases taken
              exact .receive at_ runs kept advanced offers
            · cases taken
          · cases taken
      · cases taken
  | drained =>
      simp only [step] at taken
      split at taken
      · rename_i debate state at_ runs
        split at taken
        · rename_i closed
          cases taken
          exact .drained at_ runs closed
        · cases taken
      · cases taken
  -- a write that succeeds does so before `ctx` is done, or on a closed connection that takes it
  | write succeeds =>
      simp only [step] at taken
      split at taken
      · rename_i event late at_
        split at taken
        · rename_i success
          subst success
          split at taken
          · rename_i took
            cases taken
            exact .wrote at_ took
          · cases taken
        · rename_i failure
          have refused : succeeds = false := by simpa using failure
          subst refused
          cases taken
          exact .failed at_
      · cases taken
  | disconnect =>
      simp only [step] at taken
      split at taken
      · rename_i debate state runs
        split at taken
        · rename_i cause
          cases taken
          exact .disconnect runs cause.1 cause.2
        · cases taken
      · cases taken

end Council.HandleSession

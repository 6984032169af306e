/-!
Model providers (`backend/internal/provider`): requests, stream events, and
the goroutine behind one stream. `ZaiProvider` and `FakeProvider` share its
shape: a select on `ctx.Done()` before every send, at most one error, sent
last, and a deferred close.
-/

namespace Council.Provider

inductive Role where
  | system
  | user
  | assistant
  deriving DecidableEq, Repr

structure Message where
  role : Role
  message : String
  deriving DecidableEq, Repr

structure Request where
  systemPrompt : String
  messageHistory : List Message
  model : String
  deriving DecidableEq, Repr

structure StreamEvent where
  delta : String := ""
  err : Option String := none
  deriving DecidableEq, Repr

/-- What a stream that starts has to say: finitely many deltas, and then it
closes or sends one error. -/
structure Script where
  deltas : List String
  failure : Option String
  deriving DecidableEq, Repr

def Script.events (script : Script) : List StreamEvent :=
  script.deltas.map (fun delta => { delta := delta }) ++
    script.failure.toList.map fun failure => { err := some failure }

/-- The answer of one `Stream` call: an error, or a script played out by a
goroutine of its own. -/
abbrev Outcome := Except String Script

/-- The goroutine behind a stream: between two sends (`reading`), at its
select, past its error with the close still due, or gone. -/
inductive Producer where
  | absent
  | reading (pending : List StreamEvent)
  | sending (event : StreamEvent) (pending : List StreamEvent)
  | closing
  | closed
  deriving DecidableEq, Repr

/-- The goroutine goes on by itself: it reads the next event, or ends. -/
def Producer.produce : Producer → Option Producer
  | .reading [] => some .closed
  | .reading (event :: pending) => some (.sending event pending)
  | .closing => some .closed
  | _ => none

def Producer.lose : Producer → Option Producer
  | .reading _ => some (.sending { err := some "context canceled" } [])
  | _ => none

/-- The select takes `ctx.Done()`. -/
def Producer.abort : Producer → Option Producer
  | .sending _ _ => some .closed
  | _ => none

/-- After a send: an error was the last event. -/
def Producer.sent (event : StreamEvent) (pending : List StreamEvent) : Producer :=
  if event.err.isSome then .closing else .reading pending

/-- What the goroutine has yet to deliver, left to itself. -/
def Producer.left : Producer → List StreamEvent
  | .reading pending => pending
  | .sending event pending => event :: pending
  | _ => []

/-- The upstream request is open, or an event of it is still undelivered. -/
def Producer.inFlight : Producer → Bool
  | .reading _ => true
  | .sending _ _ => true
  | _ => false

/-- The goroutine has not ended. -/
def Producer.alive : Producer → Bool
  | .absent => false
  | .closed => false
  | _ => true

end Council.Provider

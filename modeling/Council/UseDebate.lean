import Council.FaithfulReplay

/-!
The hook of `frontend/src/state/useDebate.ts` with the clients of
`frontend/src/lib/wsClient.ts` it creates. A client opens at most one socket,
so a socket is named by the number of its client. What a closed or detached
socket may still fire is up to the server and the browser: events come in any
order. The validation of a frame's JSON is a parameter.
-/

namespace Council.UseDebate
open Protocol DebateReducer DebatePlayer PlayerRuns

/-- A client: the `socket` variable of its closure, and what the socket it
opened carries. -/
structure Client where
  held : Bool
  attached : Bool
  message : Option AskMessage
  sent : List AskMessage

def createWsClient : Client where
  held := false
  attached := false
  message := none
  sent := []

/-- `detach` and `close` the socket, if there is one. -/
def Client.dispose (client : Client) : Client :=
  if client.held then { client with held := false, attached := false } else client

/-- `socket = new Impl(url)` with its four handlers. -/
def Client.connect (client : Client) (message : AskMessage) : Client :=
  { client with held := true, attached := true, message := some message }

/-- The socket's part of `onopen`. -/
def Client.send (client : Client) : Client :=
  if client.held then { client with sent := client.sent ++ client.message.toList } else client

/-- The socket's part of `onclose`. -/
def Client.drop (client : Client) : Client :=
  { client with held := false, attached := client.attached && !client.held }

structure Hook where
  state : DebateState
  player : Player
  clients : List Client
  clientRef : Option Nat

/-- The hook as first rendered. -/
def createHook (reducedMotion : Bool) : Hook where
  state := initialState
  player := create reducedMotion
  clients := []
  clientRef := none

def MAX_FRAME_CHARS : Nat := 256 * 1024

inductive Frame where
  | binary
  | text (data : Text)

inductive SocketEvent where
  | opened
  | message (frame : Frame)
  | error
  | close

inductive HookOp where
  | ask (question : Text) (rounds : Option JsNumber)
  | stop
  | setRate (multiplier : JsNumber)
  | goToLive
  | fire
  | socket (client : Nat) (event : SocketEvent)

def Hook.absorb (hook : Hook) (answer : Player × List DebateInput) : Hook × List DebateInput :=
  ({ hook with player := answer.1, state := reduceAll hook.state answer.2 }, answer.2)

/-- `clientRef.current?.dispose()`. -/
def Hook.disposeClient (hook : Hook) : Hook :=
  match hook.clientRef with
  | none => hook
  | some current => { hook with clients := hook.clients.modify current Client.dispose }

/-- `ask` of the client with this number. -/
def clientAsk (hook : Hook) (index : Nat) (question : Text) (rounds : Option JsNumber) :
    Hook × List DebateInput :=
  match buildAsk question rounds with
  | .error message => hook.absorb (feedTransport hook.player message)
  | .ok built =>
      if hook.clients[index]?.any Client.held then
        hook.absorb (feedTransport hook.player (units "a debate is already in progress"))
      else
        let connecting := hook.absorb (feedStatus hook.player .connecting)
        ({ connecting.1 with
            clients := connecting.1.clients.modify index (Client.connect · built) },
          connecting.2)

def ask (hook : Hook) (question : Text) (rounds : Option JsNumber) :
    Hook × List DebateInput :=
  let disposed := hook.disposeClient
  let fresh := { disposed with
    player := reset disposed.player
    clients := disposed.clients ++ [createWsClient]
    clientRef := some disposed.clients.length }
  clientAsk fresh disposed.clients.length question rounds

def stop (hook : Hook) : Hook × List DebateInput :=
  let cancelled := hook.absorb (reset hook.player, [.cancel])
  ({ cancelled.1.disposeClient with clientRef := none }, cancelled.2)

section Wiring
variable (parseEvent : Text → Except Text DebateEvent)

def onMessage (player : Player) : Frame → Player × List DebateInput
  | .binary => feedTransport player (units "received a non-text frame")
  | .text data =>
      if data.length > MAX_FRAME_CHARS then feedTransport player (units "frame too large")
      else
        match parseEvent data with
        | .error message => feedTransport player message
        | .ok event => feed player event

/-- An event of a client's socket; a detached socket has no handlers left. -/
def onSocket (hook : Hook) (index : Nat) (event : SocketEvent) : Hook × List DebateInput :=
  match hook.clients[index]? with
  | none => (hook, [])
  | some client =>
      if !client.attached then (hook, [])
      else
        match event with
        | .opened =>
            let told := hook.absorb (feedStatus hook.player .opened)
            ({ told.1 with clients := told.1.clients.modify index Client.send }, told.2)
        | .message frame => hook.absorb (onMessage parseEvent hook.player frame)
        | .error => hook.absorb (feedStatus hook.player .error)
        | .close =>
            let told := hook.absorb (feedStatus hook.player .closed)
            ({ told.1 with clients := told.1.clients.modify index Client.drop }, told.2)

def hookStep (hook : Hook) : HookOp → Hook × List DebateInput
  | .ask question rounds => ask hook question rounds
  | .stop => stop hook
  | .setRate multiplier => hook.absorb (setRate hook.player multiplier, [])
  | .goToLive => hook.absorb (skipToLive hook.player)
  | .fire => hook.absorb (fire hook.player)
  | .socket client event => onSocket parseEvent hook client event

/-- The hook after a sequence of calls and events, and everything the reducer
received. -/
def runHook (hook : Hook) : List HookOp → Hook × List DebateInput
  | [] => (hook, [])
  | op :: rest =>
      let first := hookStep parseEvent hook op
      let later := runHook first.1 rest
      (later.1, first.2 ++ later.2)

end Wiring

/-- `QuestionForm` only submits what `buildAsk` accepts. -/
def HookOp.accepted : HookOp → Bool
  | .ask question rounds => (buildAsk question rounds).toOption.isSome
  | _ => true

def HookOp.isAsk : HookOp → Bool
  | .ask _ _ => true
  | _ => false

/-- The current client's socket is open to events. -/
def Hook.listening (hook : Hook) : Prop :=
  ∃ current client, hook.clientRef = some current ∧ hook.clients[current]? = some client ∧
    client.held = true ∧ client.attached = true

end Council.UseDebate

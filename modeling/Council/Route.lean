import Council.Admission
import Council.SessionRuns

/-!
The route `/ws` as `main` wires it: `ratelimit.Middleware` in front of
`HandleSession`, for any number of requests at once. A request that got its
slot runs the handler; its `finish` is the handler's return. The sessions
share the panel, the model and the errgroup limit.
-/

namespace Council.Route

open Council.Machines
open Council.Provider
open Council.ServerProtocol
open Council.Orchestration
open Council.HandleSession
open Council.RateLimit
open Council.Middleware
open Council.Admission
open Council.SessionRuns

variable {Bucket : Type} {count : Nat}

/-- `closedTakes` and `provider` answer for each session by itself. -/
structure Service (Bucket : Type) (count : Nat) where
  guards : Guards Bucket
  model : String
  limit : Int
  personas : Fin count → Persona
  provider : Nat → Call count → Request → Outcome
  closedTakes : Nat → Event → Bool

def Service.handler (service : Service Bucket count) (id : Nat) : Handler count where
  toOrchestrator := New (service.provider id) service.model service.limit
  personas := service.personas
  closedTakes := service.closedTakes id

structure World (Bucket : Type) (count : Nat) where
  door : Middleware.State Bucket
  sessions : Nat → Session count

def World.initial (limiter : Limiter Bucket) : World Bucket count where
  door := State.initial limiter
  sessions := fun _ => {}

inductive Action (count : Nat) where
  | door (action : Middleware.Action)
  | session (id : Nat) (action : HandleSession.Action count)

def returned : Phase → Bool
  | .returned _ => true
  | _ => false

/-- `next.ServeHTTP` ends when the handler has returned. -/
def World.lets (world : World Bucket count) : Middleware.Action → Bool
  | .finish id panicked => !panicked && returned (world.sessions id).phase
  | _ => true

/-- The handler is called once the request has its slot; a client may send
ahead of that. -/
def World.admits (world : World Bucket count) (id : Nat) : HandleSession.Action count → Bool
  | .accept _ => world.door.visits[id]?.any fun visit => visit.stage = .serving
  | _ => world.door.visits[id]?.isSome

def step (service : Service Bucket count) (world : World Bucket count) :
    Action count → Option (World Bucket count)
  | .door action =>
      if world.lets action then
        (Middleware.step service.guards world.door action).map fun door =>
          { world with door := door }
      else none
  | .session id action =>
      if world.admits id action then
        (HandleSession.step (service.handler id) (world.sessions id) action).map fun session =>
          { world with sessions := Function.update world.sessions id session }
      else none

/-- A step moves the door or one session. -/
inductive Moves (service : Service Bucket count) (world : World Bucket count) :
    Action count → World Bucket count → Prop where
  | door {action : Middleware.Action} {door : Middleware.State Bucket}
      (due : world.lets action = true)
      (taken : Middleware.step service.guards world.door action = some door) :
      Moves service world (.door action) { world with door := door }
  | session {id : Nat} {action : HandleSession.Action count} {session : Session count}
      (due : world.admits id action = true)
      (taken : HandleSession.step (service.handler id) (world.sessions id) action =
        some session) :
      Moves service world (.session id action)
        { world with sessions := Function.update world.sessions id session }

theorem moves_of_step (service : Service Bucket count) (world after : World Bucket count)
    (action : Action count) (taken : step service world action = some after) :
    Moves service world action after := by
  cases action with
  | door action =>
      simp only [step] at taken
      split at taken
      · rename_i due
        obtain ⟨door, moved, same⟩ := Option.map_eq_some_iff.mp taken
        cases same
        exact .door due moved
      · cases taken
  | session id action =>
      simp only [step] at taken
      split at taken
      · rename_i due
        obtain ⟨session, moved, same⟩ := Option.map_eq_some_iff.mp taken
        cases same
        exact .session due moved
      · cases taken

/-- The session of a request that has not reached the handler, is in it, or
has left it. -/
def Placed : Option Stage → Session count → Prop
  | some .serving, _ => True
  | some (.releasing _), session => returned session.phase = true
  | some (.served _), session => returned session.phase = true
  | _, session => session.phase = .accepting ∧ session.run = none

def World.stage (world : World Bucket count) (id : Nat) : Option Stage :=
  world.door.visits[id]?.map Visit.stage

/-- The request is between acquire and release. -/
def World.Holding (world : World Bucket count) (id : Nat) : Prop :=
  (world.stage id).any holds = true

section Sessions
variable {handler : Handler count} {session after : Session count}
  {action : HandleSession.Action count}

theorem returned_step (taken : HandleSession.step handler session action = some after)
    (left : returned session.phase = true) : after.phase = session.phase := by
  have apart : ∀ phase, returned phase = false → session.phase ≠ phase := by
    intro phase inside same
    rw [same, inside] at left
    cases left
  cases HandleSession.moves_of_step handler session after action taken with
  | accept at_ succeeds => exact absurd at_ (apart _ rfl)
  | read at_ first => exact absurd at_ (apart _ rfl)
  | garbled at_ first => exact absurd at_ (apart _ rfl)
  | interrupt at_ gone => exact absurd at_ (apart _ rfl)
  | invalid at_ wrong => exact absurd at_ (apart _ rfl)
  | valid at_ accepted => exact absurd at_ (apart _ rfl)
  | refuse at_ succeeds => exact absurd at_ (apart _ rfl)
  | receive at_ runs kept advanced offers => exact absurd at_ (apart _ rfl)
  | drained at_ runs closed => exact absurd at_ (apart _ rfl)
  | wrote at_ took => exact absurd at_ (apart _ rfl)
  | failed at_ => exact absurd at_ (apart _ rfl)
  | _ => rfl

theorem waiting_step (taken : HandleSession.step handler session action = some after)
    (waits : session.phase = .accepting ∧ session.run = none)
    (kept : ∀ succeeds, action ≠ .accept succeeds) :
    after.phase = .accepting ∧ after.run = none := by
  obtain ⟨accepting, idle⟩ := waits
  cases HandleSession.moves_of_step handler session after action taken with
  | send frame present => exact ⟨accepting, idle⟩
  | leave present => exact ⟨accepting, idle⟩
  | accept at_ succeeds => exact absurd rfl (kept succeeds)
  | inner runs kept advanced silent => rw [idle] at runs; cases runs
  | disconnect runs cause fresh => rw [idle] at runs; cases runs
  | read at_ first => rw [accepting] at at_; cases at_
  | garbled at_ first => rw [accepting] at at_; cases at_
  | interrupt at_ gone => rw [accepting] at at_; cases at_
  | invalid at_ wrong => rw [accepting] at at_; cases at_
  | valid at_ accepted => rw [accepting] at at_; cases at_
  | refuse at_ succeeds => rw [accepting] at at_; cases at_
  | receive at_ runs kept advanced offers => rw [accepting] at at_; cases at_
  | drained at_ runs closed => rw [accepting] at at_; cases at_
  | wrote at_ took => rw [accepting] at at_; cases at_
  | failed at_ => rw [accepting] at at_; cases at_

end Sessions

/-- What holds of every reachable state of the route. -/
structure Housed (service : Service Bucket count) (world : World Bucket count) : Prop where
  slotted : Slotted service.guards world.door
  sound : ∀ id, Sound (service.handler id) (world.sessions id)
  placed : ∀ id, Placed (world.stage id) (world.sessions id)

section Steps
variable {service : Service Bucket count} {world after : World Bucket count}

theorem placed_set {visits : List Visit} {sessions : Nat → Session count} {id : Nat}
    {old new : Visit} (at_ : visits[id]? = some old)
    (placed : ∀ other, Placed (visits[other]?.map Visit.stage) (sessions other))
    (moved : Placed (some old.stage) (sessions id) → Placed (some new.stage) (sessions id))
    (other : Nat) :
    Placed ((visits.set id new)[other]?.map Visit.stage) (sessions other) := by
  by_cases here : id = other
  · subst here
    have before := placed id
    rw [at_] at before
    rw [List.getElem?_set_self (List.getElem?_eq_some_iff.mp at_).1]
    exact moved before
  · rw [List.getElem?_set_ne here]
    exact placed other

theorem placed_door {action : Middleware.Action} {door : Middleware.State Bucket}
    (due : world.lets action = true)
    (taken : Middleware.step service.guards world.door action = some door)
    (placed : ∀ id, Placed (world.stage id) (world.sessions id)) (id : Nat) :
    Placed (door.visits[id]?.map Visit.stage) (world.sessions id) := by
  cases Middleware.moves_of_step service.guards world.door door action taken with
  | arrive ip =>
      by_cases old : id < world.door.visits.length
      · dsimp only
        rw [List.getElem?_append_left old]
        exact placed id
      · have outside := placed id
        rw [World.stage, List.getElem?_eq_none (Nat.le_of_not_lt old)] at outside
        dsimp only
        rw [List.getElem?_append_right (Nat.le_of_not_lt old)]
        cases id - world.door.visits.length with
        | zero => exact outside
        | succ beyond => exact outside
  | sweep now => exact placed id
  | allow now limiter stage at_ next =>
      refine placed_set at_ placed (fun waits => ?_) id
      rcases next with passed | denied
      · rw [passed]
        exact waits
      · rw [denied]
        exact waits
  | check day at_ allowed within =>
      refine placed_set at_ placed (fun waits => ?_) id
      cases allowed <;> exact waits
  | failed day at_ =>
      refine placed_set at_ placed (fun waits => ?_) id
      exact waits
  | acquire at_ room =>
      refine placed_set at_ placed (fun _ => ?_) id
      trivial
  | busy at_ full =>
      refine placed_set at_ placed (fun waits => ?_) id
      exact waits
  | finish panicked at_ =>
      refine placed_set at_ placed (fun _ => ?_) id
      rw [World.lets, Bool.and_eq_true] at due
      exact due.2
  | release at_ held =>
      refine placed_set at_ placed (fun waits => ?_) id
      exact waits

theorem placed_session {id : Nat} {action : HandleSession.Action count}
    {session : Session count} (due : world.admits id action = true)
    (taken : HandleSession.step (service.handler id) (world.sessions id) action =
      some session)
    (placed : Placed (world.stage id) (world.sessions id)) :
    Placed (world.stage id) session := by
  by_cases serving : world.stage id = some .serving
  · rw [serving]
    trivial
  -- only a request being served has its handler started
  · have kept : ∀ succeeds, action ≠ .accept succeeds := by
      rintro succeeds rfl
      rw [World.admits, Option.any_eq_true] at due
      obtain ⟨visit, here, stage⟩ := due
      rw [World.stage, here] at serving
      exact serving (congrArg some (of_decide_eq_true stage))
    cases stage : world.stage id with
    | none =>
        rw [stage] at placed
        exact waiting_step taken placed kept
    | some standing =>
        rw [stage] at placed serving
        cases standing with
        | serving => exact absurd rfl serving
        | releasing panicked =>
            rw [Placed] at placed ⊢
            rw [returned_step taken placed, placed]
        | served panicked =>
            rw [Placed] at placed ⊢
            rw [returned_step taken placed, placed]
        | entered => exact waiting_step taken placed kept
        | passedLimiter => exact waiting_step taken placed kept
        | passedQuota => exact waiting_step taken placed kept
        | rejected reason => exact waiting_step taken placed kept

theorem housed_step {action : Action count} (taken : step service world action = some after)
    (housed : Housed service world) : Housed service after := by
  cases moves_of_step service world after action taken with
  | door due moved =>
      refine ⟨slotted_step (Middleware.moves_of_step _ _ _ _ moved) housed.slotted, housed.sound,
        fun id => ?_⟩
      exact placed_door due moved housed.placed id
  | @session id action session due moved =>
      refine ⟨housed.slotted, fun other => ?_, fun other => ?_⟩
      · by_cases here : other = id
        · subst here
          dsimp only
          rw [Function.update_self]
          exact sound_step moved (housed.sound other)
        · dsimp only
          rw [Function.update_of_ne here]
          exact housed.sound other
      · by_cases here : other = id
        · subst here
          have own := placed_session due moved (housed.placed other)
          dsimp only
          rw [Function.update_self]
          exact own
        · dsimp only
          rw [Function.update_of_ne here]
          exact housed.placed other

theorem housed_initial (limiter : Limiter Bucket) :
    Housed service (World.initial limiter) :=
  ⟨⟨rfl, Nat.zero_le _⟩, fun _ => sound_initial _, fun _ => ⟨rfl, rfl⟩⟩

theorem housed_reachable {limiter : Limiter Bucket}
    {allowed : World Bucket count → Action count → Prop}
    (reached : Reaches (step service) allowed (World.initial limiter) world) :
    Housed service world :=
  reached.invariant (Housed service) (housed_initial limiter)
    fun _ _ _ _ _ taken housed => housed_step taken housed

end Steps

end Council.Route

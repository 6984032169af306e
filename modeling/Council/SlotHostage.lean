import Council.Route

/-!
Who can move a request that holds a slot. The slot is taken before the
upgrade and the read of the ask has no deadline, so a client that stays silent
keeps its slot; in every other place of the handler the server goes on by
itself.
-/

namespace Council.SlotHostage

open Council.Machines
open Council.ServerProtocol
open Council.Orchestration
open Council.DebateShape
open Council.Unwinding
open Council.HandleSession
open Council.RateLimit
open Council.Middleware
open Council.Admission
open Council.SessionRuns
open Council.Route

variable {Bucket : Type} {count : Nat}

/-- A step the server takes for the request `id`. -/
def serverStep (id : Nat) : Route.Action count → Bool
  | .door action => visitor action == some id
  | .session other action => other == id && !action.client

/-- The server can go on with the request by itself. -/
def Movable (service : Service Bucket count) (world : World Bucket count) (id : Nat) : Prop :=
  ∃ action, serverStep id action = true ∧ (Route.step service world action).isSome

/-- The client's ask has arrived. -/
def Asked (session : Session count) : Prop :=
  ∃ message rest, session.frames = some message :: rest

/-- The handler waits for a client that sends nothing and does not leave. -/
def Silent (session : Session count) : Prop :=
  session.phase = .reading ∧ session.frames = [] ∧ session.gone = false

/-- No slot is held hostage. -/
structure Unhostaged (service : Service Bucket count) (world : World Bucket count) : Prop where
  moves : ∀ id, world.Holding id → Movable service world id
  /-- The slots are not all taken by requests that only their clients can move. -/
  free : 0 < service.guards.capacity →
    ¬ (world.door.tokens = service.guards.capacity ∧
      ∀ id, world.Holding id → ¬ Movable service world id)
  asked : ∀ id, world.Holding id → Asked (world.sessions id)

/-- Whenever the step takes a slot, the ask of its request has arrived. -/
def Prompt (service : Service Bucket count) (world : World Bucket count)
    (action : Route.Action count) : Prop :=
  ∀ id, action = .door (.acquire id) → world.door.tokens < service.guards.capacity →
    Asked (world.sessions id)

instance (session : Session count) : Decidable (Asked session) :=
  match frames : session.frames with
  | some message :: rest => .isTrue ⟨message, rest, frames⟩
  | [] => .isFalse fun asked => by
      obtain ⟨message, rest, first⟩ := asked
      rw [frames] at first
      cases first
  | none :: rest => .isFalse fun asked => by
      obtain ⟨message, rest, first⟩ := asked
      rw [frames] at first
      cases first

instance (service : Service Bucket count) (world : World Bucket count)
    (action : Route.Action count) : Decidable (Prompt service world action) :=
  match action with
  | .door (.acquire id) =>
      decidable_of_iff
        (world.door.tokens < service.guards.capacity → Asked (world.sessions id))
        ⟨fun prompt other same room => by cases same; exact prompt room,
          fun prompt => prompt id rfl⟩
  | .door (.arrive _) => .isTrue fun _ same => by cases same
  | .door (.sweep _) => .isTrue fun _ same => by cases same
  | .door (.allow _ _) => .isTrue fun _ same => by cases same
  | .door (.check _ _ _) => .isTrue fun _ same => by cases same
  | .door (.finish _ _) => .isTrue fun _ same => by cases same
  | .door (.release _) => .isTrue fun _ same => by cases same
  | .session _ _ => .isTrue fun _ same => by cases same

section Handlers
variable {handler : Handler count} {session : Session count}

/-- In its loop the handler can go on: it receives, or `Run` moves without a
receiver, or `out` is closed. -/
theorem looping_goes_on (sound : Sound handler session) (at_ : session.phase = .looping) :
    ∃ action after, action.client = false ∧ (∀ succeeds, action ≠ .accept succeeds) ∧
      HandleSession.step handler session action = some after := by
  have started := sound.looping (by rw [at_]; trivial)
  obtain ⟨⟨debate, state⟩, runs⟩ := Option.isSome_iff_exists.mp started
  have reachable : Reachable debate state := (sound.runs _ runs).2
  have shape := shape_reachable reachable
  by_cases closed : state.main = .closed
  · exact ⟨.drained, _, rfl, by simp,
      by simp only [HandleSession.step, at_, runs, closed, if_true]; rfl⟩
  -- `Run` goes on, whether or not `ctx` is done
  · have unfinished : ¬ Ended state := fun ended => closed ended.1
    obtain ⟨action, next, kept, taken⟩ :
        ∃ action next, action ≠ .cancel ∧ Orchestration.step debate state action = some next := by
      by_cases cancelled : state.cancelled = true
      · obtain ⟨action, next, _, taken⟩ := cancelled_goes_on shape cancelled unfinished
        refine ⟨action, next, ?_, taken⟩
        rintro rfl
        simp [Orchestration.step, cancelled] at taken
      · have undone : state.cancelled = false := by simpa using cancelled
        exact served_goes_on shape (attended_uncancelled reachable undone) unfinished
    cases offers : offered state action with
    | none =>
        exact ⟨.run action, _, rfl, by simp,
          by simp only [HandleSession.step, runs, if_neg kept, taken, offers]; rfl⟩
    | some event =>
        exact ⟨.run action, _, rfl, by simp,
          by simp only [HandleSession.step, runs, if_neg kept, taken, offers, at_]; rfl⟩

theorem handler_goes_on (sound : Sound handler session)
    (inside : returned session.phase = false) (heard : ¬ Silent session) :
    ∃ action after, action.client = false ∧
      HandleSession.step handler session action = some after := by
  cases at_ : session.phase with
  | accepting => exact ⟨.accept true, _, rfl, by simp only [HandleSession.step, at_]; rfl⟩
  | reading =>
      cases sent : session.frames with
      -- without a frame only the close ends the read
      | nil =>
          have gone : session.gone = true := by
            by_contra present
            exact heard ⟨at_, sent, by simpa using present⟩
          exact ⟨.interrupt, _, rfl, by simp only [HandleSession.step, at_, gone, if_true]; rfl⟩
      | cons frame rest =>
          cases frame with
          | none => exact ⟨.read, _, rfl, by simp only [HandleSession.step, at_, sent]; rfl⟩
          | some message => exact ⟨.read, _, rfl, by simp only [HandleSession.step, at_, sent]; rfl⟩
  | validating message =>
      refine ⟨.validate, ?_⟩
      simp only [HandleSession.step, at_]
      split
      · exact ⟨_, rfl, rfl⟩
      · exact ⟨_, rfl, rfl⟩
  | refusing => exact ⟨.refuse true, _, rfl, by simp only [HandleSession.step, at_]; rfl⟩
  | looping =>
      obtain ⟨action, after, server, _, taken⟩ := looping_goes_on sound at_
      exact ⟨action, after, server, taken⟩
  | writing event late =>
      -- the write ends with its deadline at the latest
      exact ⟨.write false, _, rfl, by
        simp only [HandleSession.step, at_, Bool.false_eq_true, if_false]; rfl⟩
  | returned complete =>
      rw [at_] at inside
      cases inside

theorem silent_stuck (silent : Silent session) (idle : session.run = none)
    (action : HandleSession.Action count) (server : action.client = false) :
    HandleSession.step handler session action = none := by
  obtain ⟨at_, nothing, present⟩ := silent
  cases action with
  | send frame => cases server
  | leave => cases server
  | accept succeeds => simp only [HandleSession.step, at_]
  | read => simp only [HandleSession.step, at_, nothing]
  | interrupt => simp [HandleSession.step, at_, present]
  | validate => simp only [HandleSession.step, at_]
  | refuse succeeds => simp only [HandleSession.step, at_]
  | run action => simp only [HandleSession.step, idle]
  | drained => simp only [HandleSession.step, at_]
  | write succeeds => simp only [HandleSession.step, at_]
  | disconnect => simp only [HandleSession.step, idle]

end Handlers

section Requests
variable {service : Service Bucket count} {world after : World Bucket count} {id : Nat}

/-- While its handler waits for a silent client, no step of the server is a step
of the request. -/
theorem silent_immovable (housed : Housed service world) {visit : Visit}
    (here : world.door.visits[id]? = some visit) (serving : visit.stage = .serving)
    (silent : Silent (world.sessions id)) : ¬ Movable service world id := by
  rintro ⟨action, server, enabled⟩
  obtain ⟨ip, day, stage⟩ := visit
  cases serving
  obtain ⟨next, taken⟩ := Option.isSome_iff_exists.mp enabled
  have idle := (housed.sound id).early (by rw [silent.1]; trivial)
  cases Route.moves_of_step service world next action taken with
  | @door action door due moved =>
      -- the middleware has nothing to do for a request its handler holds
      cases action with
      | arrive ip => cases server
      | sweep now => cases server
      | allow other now =>
          obtain rfl : other = id := by simpa [serverStep, visitor] using server
          simp only [Middleware.step, here] at moved
          cases moved
      | check other day succeeds =>
          obtain rfl : other = id := by simpa [serverStep, visitor] using server
          simp only [Middleware.step, here] at moved
          cases moved
      | acquire other =>
          obtain rfl : other = id := by simpa [serverStep, visitor] using server
          simp only [Middleware.step, here] at moved
          cases moved
      | finish other panicked =>
          obtain rfl : other = id := by simpa [serverStep, visitor] using server
          simp [World.lets, silent.1, returned] at due
      | release other =>
          obtain rfl : other = id := by simpa [serverStep, visitor] using server
          simp only [Middleware.step, here] at moved
          cases moved
  | @session other action session due moved =>
      obtain ⟨rfl, own⟩ : other = id ∧ action.client = false := by
        simpa [serverStep] using server
      rw [silent_stuck silent idle action own] at moved
      cases moved

theorem heard_movable (housed : Housed service world) {visit : Visit}
    (here : world.door.visits[id]? = some visit) (serving : visit.stage = .serving)
    (heard : ¬ Silent (world.sessions id)) : Movable service world id := by
  obtain ⟨ip, day, stage⟩ := visit
  cases serving
  by_cases left : returned (world.sessions id).phase = true
  · refine ⟨.door (.finish id false), by simp [serverStep, visitor], ?_⟩
    simp [Route.step, World.lets, left, Middleware.step, here]
  · obtain ⟨action, session, server, taken⟩ :=
      handler_goes_on (housed.sound id) (by simpa using left) heard
    have due : world.admits id action = true := by
      cases action <;> simp [World.admits, here]
    exact ⟨.session id action, by simp [serverStep, server],
      by simp [Route.step, due, taken]⟩

theorem releasing_movable (housed : Housed service world) {ip day : String} {panicked : Bool}
    (here : world.door.visits[id]? = some ⟨ip, day, .releasing panicked⟩) :
    Movable service world id := by
  obtain ⟨door, released⟩ := Option.isSome_iff_exists.mp (release_enabled housed.slotted here)
  exact ⟨.door (.release id), by simp [serverStep, visitor],
    by simp [Route.step, World.lets, released]⟩

/-- A request that holds a slot can be moved by the server exactly where its
handler does not wait for a silent client. -/
theorem movable_iff (housed : Housed service world) (holding : world.Holding id) :
    Movable service world id ↔ ¬ Silent (world.sessions id) := by
  rw [World.Holding, Option.any_eq_true] at holding
  obtain ⟨stage, at_, held⟩ := holding
  obtain ⟨⟨ip, day, standing⟩, here, same⟩ := Option.map_eq_some_iff.mp at_
  cases same
  have placed := housed.placed id
  rw [at_] at placed
  cases standing with
  | entered | passedLimiter | passedQuota | served panicked | rejected reason => cases held
  | releasing panicked =>
      apply iff_of_true (releasing_movable housed here)
      rintro ⟨reading, _⟩
      rw [Placed, reading] at placed
      cases placed
  | serving =>
      constructor
      · intro movable silent
        exact silent_immovable housed here rfl silent movable
      · intro heard
        exact heard_movable housed here rfl heard

theorem holding_before {action : Route.Action count}
    (taken : Route.step service world action = some after) (holding : after.Holding id) :
    world.Holding id ∨
      action = .door (.acquire id) ∧ world.door.tokens < service.guards.capacity := by
  -- a step to a stage without a slot gives nobody one
  have kept : ∀ {mover : Nat} {old new : Visit}, world.door.visits[mover]? = some old →
      holds new.stage = false →
      ((world.door.visits.set mover new)[id]?.map Visit.stage).any holds = true →
      world.Holding id := by
    intro mover old new at_ outside held
    by_cases here : mover = id
    · subst here
      rw [List.getElem?_set_self (List.getElem?_eq_some_iff.mp at_).1] at held
      simp [outside] at held
    · rwa [List.getElem?_set_ne here] at held
  cases Route.moves_of_step service world after action taken with
  | session due moved => exact .inl holding
  | @door action door due moved =>
      cases Middleware.moves_of_step service.guards world.door door action moved with
      | arrive ip =>
          left
          rw [World.Holding, World.stage] at holding ⊢
          dsimp only at holding
          by_cases old : id < world.door.visits.length
          · rwa [List.getElem?_append_left old] at holding
          · rw [List.getElem?_append_right (Nat.le_of_not_lt old)] at holding
            cases offset : id - world.door.visits.length with
            | zero => rw [offset] at holding; cases holding
            | succ beyond => rw [offset] at holding; cases holding
      | sweep now => exact .inl holding
      | allow now limiter stage at_ next =>
          refine .inl (kept at_ ?_ holding)
          rcases next with passed | denied
          · rw [passed]
            rfl
          · rw [denied]
            rfl
      | check day at_ allowed within =>
          refine .inl (kept at_ ?_ holding)
          cases allowed <;> rfl
      | failed day at_ => exact .inl (kept at_ rfl holding)
      | @acquire mover ip day at_ room =>
          by_cases here : mover = id
          · subst here
            exact .inr ⟨rfl, room⟩
          · rw [World.Holding, World.stage] at holding ⊢
            dsimp only at holding
            rw [List.getElem?_set_ne here] at holding
            exact .inl holding
      | busy at_ full => exact .inl (kept at_ rfl holding)
      | @finish mover ip day panicked at_ =>
          rw [World.Holding, World.stage] at holding ⊢
          by_cases here : mover = id
          · subst here
            rw [at_]
            exact .inl rfl
          · dsimp only at holding
            rw [List.getElem?_set_ne here] at holding
            exact .inl holding
      | release at_ held => exact .inl (kept at_ rfl holding)

theorem asked_session {handler : Handler count} {session next : Session count}
    {action : HandleSession.Action count}
    (taken : HandleSession.step handler session action = some next) (asked : Asked session) :
    Asked next := by
  cases HandleSession.moves_of_step handler session next action taken with
  | send frame present =>
      obtain ⟨message, rest, first⟩ := asked
      exact ⟨message, rest ++ [frame], by simp [first]⟩
  | _ => exact asked

theorem asked_step {action : Route.Action count}
    (taken : Route.step service world action = some after) (asked : Asked (world.sessions id)) :
    Asked (after.sessions id) := by
  cases Route.moves_of_step service world after action taken with
  | door due moved => exact asked
  | @session other action session due moved =>
      by_cases here : id = other
      · subst here
        dsimp only
        rw [Function.update_self]
        exact asked_session moved asked
      · dsimp only
        rw [Function.update_of_ne here]
        exact asked

end Requests

theorem free_of_moves {service : Service Bucket count} {world : World Bucket count}
    (housed : Housed service world) (moves : ∀ id, world.Holding id → Movable service world id)
    (positive : 0 < service.guards.capacity) :
    ¬ (world.door.tokens = service.guards.capacity ∧
      ∀ id, world.Holding id → ¬ Movable service world id) := by
  rintro ⟨full, stuck⟩
  have some_ : 0 < slots world.door.visits := by
    rw [← housed.slotted.tokens, full]
    exact positive
  obtain ⟨visit, member, held⟩ := List.countP_pos_iff.mp some_
  obtain ⟨id, at_⟩ := List.getElem?_of_mem member
  have holding : world.Holding id := by
    rw [World.Holding, World.stage, at_]
    exact held
  exact stuck id holding (moves id holding)

/-- In a run that takes no slot ahead of its ask no slot is ever held hostage;
the first step that does breaks the promise at once. In any run a request with
a slot is stuck exactly while its handler waits for a silent client. -/
theorem slots_free_exactly (service : Service Bucket count) (limiter : Limiter Bucket) :
    (∀ world, Reaches (Route.step service) (Prompt service) (World.initial limiter) world →
      Unhostaged service world) ∧
    (∀ world, Reaches (Route.step service) always (World.initial limiter) world →
      ∀ action after, Route.step service world action = some after →
        ¬ Prompt service world action → ¬ Unhostaged service after) ∧
    ∀ world, Reaches (Route.step service) always (World.initial limiter) world →
      ∀ id, world.Holding id → (Movable service world id ↔ ¬ Silent (world.sessions id)) := by
  refine ⟨fun world reached => ?_, ?_, fun world reached id holding =>
    movable_iff (housed_reachable reached) holding⟩
  -- who has a slot has asked, so its handler never waits in silence
  · have housed := housed_reachable reached
    have asked : ∀ id, world.Holding id → Asked (world.sessions id) := by
      refine reached.invariant (fun world => ∀ id, world.Holding id → Asked (world.sessions id))
        (fun id holding => by cases holding) ?_
      intro before action after _ prompt taken holds id holding
      rcases holding_before taken holding with earlier | ⟨acquires, room⟩
      · exact asked_step taken (holds id earlier)
      · exact asked_step taken (prompt id acquires room)
    have moves : ∀ id, world.Holding id → Movable service world id := by
      intro id holding
      refine (movable_iff housed holding).mpr ?_
      rintro ⟨_, nothing, _⟩
      obtain ⟨message, rest, first⟩ := asked id holding
      rw [nothing] at first
      cases first
    exact ⟨moves, free_of_moves housed moves, asked⟩
  -- the acquire leaves the session, and so its missing ask, as it is
  · intro world reached action after taken late unhostaged
    rw [Prompt, not_forall] at late
    obtain ⟨id, late⟩ := late
    obtain ⟨acquires, late⟩ := Classical.not_imp.mp late
    obtain ⟨room, unasked⟩ := Classical.not_imp.mp late
    subst acquires
    have holding : after.Holding id ∧ after.sessions = world.sessions := by
      cases Route.moves_of_step service world after _ taken with
      | @door _ door due moved =>
          refine ⟨?_, rfl⟩
          cases Middleware.moves_of_step service.guards world.door door _ moved with
          | acquire at_ room =>
              rw [World.Holding, World.stage]
              dsimp only
              rw [List.getElem?_set_self (List.getElem?_eq_some_iff.mp at_).1]
              rfl
          | busy at_ full => exact absurd room (Nat.not_lt.mpr full)
    have arrived := unhostaged.asked id holding.1
    rw [holding.2] at arrived
    exact unasked arrived

/-- One slot, two panelists. -/
def single : Service TokenBucket 2 where
  guards := ⟨tokenBuckets, 1, 1⟩
  model := "glm"
  limit := 2
  personas := duet.personas
  provider := fun _ => duet.provider
  closedTakes := fun _ _ => false

/-- A request gets the slot, its ask sent ahead or not. -/
def served (ahead : List (Route.Action 2)) : List (Route.Action 2) :=
  .door (.arrive "a") :: (ahead ++ [.door (.allow 0 0), .door (.check 0 "2026-01-01" true),
    .door (.acquire 0), .session 0 (.accept true)])

theorem slots_free_exactly_ahead :
    ∃ world, perform (Route.step single) (Prompt single) (World.initial (New 1 3 600))
        (served [.session 0 (.send (some ⟨"ask", "why?", 2⟩))]) = some world ∧
      world.Holding 0 ∧ Unhostaged single world := by
  have run : (perform (Route.step single) (Prompt single) (World.initial (New 1 3 600))
      (served [.session 0 (.send (some ⟨"ask", "why?", 2⟩))])).map (fun world =>
        (world.stage 0).any holds) = some true := by
    decide +kernel
  obtain ⟨world, performed, holding⟩ := Option.map_eq_some_iff.mp run
  exact ⟨world, performed, holding,
    (slots_free_exactly single (New 1 3 600)).1 world (perform_reaches _ _ _ performed)⟩

/-- A client connects and stays silent: the only slot is taken, no step of the
server moves its request, and no ask has arrived. -/
theorem slot_held_hostage :
    ∃ world, Reaches (Route.step single) always (World.initial (New 1 3 600)) world ∧
      world.door.tokens = single.guards.capacity ∧ world.Holding 0 ∧
      ∀ id, world.Holding id →
        ¬ Movable single world id ∧ ¬ Asked (world.sessions id) := by
  have run : (perform (Route.step single) always (World.initial (New 1 3 600))
      (served [])).map (fun world =>
        (world.door.tokens, world.door.visits.length, (world.stage 0).any holds,
          (world.sessions 0).phase, (world.sessions 0).frames.isEmpty,
          (world.sessions 0).gone)) = some (1, 1, true, .reading, true, false) := by
    decide +kernel
  obtain ⟨world, performed, facts⟩ := Option.map_eq_some_iff.mp run
  simp only [Prod.mk.injEq] at facts
  obtain ⟨tokens, alone, holding, reading, empty, present⟩ := facts
  have nothing := List.isEmpty_iff.mp empty
  have reached := perform_reaches _ _ _ performed
  refine ⟨world, reached, tokens, holding, fun id held => ?_⟩
  have first : id = 0 := by
    rw [World.Holding, Option.any_eq_true] at held
    obtain ⟨stage, at_, _⟩ := held
    obtain ⟨visit, here, _⟩ := Option.map_eq_some_iff.mp at_
    have inside := (List.getElem?_eq_some_iff.mp here).1
    omega
  subst first
  refine ⟨fun moves => ?_, ?_⟩
  · exact (movable_iff (housed_reachable reached) held).mp moves ⟨reading, nothing, present⟩
  · rintro ⟨message, rest, sent⟩
    rw [nothing] at sent
    cases sent

end Council.SlotHostage

import Council.Route
import Council.StreamLimit

/-!
How many provider streams all sessions have in flight. The slots bound them
only in part: the handler returns from a failed write without waiting for
`Run`, and its slot is free while its streams are still open; and once `ctx` is
done a goroutine leaves its stream open, and its place in the errgroup is free
for another one.
-/

namespace Council.FanOut

open Council.Machines
open Council.Orchestration
open Council.DebateShape
open Council.HandleSession
open Council.RateLimit
open Council.Middleware
open Council.Admission
open Council.SessionRuns
open Council.StreamLimit
open Council.Route

variable {Bucket : Type} {count : Nat}

def flights (session : Session count) : Nat :=
  match session.run with
  | some (debate, state) => (inFlight debate state).card
  | none => 0

def streams (world : World Bucket count) : Nat :=
  ∑ id ∈ Finset.range world.door.visits.length, flights (world.sessions id)

/-- The session's debate, if it had one, has closed `out` and left no stream. -/
def Over (session : Session count) : Prop :=
  ∀ run, session.run = some run → Settled run.1 run.2

/-- A slot is released only once its debate is over, and a done `ctx` starts no
stream. -/
def Orderly (world : World Bucket count) : Route.Action count → Prop
  | .door (.release id) => Over (world.sessions id)
  | .session id (.run action) =>
      ∀ run, (world.sessions id).run = some run → run.2.cancelled = true →
        Refused run.1 run.2 action
  | _ => True

section Sessions
variable {handler : Handler count} {session after : Session count}
  {action : HandleSession.Action count}

end Sessions

section Requests
variable {service : Service Bucket count} {world after : World Bucket count} {id : Nat}

end Requests

/-- One slot, one stream at a time. -/
def narrow : Service TokenBucket 2 where
  guards := ⟨tokenBuckets, 1, 1⟩
  model := "glm"
  limit := 1
  personas := duet.personas
  provider := fun _ => duet.provider
  closedTakes := fun _ _ => false

/-- A request gets the slot and its debate starts its first stream. -/
def begins (id : Nat) (ip : String) : List (Route.Action 2) :=
  [.door (.arrive ip), .door (.allow id 0), .door (.check id "2026-01-01" true),
    .door (.acquire id), .session id (.accept true),
    .session id (.send (some ⟨"ask", "why?", 2⟩)), .session id .read, .session id .validate,
    .session id (.run .spawn), .session id (.run (.stream ⟨1, some duet_first⟩ .start))]

/-- Its client leaves as the first token comes: the token is dropped and the
errgroup has a place for the next stream. -/
def leavesEarly (id : Nat) : List (Route.Action 2) :=
  [.session id (.run (.stream ⟨1, some duet_first⟩ .produce)),
    .session id (.run (.stream ⟨1, some duet_first⟩ .pass)),
    .session id .leave, .session id .disconnect,
    .session id (.run (.stream ⟨1, some duet_first⟩ .drop)),
    .session id (.run .spawn), .session id (.run (.stream ⟨1, some duet_second⟩ .start))]

/-- `Orderly` where it asks nothing: no release, and no `ctx` done. -/
def undisturbed (world : World Bucket count) : Route.Action count → Bool
  | .door (.release _) => false
  | .session id (.run _) => (world.sessions id).run.all fun run => !run.2.cancelled
  | _ => true

/-- A session that still has its slot opens a second stream under a `ctx` that
is done, for the goroutine whose place it takes has left its own stream open. -/
theorem slot_overrun :
    ∃ world, Reaches (Route.step narrow) always (World.initial (New 1 3 600)) world ∧
      world.Holding 0 ∧ narrow.guards.capacity * (max narrow.limit 1).toNat < streams world := by
  have run : (perform (Route.step narrow) always (World.initial (New 1 3 600))
      (begins 0 "a" ++ leavesEarly 0)).map (fun world =>
        ((world.stage 0).any holds, streams world)) = some (true, 2) := by
    decide +kernel
  obtain ⟨world, performed, known⟩ := Option.map_eq_some_iff.mp run
  obtain ⟨holding, two⟩ := Prod.mk.inj known
  exact ⟨world, perform_reaches _ _ _ performed, holding, by rw [two]; decide⟩

end Council.FanOut

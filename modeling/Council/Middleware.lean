import Council.RateLimit
import Council.Machines
import Mathlib.Data.List.Basic

/-!
`ratelimit.Middleware` and the daily quota (`ratelimit/middleware.go`,
`store/quota.go`) as a labelled machine of any number of requests. Each guard
is one step: `Allow` runs under its mutex, the UPSERT is one atomic statement
that either commits and returns the count or fails without effect, and the
slot is taken by a non-blocking send on a buffered channel.

`ledger` records the store calls that succeeded, in store order; no step reads
it.
-/

namespace Council.Middleware

open Council.RateLimit

/-- Why a request was answered without reaching `next`. -/
inductive Rejection where
  | rateLimit
  | quotaCheck
  | dailyLimit
  | busy
  deriving DecidableEq, Repr

/-- The status and the text of the response. -/
def Rejection.response : Rejection → Nat × String
  | .rateLimit => (429, "rate limit exceeded")
  | .quotaCheck => (503, "quota check failed")
  | .dailyLimit => (429, "daily limit reached")
  | .busy => (503, "server busy, try again shortly")

/-- Where a request stands. `releasing` is the deferred receive, after `next`
returned or panicked. -/
inductive Stage where
  | entered
  | passedLimiter
  | passedQuota
  | serving
  | releasing (panicked : Bool)
  | served (panicked : Bool)
  | rejected (reason : Rejection)
  deriving DecidableEq, Repr

/-- A request: its key, the day its quota was checked for, and its stage. -/
structure Visit where
  ip : String
  day : String
  stage : Stage
  deriving DecidableEq, Repr

structure Entry where
  id : Nat
  ip : String
  day : String
  allowed : Bool
  deriving DecidableEq, Repr

structure Guards (Bucket : Type) where
  lib : RateLib Bucket
  capacity : Nat
  dailyLimit : Int

structure State (Bucket : Type) where
  limiter : Limiter Bucket
  tokens : Nat
  counts : String → String → Nat
  visits : List Visit
  ledger : List Entry

inductive Action where
  | arrive (ip : String)
  | sweep (now : Rat)
  | allow (id : Nat) (now : Rat)
  | check (id : Nat) (day : String) (succeeds : Bool)
  | acquire (id : Nat)
  | finish (id : Nat) (panicked : Bool)
  | release (id : Nat)
  deriving DecidableEq

variable {Bucket : Type}

def State.initial (limiter : Limiter Bucket) : State Bucket where
  limiter := limiter
  tokens := 0
  counts := fun _ _ => 0
  visits := []
  ledger := []

/-- The request moves on to another stage. -/
def State.put (state : State Bucket) (id : Nat) (visit : Visit) (stage : Stage) :
    State Bucket :=
  { state with visits := state.visits.set id { visit with stage := stage } }

/-- `upsertUsage` and the comparison with the limit. -/
def State.checkAndIncrement (state : State Bucket) (ip day : String) (limit : Int) :
    Bool × State Bucket :=
  let count := state.counts ip day + 1
  ((count : Int) ≤ limit,
    { state with
      counts := Function.update state.counts ip (Function.update (state.counts ip) day count) })

def step (guards : Guards Bucket) (state : State Bucket) : Action → Option (State Bucket)
  | .arrive ip =>
      some { state with visits := state.visits ++ [{ ip := ip, day := "", stage := .entered }] }
  | .sweep now => some { state with limiter := state.limiter.sweep now }
  | .allow id now =>
      match state.visits[id]? with
      | some { ip := ip, day := day, stage := .entered } =>
          let answer := state.limiter.allow guards.lib ip now
          some ({ state with limiter := answer.2 }.put id ⟨ip, day, .entered⟩
            (if answer.1 then .passedLimiter else .rejected .rateLimit))
      | _ => none
  | .check id day succeeds =>
      match state.visits[id]? with
      | some { ip := ip, day := _, stage := .passedLimiter } =>
          if succeeds then
            let answer := state.checkAndIncrement ip day guards.dailyLimit
            let recorded : State Bucket :=
              { answer.2 with ledger := state.ledger ++ [⟨id, ip, day, answer.1⟩] }
            some (recorded.put id ⟨ip, day, .passedLimiter⟩
              (if answer.1 then .passedQuota else .rejected .dailyLimit))
          else some (state.put id ⟨ip, day, .passedLimiter⟩ (.rejected .quotaCheck))
      | _ => none
  | .acquire id =>
      match state.visits[id]? with
      | some { ip := ip, day := day, stage := .passedQuota } =>
          if state.tokens < guards.capacity then
            some ({ state with tokens := state.tokens + 1 }.put id ⟨ip, day, .passedQuota⟩
              .serving)
          else some (state.put id ⟨ip, day, .passedQuota⟩ (.rejected .busy))
      | _ => none
  | .finish id panicked =>
      match state.visits[id]? with
      | some { ip := ip, day := day, stage := .serving } =>
          some (state.put id ⟨ip, day, .serving⟩ (.releasing panicked))
      | _ => none
  | .release id =>
      match state.visits[id]? with
      | some { ip := ip, day := day, stage := .releasing panicked } =>
          -- the receive blocks while the channel is empty
          if 0 < state.tokens then
            some ({ state with tokens := state.tokens - 1 }.put id
              ⟨ip, day, .releasing panicked⟩ (.served panicked))
          else none
      | _ => none

/-- Everything one step can do: a request arrives, the janitor passes, or one
request moves from its stage to the next. -/
inductive Moves (guards : Guards Bucket) (state : State Bucket) :
    Action → State Bucket → Prop where
  | arrive (ip : String) :
      Moves guards state (.arrive ip)
        { state with visits := state.visits ++ [{ ip := ip, day := "", stage := .entered }] }
  | sweep (now : Rat) :
      Moves guards state (.sweep now) { state with limiter := state.limiter.sweep now }
  | allow {id : Nat} {ip day : String} (now : Rat) (limiter : Limiter Bucket)
      (stage : Stage) (at_ : state.visits[id]? = some ⟨ip, day, .entered⟩)
      (next : stage = .passedLimiter ∨ stage = .rejected .rateLimit) :
      Moves guards state (.allow id now)
        { state with
          limiter := limiter
          visits := state.visits.set id ⟨ip, day, stage⟩ }
  | check {id : Nat} {ip old : String} (day : String)
      (at_ : state.visits[id]? = some ⟨ip, old, .passedLimiter⟩) (allowed : Bool)
      (within : allowed = decide (((state.counts ip day + 1 : Nat) : Int) ≤ guards.dailyLimit)) :
      Moves guards state (.check id day true)
        { state with
          counts := Function.update state.counts ip
            (Function.update (state.counts ip) day (state.counts ip day + 1))
          visits := state.visits.set id
            ⟨ip, day, if allowed then .passedQuota else .rejected .dailyLimit⟩
          ledger := state.ledger ++ [⟨id, ip, day, allowed⟩] }
  | failed {id : Nat} {ip old : String} (day : String)
      (at_ : state.visits[id]? = some ⟨ip, old, .passedLimiter⟩) :
      Moves guards state (.check id day false)
        { state with visits := state.visits.set id ⟨ip, day, .rejected .quotaCheck⟩ }
  | acquire {id : Nat} {ip day : String}
      (at_ : state.visits[id]? = some ⟨ip, day, .passedQuota⟩)
      (room : state.tokens < guards.capacity) :
      Moves guards state (.acquire id)
        { state with
          tokens := state.tokens + 1
          visits := state.visits.set id ⟨ip, day, .serving⟩ }
  | busy {id : Nat} {ip day : String}
      (at_ : state.visits[id]? = some ⟨ip, day, .passedQuota⟩)
      (full : guards.capacity ≤ state.tokens) :
      Moves guards state (.acquire id)
        { state with visits := state.visits.set id ⟨ip, day, .rejected .busy⟩ }
  | finish {id : Nat} {ip day : String} (panicked : Bool)
      (at_ : state.visits[id]? = some ⟨ip, day, .serving⟩) :
      Moves guards state (.finish id panicked)
        { state with visits := state.visits.set id ⟨ip, day, .releasing panicked⟩ }
  | release {id : Nat} {ip day : String} {panicked : Bool}
      (at_ : state.visits[id]? = some ⟨ip, day, .releasing panicked⟩)
      (held : 0 < state.tokens) :
      Moves guards state (.release id)
        { state with
          tokens := state.tokens - 1
          visits := state.visits.set id ⟨ip, day, .served panicked⟩ }

theorem moves_of_step (guards : Guards Bucket) (state after : State Bucket) (action : Action)
    (taken : step guards state action = some after) : Moves guards state action after := by
  cases action with
  | arrive ip => cases taken; exact .arrive ip
  | sweep now => cases taken; exact .sweep now
  | allow id now =>
      simp only [step] at taken
      split at taken
      · rename_i ip day at_
        cases taken
        refine .allow now _ _ at_ ?_
        split
        · exact .inl rfl
        · exact .inr rfl
      · cases taken
  | check id day succeeds =>
      simp only [step] at taken
      split at taken
      · rename_i ip old at_
        split at taken
        · rename_i succeeded
          cases taken
          subst succeeded
          exact .check day at_ _ rfl
        · rename_i broken
          cases taken
          have refused : succeeds = false := by simpa using broken
          subst refused
          exact .failed day at_
      · cases taken
  | acquire id =>
      simp only [step] at taken
      split at taken
      · rename_i ip day at_
        split at taken
        · rename_i room
          cases taken
          exact .acquire at_ room
        · rename_i full
          cases taken
          exact .busy at_ (Nat.le_of_not_lt full)
      · cases taken
  | finish id panicked =>
      simp only [step] at taken
      split at taken
      · rename_i ip day at_
        cases taken
        exact .finish panicked at_
      · cases taken
  | release id =>
      simp only [step] at taken
      split at taken
      · rename_i ip day panicked at_
        split at taken
        · rename_i held
          cases taken
          exact .release at_ held
        · cases taken
      · cases taken

end Council.Middleware

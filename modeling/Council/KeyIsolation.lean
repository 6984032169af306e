import Council.Projections
import Council.Middleware

/-!
The two allowances of a client: its token bucket in the limiter's map and its
row of the usage table. Calls for other keys, however many and in whatever
order, touch neither, so the answers a key gets are a matter of its own calls
and of when the janitor passes.
-/

namespace Council.KeyIsolation

open Council.RateLimit
open Council.Middleware
open Council.Projections

/-- A call on the limiter or on the store. The driver may fail a store call. -/
inductive Call where
  | allow (ip : String) (now : Rat)
  | sweep (now : Rat)
  | checkAndIncrement (ip day : String) (limit : Int) (succeeds : Bool)
  deriving DecidableEq

inductive Answer where
  | allow (allowed : Bool)
  | swept
  | checkAndIncrement (allowed : Bool)
  | failed
  deriving DecidableEq, Repr

variable {Bucket : Type}

def respond (lib : RateLib Bucket) (state : State Bucket) : Call → Answer × State Bucket
  | .allow ip now =>
      let answer := state.limiter.allow lib ip now
      (.allow answer.1, { state with limiter := answer.2 })
  | .sweep now => (.swept, { state with limiter := state.limiter.sweep now })
  | .checkAndIncrement ip day limit succeeds =>
      if succeeds then
        let answer := state.checkAndIncrement ip day limit
        (.checkAndIncrement answer.1, answer.2)
      else (.failed, state)

/-- What can change the bucket of `key`: its own calls and the janitor. -/
def drawsOn (key : String) : Call → Bool
  | .allow ip _ => ip = key
  | .sweep _ => true
  | .checkAndIncrement .. => false

/-- What can change the counters of `key`. -/
def countsFor (key : String) : Call → Bool
  | .checkAndIncrement ip .. => ip = key
  | _ => false

/-- The limiter as `key` sees it: its entry and the settings. -/
def bucketView (key : String) (state : State Bucket) :
    Option (IpEntry Bucket) × Rat × Nat × Rat :=
  (state.limiter.ips key, state.limiter.rps, state.limiter.burst, state.limiter.ttl)

theorem bucket_seen (lib : RateLib Bucket) (key : String) :
    Sees (respond lib) (drawsOn key) (bucketView key) where
  alone := by
    intro state call others
    cases call with
    | allow ip now =>
        have foreign : key ≠ ip := by
          rintro rfl
          simp [drawsOn] at others
        simp [respond, Limiter.allow, bucketView, Function.update_of_ne foreign]
    | sweep now => cases others
    | checkAndIncrement ip day limit succeeds =>
        cases succeeds <;> rfl
  acts := by
    intro state other call own same
    simp only [bucketView, Prod.mk.injEq] at same
    rcases same with ⟨entry, rps, burst, ttl⟩
    cases call with
    | allow ip now =>
        have mine : ip = key := by simpa [drawsOn] using own
        subst mine
        simp only [respond, Limiter.allow, bucketView, Function.update_self, entry, rps, burst, ttl]
        trivial
    | sweep now =>
        simp only [respond, Limiter.sweep, bucketView, entry, rps, burst, ttl]
        trivial
    | checkAndIncrement ip day limit succeeds => cases own

theorem counts_seen (lib : RateLib Bucket) (key : String) :
    Sees (respond lib) (countsFor key) (fun state => state.counts key) where
  alone := by
    intro state call others
    cases call with
    | allow ip now => rfl
    | sweep now => rfl
    | checkAndIncrement ip day limit succeeds =>
        have foreign : key ≠ ip := by
          rintro rfl
          simp [countsFor] at others
        cases succeeds with
        | false => rfl
        | true =>
            simp [respond, State.checkAndIncrement, Function.update_of_ne foreign]
  acts := by
    intro state other call own same
    cases call with
    | allow ip now => cases own
    | sweep now => cases own
    | checkAndIncrement ip day limit succeeds =>
        have mine : ip = key := by simpa [countsFor] using own
        subst mine
        cases succeeds with
        | false => exact ⟨rfl, same⟩
        | true =>
            simp only [respond, State.checkAndIncrement, Function.update_self, same, if_true]
            trivial

/-- One client cannot spend another's allowance: two histories in which the
janitor and `key` make the same calls give `key` the same answers and leave it
the same bucket and the same counters, whatever the other keys do in between. -/
theorem key_isolated (lib : RateLib Bucket) (state : State Bucket) (key : String)
    (calls others : List Call)
    (sameDraws : calls.filter (drawsOn key) = others.filter (drawsOn key))
    (sameChecks : calls.filter (countsFor key) = others.filter (countsFor key)) :
    (history (respond lib) state calls).1.filter (fun entry => drawsOn key entry.1) =
        (history (respond lib) state others).1.filter (fun entry => drawsOn key entry.1) ∧
      (history (respond lib) state calls).1.filter (fun entry => countsFor key entry.1) =
        (history (respond lib) state others).1.filter (fun entry => countsFor key entry.1) ∧
      (history (respond lib) state calls).2.limiter.ips key =
        (history (respond lib) state others).2.limiter.ips key ∧
      (history (respond lib) state calls).2.counts key =
        (history (respond lib) state others).2.counts key := by
  have bucket := histories_agree (bucket_seen lib key) calls others state state rfl sameDraws
  have counters := histories_agree (counts_seen lib key) calls others state state rfl sameChecks
  have entry := congrArg Prod.fst bucket.2
  exact ⟨bucket.1, counters.1, entry, counters.2⟩

/-- A key alone, and the same key among calls of another one. -/
theorem key_isolated_among_others :
    let own : List Call := [.allow "a" 0, .sweep 60, .checkAndIncrement "a" "d" 1 true]
    let mixed : List Call := [.allow "b" 0, .checkAndIncrement "b" "d" 1 true, .allow "a" 0,
      .allow "b" 1, .sweep 60, .checkAndIncrement "b" "d" 1 true,
      .checkAndIncrement "a" "d" 1 true, .allow "b" 61]
    let start : State TokenBucket := State.initial (New 1 1 60)
    (history (respond tokenBuckets) start own).1.filter (fun entry => drawsOn "a" entry.1) =
        (history (respond tokenBuckets) start mixed).1.filter
          (fun entry => drawsOn "a" entry.1) ∧
      (history (respond tokenBuckets) start own).1.filter (fun entry => countsFor "a" entry.1) =
        (history (respond tokenBuckets) start mixed).1.filter
          (fun entry => countsFor "a" entry.1) ∧
      (history (respond tokenBuckets) start own).2.limiter.ips "a" =
        (history (respond tokenBuckets) start mixed).2.limiter.ips "a" ∧
      (history (respond tokenBuckets) start own).2.counts "a" =
        (history (respond tokenBuckets) start mixed).2.counts "a" :=
  key_isolated tokenBuckets (State.initial (New 1 1 60)) "a" _ _ (by decide) (by decide)

end Council.KeyIsolation

import Council.Admission

/-!
`DAILY_QUOTA` is documented as the debates a client may start in a day. The
counter it is compared with is bumped before the semaphore is tried and is not
given back when no slot is free, so it counts requests the quota let pass.
-/

namespace Council.DailyLimit

open Council.RateLimit Council.Middleware Council.Machines Council.Admission

variable {Bucket : Type}

/-- The quota let the request pass, and it has no debate: it waits before the
semaphore or was answered that the server is busy. -/
def slotless (stage : Stage) : Bool :=
  granted stage && !admitted stage

/-- The next store call of this request ends in "daily limit reached". -/
def reachesLimit (guards : Guards Bucket) (state : State Bucket) (id : Nat)
    (ip day : String) : Bool :=
  (step guards state (.check id day true)).any fun after =>
    after.visits[id]? == some ⟨ip, day, .rejected .dailyLimit⟩

def slotsGiven (guards : Guards Bucket) (state : State Bucket) (action : Action) : Prop :=
  ∀ id ip day, action = .check id day true → reachesLimit guards state id ip day = true →
    count state.visits slotless ip day = 0

theorem count_granted (visits : List Visit) (ip day : String) :
    count visits granted ip day =
      count visits admitted ip day + count visits slotless ip day := by
  induction visits with
  | nil => rfl
  | cons visit rest ih =>
      simp only [count, List.countP_cons] at ih ⊢
      have split : (if (granted visit.stage && (visit.ip == ip && visit.day == day)) = true
            then 1 else 0) =
          (if (admitted visit.stage && (visit.ip == ip && visit.day == day)) = true
            then 1 else 0) +
          if (slotless visit.stage && (visit.ip == ip && visit.day == day)) = true
            then 1 else 0 := by
        cases visit.ip == ip && visit.day == day with
        | false => simp
        | true =>
            cases called : admitted visit.stage with
            | true => simp [slotless, called, granted_of_admitted called]
            | false => cases passed : granted visit.stage <;> simp [slotless, called, passed]
      omega

theorem granted_at_limit {guards : Guards Bucket} {state : State Bucket}
    (books : Books guards state) {id : Nat} {ip day : String}
    (limit : reachesLimit guards state id ip day = true) :
    count state.visits granted ip day = guards.dailyLimit.toNat := by
  cases taken : step guards state (.check id day true) with
  | none => simp [reachesLimit, taken] at limit
  | some after =>
      simp only [reachesLimit, taken, Option.any_some, beq_iff_eq] at limit
      cases moves_of_step _ _ _ _ taken with
      | check day here allowed within =>
          have inside := (List.getElem?_eq_some_iff.mp here).1
          rw [List.getElem?_set_self inside] at limit
          cases allowed with
          | true => cases limit
          | false =>
              cases limit
              have beyond := of_decide_eq_false within.symm
              rw [books.allowed]
              omega

theorem admitted_at_limit {guards : Guards Bucket} {state : State Bucket}
    (books : Books guards state) {id : Nat} {ip day : String}
    (limit : reachesLimit guards state id ip day = true) :
    guards.dailyLimit ≤ count state.visits admitted ip day ↔
      count state.visits slotless ip day = 0 := by
  have passed := granted_at_limit books limit
  rw [count_granted] at passed
  omega

def overLimit : Stage → Bool
  | .rejected .dailyLimit => true
  | _ => false

theorem count_appended (visits : List Visit) (visit : Visit) (sort : Stage → Bool)
    (outside : sort visit.stage = false) (ip day : String) :
    count (visits ++ [visit]) sort ip day = count visits sort ip day := by
  simp [count, outside]

theorem overLimit_step {guards : Guards Bucket} {state after : State Bucket} {action : Action}
    (taken : step guards state action = some after) {ip day : String}
    (fresh : 0 < count after.visits overLimit ip day) :
    0 < count state.visits overLimit ip day ∨
      ∃ id, action = .check id day true ∧ reachesLimit guards state id ip day = true := by
  cases moves_of_step _ _ _ _ taken with
  | arrive other =>
      left
      rwa [count_appended state.visits ⟨other, "", .entered⟩ overLimit rfl] at fresh
  | sweep now => exact .inl fresh
  | allow now limiter stage at_ next =>
      left
      rcases next with passed | denied
      · subst passed
        rw [count_added at_ rfl] at fresh
        exact fresh
      · subst denied
        rw [count_added at_ rfl] at fresh
        exact fresh
  | @check id other old date at_ allowed within =>
      rw [count_added at_ rfl] at fresh
      cases allowed with
      -- an allowed call is not beyond the limit
      | true =>
          left
          exact fresh
      -- a refusal under this key is what the step is about
      | false =>
          by_cases here : other = ip ∧ date = day
          · obtain ⟨rfl, rfl⟩ := here
            right
            have inside := (List.getElem?_eq_some_iff.mp at_).1
            exact ⟨id, rfl, by simp [reachesLimit, taken, List.getElem?_set_self inside]⟩
          · left
            rwa [other_key here] at fresh
  | failed date at_ =>
      left
      rw [count_added at_ rfl] at fresh
      exact fresh
  | acquire at_ room =>
      left
      rw [count_added at_ rfl] at fresh
      exact fresh
  | busy at_ full =>
      left
      rw [count_added at_ rfl] at fresh
      exact fresh
  | finish panicked at_ =>
      left
      rw [count_added at_ rfl] at fresh
      exact fresh
  | release at_ held =>
      left
      rw [count_added at_ rfl] at fresh
      exact fresh

theorem admitted_grows {guards : Guards Bucket} {state after : State Bucket} {action : Action}
    (moves : Moves guards state action after) (ip day : String) :
    count state.visits admitted ip day ≤ count after.visits admitted ip day := by
  cases moves with
  | arrive other =>
      rw [count_appended state.visits ⟨other, "", .entered⟩ admitted rfl]
  | sweep now => exact Nat.le_refl _
  | allow now limiter stage at_ next =>
      rw [count_added at_ rfl]
      exact Nat.le_add_right _ _
  | check date at_ allowed within =>
      rw [count_added at_ rfl]
      exact Nat.le_add_right _ _
  | failed date at_ =>
      rw [count_added at_ rfl]
      exact Nat.le_add_right _ _
  | acquire at_ room =>
      rw [count_added at_ rfl]
      exact Nat.le_add_right _ _
  | busy at_ full =>
      rw [count_added at_ rfl]
      exact Nat.le_add_right _ _
  | @finish id other date panicked at_ =>
      have kept : count (state.visits.set id ⟨other, date, .releasing panicked⟩) admitted ip day =
          count state.visits admitted ip day :=
        count_kept at_ (by rfl) (fun _ => rfl) ip day
      exact kept.ge
  | @release id other date panicked at_ held =>
      have kept : count (state.visits.set id ⟨other, date, .served panicked⟩) admitted ip day =
          count state.visits admitted ip day :=
        count_kept at_ (by rfl) (fun _ => rfl) ip day
      exact kept.ge

/-- "Daily limit reached" is answered after `dailyLimit` debates exactly where
every request the quota let pass before has got its slot. -/
theorem daily_limit_counts_debates_exactly (guards : Guards Bucket) (limiter : Limiter Bucket) :
    (∀ state, Reaches (step guards) always (State.initial limiter) state →
      ∀ id ip day, reachesLimit guards state id ip day = true →
        (guards.dailyLimit ≤ count state.visits admitted ip day ↔
          count state.visits slotless ip day = 0)) ∧
      ∀ state, Reaches (step guards) (slotsGiven guards) (State.initial limiter) state →
        ∀ ip day, 0 < count state.visits overLimit ip day →
          guards.dailyLimit ≤ count state.visits admitted ip day := by
  constructor
  · intro state reached id ip day limit
    exact admitted_at_limit (books_reachable reached) limit
  · intro state reached
    refine reached.invariant (fun state => ∀ ip day, 0 < count state.visits overLimit ip day →
      guards.dailyLimit ≤ count state.visits admitted ip day) ?_ ?_
    · intro ip day fresh
      cases fresh
    · intro before action after earlier given taken kept ip day fresh
      have moves := moves_of_step _ _ _ _ taken
      have books := books_reachable (earlier.weaken fun _ _ _ => trivial)
      have debates : guards.dailyLimit ≤ count before.visits admitted ip day := by
        rcases overLimit_step taken fresh with sooner | ⟨id, rfl, limit⟩
        · exact kept ip day sooner
        · exact (admitted_at_limit books limit).mpr (given id ip day rfl limit)
      have grows := admitted_grows moves ip day
      omega

/-- One slot, one debate a day. -/
def oneSlot : Guards TokenBucket where
  lib := tokenBuckets
  capacity := 1
  dailyLimit := 1

/-- A request of `ip` up to the semaphore. -/
def comes (id : Nat) (ip : String) : List Action :=
  [.arrive ip, .allow id 0, .check id "2026-01-01" true, .acquire id]

/-- The slot is taken by "b"; "a" is answered that the server is busy and
comes again. -/
def retries : List Action :=
  comes 0 "b" ++ comes 1 "a" ++ [.arrive "a", .allow 2 0]

/-- "a" has had its debate and comes again. -/
def returns : List Action :=
  comes 0 "a" ++ [.finish 0 false, .release 0, .arrive "a", .allow 1 0]

theorem daily_limit_counts_debates_served :
    ∃ state, perform (step oneSlot) always (State.initial (New 1 3 600)) returns = some state ∧
      reachesLimit oneSlot state 1 "a" "2026-01-01" = true ∧
      (1 : Int) ≤ count state.visits admitted "a" "2026-01-01" := by
  have performed : ((perform (step oneSlot) always (State.initial (New 1 3 600)) returns).any
      fun state => reachesLimit oneSlot state 1 "a" "2026-01-01" &&
        count state.visits slotless "a" "2026-01-01" == 0) = true := by
    decide +kernel
  cases run : perform (step oneSlot) always (State.initial (New 1 3 600)) returns with
  | none => simp [run] at performed
  | some state =>
      simp only [run, Option.any_some, Bool.and_eq_true, beq_iff_eq] at performed
      exact ⟨state, rfl, performed.1,
        ((daily_limit_counts_debates_exactly oneSlot (New 1 3 600)).1 state
          (perform_reaches _ _ _ run) 1 "a" "2026-01-01" performed.1).mpr performed.2⟩

/-- "a" meets the limit of one debate and has had none. -/
theorem daily_limit_without_debate :
    ¬ ∀ state, Reaches (step oneSlot) always (State.initial (New 1 3 600)) state →
      ∀ id ip day, reachesLimit oneSlot state id ip day = true →
        oneSlot.dailyLimit ≤ count state.visits admitted ip day := by
  intro counts
  have performed : ((perform (step oneSlot) always (State.initial (New 1 3 600)) retries).any
      fun state => reachesLimit oneSlot state 2 "a" "2026-01-01" &&
        count state.visits admitted "a" "2026-01-01" == 0) = true := by
    decide +kernel
  cases run : perform (step oneSlot) always (State.initial (New 1 3 600)) retries with
  | none => simp [run] at performed
  | some state =>
      simp only [run, Option.any_some, Bool.and_eq_true, beq_iff_eq] at performed
      have most := counts state (perform_reaches _ _ _ run) 2 "a" "2026-01-01" performed.1
      rw [performed.2] at most
      cases most

end Council.DailyLimit

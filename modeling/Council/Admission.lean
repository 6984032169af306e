import Council.Middleware
import Mathlib.Data.List.Nodup

/-!
What the three guards keep true in every reachable state: the slots, the
counters against the visits that caused them, and the order in which the quota
ran out. Only the `check` step touches the counters, so its books are kept
apart from the slots.
-/

namespace Council.Admission

open Council.RateLimit Council.Middleware Council.Machines

variable {Bucket : Type}

/-- Between the acquire and the release of a slot. -/
def holds : Stage → Bool
  | .serving | .releasing _ => true
  | _ => false

/-- `next` was called. -/
def admitted : Stage → Bool
  | .serving | .releasing _ | .served _ => true
  | _ => false

/-- `CheckAndIncrement` answered that the request is allowed. -/
def granted : Stage → Bool
  | .passedQuota | .rejected .busy => true
  | stage => admitted stage

/-- The store call succeeded, whatever it answered. -/
def stored : Stage → Bool
  | .rejected .dailyLimit => true
  | stage => granted stage

def turnedAway : Stage → Bool
  | .rejected _ => true
  | _ => false

/-- The request whose step this is. -/
def visitor : Action → Option Nat
  | .arrive _ | .sweep _ => none
  | .allow id _ | .check id _ _ | .acquire id | .finish id _ | .release id => some id

/-- How many requests of `(ip, day)` stand at a stage of this sort. -/
def count (visits : List Visit) (sort : Stage → Bool) (ip day : String) : Nat :=
  visits.countP fun visit => sort visit.stage && (visit.ip == ip && visit.day == day)

def slots (visits : List Visit) : Nat :=
  visits.countP fun visit => holds visit.stage

/-- The store calls of `(ip, day)`, in store order. -/
def calls (ledger : List Entry) (ip day : String) : List Entry :=
  ledger.filter fun entry => entry.ip == ip && entry.day == day

theorem granted_of_admitted {stage : Stage} (called : admitted stage = true) :
    granted stage = true := by
  cases stage with
  | serving => rfl
  | releasing panicked => rfl
  | served panicked => rfl
  | entered | passedLimiter | passedQuota => cases called
  | rejected reason => cases called

theorem countP_moved {Item : Type} {items : List Item} {id : Nat} {old : Item}
    (at_ : items[id]? = some old) (new : Item) (sort : Item → Bool) :
    (items.set id new).countP sort + (sort old).toNat =
      items.countP sort + (sort new).toNat := by
  obtain ⟨inside, here⟩ := List.getElem?_eq_some_iff.mp at_
  rw [List.countP_set inside, here]
  cases was : sort old with
  | false => cases sort new <;> simp
  | true =>
      have one : 0 < items.countP sort :=
        List.countP_pos_iff.mpr ⟨old, here ▸ List.getElem_mem inside, was⟩
      cases sort new with
      | false => simp [Nat.sub_add_cancel one]
      | true => simp [Nat.sub_add_cancel one]

theorem slots_moved {visits : List Visit} {id : Nat} {old : Visit}
    (at_ : visits[id]? = some old) (new : Visit) :
    slots (visits.set id new) + (holds old.stage).toNat =
      slots visits + (holds new.stage).toNat :=
  countP_moved at_ new fun visit => holds visit.stage

theorem count_kept {visits : List Visit} {id : Nat} {ip old day : String}
    {before after : Stage} {sort : Stage → Bool}
    (at_ : visits[id]? = some ⟨ip, old, before⟩) (same : sort after = sort before)
    (dated : sort before = true → old = day) (key date : String) :
    count (visits.set id ⟨ip, day, after⟩) sort key date = count visits sort key date := by
  have shifted := countP_moved at_ ⟨ip, day, after⟩
    fun visit => sort visit.stage && (visit.ip == key && visit.day == date)
  simp only [same] at shifted
  cases counts : sort before with
  | false =>
      simp only [counts, Bool.false_and] at shifted
      exact Nat.add_right_cancel shifted
  | true =>
      rw [dated counts] at shifted
      exact Nat.add_right_cancel shifted

theorem count_added {visits : List Visit} {id : Nat} {ip old day : String}
    {before after : Stage} {sort : Stage → Bool}
    (at_ : visits[id]? = some ⟨ip, old, before⟩) (fresh : sort before = false)
    (key date : String) :
    count (visits.set id ⟨ip, day, after⟩) sort key date =
      count visits sort key date + (sort after && (ip == key && day == date)).toNat := by
  have shifted := countP_moved at_ ⟨ip, day, after⟩
    fun visit => sort visit.stage && (visit.ip == key && visit.day == date)
  simp only [fresh, Bool.false_and] at shifted
  exact shifted

/-- What a step does to the books: nothing, or one store call that succeeds. -/
inductive Posting (guards : Guards Bucket) (state after : State Bucket) : Prop where
  | quiet (counts : after.counts = state.counts) (ledger : after.ledger = state.ledger)
      (counted : ∀ ip day, count after.visits stored ip day = count state.visits stored ip day)
      (allowed : ∀ ip day, count after.visits granted ip day = count state.visits granted ip day)
      (kept : ∀ (id : Nat) (ip day : String) (stage : Stage),
        state.visits[id]? = some ⟨ip, day, stage⟩ → stored stage = true →
        ∃ next, after.visits[id]? = some ⟨ip, day, next⟩ ∧ stored next = true ∧
          granted next = granted stage)
  | posted (id : Nat) (ip old day : String) (allowed : Bool)
      (at_ : state.visits[id]? = some ⟨ip, old, .passedLimiter⟩)
      (within : allowed = decide (((state.counts ip day + 1 : Nat) : Int) ≤ guards.dailyLimit))
      (counts : after.counts = Function.update state.counts ip
        (Function.update (state.counts ip) day (state.counts ip day + 1)))
      (visits : after.visits = state.visits.set id
        ⟨ip, day, if allowed then .passedQuota else .rejected .dailyLimit⟩)
      (ledger : after.ledger = state.ledger ++ [⟨id, ip, day, allowed⟩])

theorem quiet_moved {guards : Guards Bucket} {state after : State Bucket} {id : Nat}
    {ip old day : String} {before next : Stage}
    (at_ : state.visits[id]? = some ⟨ip, old, before⟩)
    (visits : after.visits = state.visits.set id ⟨ip, day, next⟩)
    (counts : after.counts = state.counts) (ledger : after.ledger = state.ledger)
    (counted : stored next = stored before) (allowed : granted next = granted before)
    (dated : stored before = true → old = day) : Posting guards state after := by
  have stored_of_granted : granted before = true → stored before = true := by
    intro passed
    cases before with
    | rejected reason => cases reason <;> first | rfl | exact passed
    | _ => exact passed
  refine .quiet counts ledger ?_ ?_ ?_
  · intro key date
    rw [visits]
    exact count_kept at_ counted dated key date
  · intro key date
    rw [visits]
    exact count_kept at_ allowed (fun passed => dated (stored_of_granted passed)) key date
  · intro other key date stage here was
    rw [visits]
    by_cases same : id = other
    · subst same
      rw [at_] at here
      cases here
      have inside := (List.getElem?_eq_some_iff.mp at_).1
      refine ⟨next, ?_, counted.trans was, allowed⟩
      rw [List.getElem?_set_self inside, dated was]
    · exact ⟨stage, by rw [List.getElem?_set_ne same, here], was, rfl⟩

theorem posting_of_moves {guards : Guards Bucket} {state after : State Bucket} {action : Action}
    (moves : Moves guards state action after) : Posting guards state after := by
  cases moves with
  | arrive ip =>
      refine .quiet rfl rfl ?_ ?_ ?_
      · intro key date
        simp [count, stored, granted, admitted]
      · intro key date
        simp [count, granted, admitted]
      · intro id key date stage here was
        have inside := (List.getElem?_eq_some_iff.mp here).1
        exact ⟨stage, by rw [List.getElem?_append_left inside, here], was, rfl⟩
  | sweep now =>
      exact .quiet rfl rfl (fun _ _ => rfl) (fun _ _ => rfl)
        fun _ _ _ stage here was => ⟨stage, here, was, rfl⟩
  | allow now limiter stage at_ next =>
      rcases next with passed | denied
      · subst passed
        exact quiet_moved at_ rfl rfl rfl rfl rfl nofun
      · subst denied
        exact quiet_moved at_ rfl rfl rfl rfl rfl nofun
  | check day at_ allowed within => exact .posted _ _ _ day allowed at_ within rfl rfl rfl
  | failed day at_ => exact quiet_moved at_ rfl rfl rfl rfl rfl nofun
  | acquire at_ room => exact quiet_moved at_ rfl rfl rfl rfl rfl fun _ => rfl
  | busy at_ full => exact quiet_moved at_ rfl rfl rfl rfl rfl fun _ => rfl
  | finish panicked at_ => exact quiet_moved at_ rfl rfl rfl rfl rfl fun _ => rfl
  | release at_ held => exact quiet_moved at_ rfl rfl rfl rfl rfl fun _ => rfl

/-- The first `limit` answers of a key are yes, the later ones no. -/
def answers (limit calls : Nat) : List Bool :=
  List.replicate (min calls limit) true ++ List.replicate (calls - limit) false

theorem answers_succ (limit calls : Nat) :
    answers limit (calls + 1) = answers limit calls ++ [decide (calls + 1 ≤ limit)] := by
  unfold answers
  by_cases room : calls + 1 ≤ limit
  · have none_left : calls - limit = 0 := by omega
    have none_after : calls + 1 - limit = 0 := by omega
    rw [none_left, none_after, Nat.min_eq_left room, Nat.min_eq_left (by omega),
      decide_eq_true room, List.replicate_succ']
    simp
  · have one_more : calls + 1 - limit = calls - limit + 1 := by omega
    rw [one_more, Nat.min_eq_right (by omega), Nat.min_eq_right (by omega : limit ≤ calls),
      decide_eq_false room, List.replicate_succ', List.append_assoc]

/-- The counters, the ledger and the visits tell the same story. -/
structure Books (guards : Guards Bucket) (state : State Bucket) : Prop where
  counted : ∀ ip day, state.counts ip day = count state.visits stored ip day
  allowed : ∀ ip day, count state.visits granted ip day =
    min (state.counts ip day) guards.dailyLimit.toNat
  ordered : ∀ ip day, (calls state.ledger ip day).map (·.allowed) =
    answers guards.dailyLimit.toNat (state.counts ip day)
  recorded : ∀ entry ∈ state.ledger, ∃ stage,
    state.visits[entry.id]? = some ⟨entry.ip, entry.day, stage⟩ ∧ stored stage = true ∧
      granted stage = entry.allowed
  once : (state.ledger.map (·.id)).Nodup

theorem calls_append (ledger : List Entry) (entry : Entry) (ip day : String) :
    calls (ledger ++ [entry]) ip day =
      calls ledger ip day ++ if entry.ip = ip ∧ entry.day = day then [entry] else [] := by
  by_cases here : entry.ip = ip ∧ entry.day = day
  · simp [calls, List.filter_append, here]
  · simp [calls, List.filter_append, here]

theorem other_key {ip day key date : String} (apart : ¬ (ip = key ∧ day = date)) :
    (ip == key && day == date) = false := by
  simpa using apart

theorem posted_elsewhere (counts : String → String → Nat) {ip day key date : String}
    (apart : ¬ (ip = key ∧ day = date)) (posted : Nat) :
    Function.update counts ip (Function.update (counts ip) day posted) key date =
      counts key date := by
  by_cases same : key = ip
  · subst same
    have other : date ≠ day := fun equal => apart ⟨rfl, equal.symm⟩
    rw [Function.update_self, Function.update_of_ne other]
  · rw [Function.update_of_ne same]

theorem books_quiet {guards : Guards Bucket} {state after : State Bucket}
    (books : Books guards state) (counts : after.counts = state.counts)
    (ledger : after.ledger = state.ledger)
    (counted : ∀ ip day, count after.visits stored ip day = count state.visits stored ip day)
    (allowed : ∀ ip day, count after.visits granted ip day = count state.visits granted ip day)
    (kept : ∀ (id : Nat) (ip day : String) (stage : Stage),
      state.visits[id]? = some ⟨ip, day, stage⟩ → stored stage = true →
      ∃ next, after.visits[id]? = some ⟨ip, day, next⟩ ∧ stored next = true ∧
        granted next = granted stage) :
    Books guards after := by
  constructor
  · intro ip day
    rw [counts, counted, books.counted]
  · intro ip day
    rw [counts, allowed, books.allowed]
  · intro ip day
    rw [counts, ledger, books.ordered]
  · intro entry member
    rw [ledger] at member
    obtain ⟨stage, here, was, same⟩ := books.recorded entry member
    obtain ⟨next, there, still, agrees⟩ := kept _ _ _ _ here was
    exact ⟨next, there, still, agrees.trans same⟩
  · rw [ledger]
    exact books.once

/-- A store call that succeeds adds one to its key, in the counter, among the
visits and at the end of the ledger. -/
theorem books_posted {guards : Guards Bucket} {state after : State Bucket}
    (books : Books guards state) {id : Nat} {ip old day : String} {allowed : Bool}
    (at_ : state.visits[id]? = some ⟨ip, old, .passedLimiter⟩)
    (within : allowed = decide (((state.counts ip day + 1 : Nat) : Int) ≤ guards.dailyLimit))
    (counts : after.counts = Function.update state.counts ip
      (Function.update (state.counts ip) day (state.counts ip day + 1)))
    (visits : after.visits = state.visits.set id
      ⟨ip, day, if allowed then .passedQuota else .rejected .dailyLimit⟩)
    (ledger : after.ledger = state.ledger ++ [⟨id, ip, day, allowed⟩]) :
    Books guards after := by
  have inside := (List.getElem?_eq_some_iff.mp at_).1
  have standing : stored (if allowed then Stage.passedQuota else .rejected .dailyLimit) =
      true := by
    cases allowed <;> rfl
  have passes : granted (if allowed then Stage.passedQuota else .rejected .dailyLimit) =
      allowed := by
    cases allowed <;> rfl
  -- the visit that posts has no entry yet
  have unposted : ∀ entry ∈ state.ledger, entry.id ≠ id := by
    intro entry member equal
    obtain ⟨stage, found, was, _⟩ := books.recorded entry member
    rw [equal, at_] at found
    cases found
    cases was
  constructor
  · intro key date
    rw [counts, visits, count_added at_ rfl, standing, ← books.counted]
    by_cases here : ip = key ∧ day = date
    · obtain ⟨rfl, rfl⟩ := here
      simp
    · rw [posted_elsewhere state.counts here, other_key here]
      simp
  · intro key date
    rw [counts, visits, count_added at_ rfl, passes, books.allowed]
    by_cases here : ip = key ∧ day = date
    · obtain ⟨rfl, rfl⟩ := here
      subst within
      -- the counter has passed the limit exactly when the call is refused
      by_cases room : ((state.counts ip day + 1 : Nat) : Int) ≤ guards.dailyLimit
      · simp only [room, decide_true, BEq.rfl, Bool.and_self, Bool.toNat_true,
          Function.update_self]
        omega
      · simp only [room, decide_false, Bool.false_and, Bool.toNat_false,
          Function.update_self]
        omega
    · rw [posted_elsewhere state.counts here, other_key here]
      simp
  · intro key date
    rw [counts, ledger, calls_append, List.map_append, books.ordered]
    by_cases here : ip = key ∧ day = date
    · obtain ⟨rfl, rfl⟩ := here
      have flag : allowed = decide (state.counts ip day + 1 ≤ guards.dailyLimit.toNat) := by
        rw [within]
        exact decide_eq_decide.mpr (by omega)
      simp [answers_succ, flag]
    · rw [posted_elsewhere state.counts here]
      simp [here]
  · intro entry member
    rw [ledger] at member
    rcases List.mem_append.mp member with earlier | last
    · obtain ⟨stage, here, was, same⟩ := books.recorded entry earlier
      refine ⟨stage, ?_, was, same⟩
      rw [visits, List.getElem?_set_ne (unposted entry earlier).symm, here]
    · rw [List.mem_singleton] at last
      subst last
      refine ⟨_, ?_, standing, passes⟩
      rw [visits, List.getElem?_set_self inside]
  · rw [ledger, List.map_append]
    apply List.Nodup.append books.once (List.nodup_singleton _)
    intro other earlier here
    obtain ⟨entry, member, rfl⟩ := List.mem_map.mp earlier
    exact unposted entry member (List.mem_singleton.mp here)

theorem books_step {guards : Guards Bucket} {state after : State Bucket}
    (posting : Posting guards state after) (books : Books guards state) :
    Books guards after := by
  cases posting with
  | quiet counts ledger counted allowed kept =>
      exact books_quiet books counts ledger counted allowed kept
  | posted id ip old day allowed at_ within counts visits ledger =>
      exact books_posted books at_ within counts visits ledger

theorem books_reachable {guards : Guards Bucket} {limiter : Limiter Bucket}
    {state : State Bucket}
    (reached : Reaches (step guards) always (State.initial limiter) state) :
    Books guards state := by
  apply reached.invariant (Books guards)
  · constructor
    · intro ip day
      rfl
    · intro ip day
      simp [count, State.initial]
    · intro ip day
      simp [calls, answers, State.initial]
    · intro entry member
      cases member
    · exact List.nodup_nil
  · intro before action after _ _ taken books
    exact books_step (posting_of_moves (moves_of_step _ _ _ _ taken)) books

/-- The channel holds one token for each request between acquire and release. -/
structure Slotted (guards : Guards Bucket) (state : State Bucket) : Prop where
  tokens : state.tokens = slots state.visits
  bounded : state.tokens ≤ guards.capacity

theorem slotted_step {guards : Guards Bucket} {state after : State Bucket} {action : Action}
    (moves : Moves guards state action after) (slotted : Slotted guards state) :
    Slotted guards after := by
  have tokens := slotted.tokens
  have bounded := slotted.bounded
  cases moves with
  | arrive ip =>
      refine ⟨?_, bounded⟩
      rw [tokens]
      simp [slots, holds]
  | sweep now => exact ⟨tokens, bounded⟩
  | @allow id ip day now limiter stage at_ next =>
      have shifted := slots_moved at_ ⟨ip, day, stage⟩
      have outside : holds stage = false := by
        rcases next with passed | denied
        · rw [passed]
          rfl
        · rw [denied]
          rfl
      rw [outside] at shifted
      exact ⟨tokens.trans shifted.symm, bounded⟩
  | @check id ip old day at_ allowed within =>
      have shifted := slots_moved at_
        ⟨ip, day, if allowed then .passedQuota else .rejected .dailyLimit⟩
      have outside : holds (if allowed then Stage.passedQuota else .rejected .dailyLimit) =
          false := by
        cases allowed <;> rfl
      rw [outside] at shifted
      exact ⟨tokens.trans shifted.symm, bounded⟩
  | @failed id ip old day at_ =>
      have shifted := slots_moved at_ ⟨ip, day, .rejected .quotaCheck⟩
      exact ⟨tokens.trans shifted.symm, bounded⟩
  -- the send on the channel, where there is room
  | @acquire id ip day at_ room =>
      have shifted : slots _ + 0 = slots state.visits + 1 := slots_moved at_ ⟨ip, day, .serving⟩
      constructor
      · dsimp only
        omega
      · exact room
  | @busy id ip day at_ full =>
      have shifted := slots_moved at_ ⟨ip, day, .rejected .busy⟩
      exact ⟨tokens.trans shifted.symm, bounded⟩
  | @finish id ip day panicked at_ =>
      have shifted := slots_moved at_ ⟨ip, day, .releasing panicked⟩
      exact ⟨tokens.trans (Nat.add_right_cancel shifted).symm, bounded⟩
  -- the deferred receive
  | @release id ip day panicked at_ held =>
      have shifted : slots _ + 1 = slots state.visits + 0 :=
        slots_moved at_ ⟨ip, day, .served panicked⟩
      constructor
      · dsimp only
        omega
      · dsimp only
        omega

theorem slotted_reachable {guards : Guards Bucket} {limiter : Limiter Bucket}
    {state : State Bucket}
    (reached : Reaches (step guards) always (State.initial limiter) state) :
    Slotted guards state := by
  refine reached.invariant (Slotted guards) ⟨rfl, Nat.zero_le _⟩ ?_
  intro before action after _ _ taken slotted
  exact slotted_step (moves_of_step _ _ _ _ taken) slotted

/-- The deferred receive finds a token: its own request put one in. -/
theorem release_enabled {guards : Guards Bucket} {state : State Bucket}
    (slotted : Slotted guards state) {id : Nat} {ip day : String} {panicked : Bool}
    (at_ : state.visits[id]? = some ⟨ip, day, .releasing panicked⟩) :
    (step guards state (.release id)).isSome := by
  have held : 0 < state.tokens := by
    rw [slotted.tokens]
    exact List.countP_pos_iff.mpr ⟨_, List.mem_of_getElem? at_, rfl⟩
  simp only [step, at_, held, if_true, Option.isSome_some]

theorem rejected_stuck {guards : Guards Bucket} {state : State Bucket} {id : Nat}
    {visit : Visit} (at_ : state.visits[id]? = some visit)
    (rejected : turnedAway visit.stage = true) (action : Action)
    (own : visitor action = some id) : step guards state action = none := by
  obtain ⟨ip, day, stage⟩ := visit
  cases stage with
  | rejected reason =>
      cases action with
      | arrive ip => cases own
      | sweep now => cases own
      | allow other now => cases own; simp only [step, at_]
      | check other day succeeds => cases own; simp only [step, at_]
      | acquire other => cases own; simp only [step, at_]
      | finish other panicked => cases own; simp only [step, at_]
      | release other => cases own; simp only [step, at_]
  | _ => cases rejected

theorem others_kept {guards : Guards Bucket} {state after : State Bucket} {action : Action}
    (moves : Moves guards state action after) {id : Nat} {visit : Visit}
    (at_ : state.visits[id]? = some visit) (other : visitor action ≠ some id) :
    after.visits[id]? = some visit := by
  have apart : ∀ mover : Nat, some mover ≠ some id → mover ≠ id :=
    fun mover differ equal => differ (congrArg some equal)
  cases moves with
  | arrive ip =>
      have inside := (List.getElem?_eq_some_iff.mp at_).1
      exact (List.getElem?_append_left inside).trans at_
  | sweep now => exact at_
  | allow now limiter stage here next =>
      exact (List.getElem?_set_ne (apart _ other)).trans at_
  | check day here allowed within => exact (List.getElem?_set_ne (apart _ other)).trans at_
  | failed day here => exact (List.getElem?_set_ne (apart _ other)).trans at_
  | acquire here room => exact (List.getElem?_set_ne (apart _ other)).trans at_
  | busy here full => exact (List.getElem?_set_ne (apart _ other)).trans at_
  | finish panicked here => exact (List.getElem?_set_ne (apart _ other)).trans at_
  | release here held => exact (List.getElem?_set_ne (apart _ other)).trans at_

/-- Once rejected, a request stays rejected: it never reaches `next`. -/
theorem rejected_stays {guards : Guards Bucket} {state later : State Bucket}
    (reached : Reaches (step guards) always state later) {id : Nat} {visit : Visit}
    (at_ : state.visits[id]? = some visit) (rejected : turnedAway visit.stage = true) :
    later.visits[id]? = some visit := by
  refine reached.invariant (fun state => state.visits[id]? = some visit) at_ ?_
  intro before action after _ _ taken here
  apply others_kept (moves_of_step _ _ _ _ taken) here
  intro own
  rw [rejected_stuck here rejected action own] at taken
  cases taken

theorem rejecting_slotless {guards : Guards Bucket} {state after : State Bucket}
    {action : Action} (moves : Moves guards state action after) {id : Nat} {visit : Visit}
    (own : visitor action = some id) (at_ : after.visits[id]? = some visit)
    (rejected : turnedAway visit.stage = true) : after.tokens = state.tokens := by
  have placed : ∀ {mover : Nat} {old new : Visit}, state.visits[mover]? = some old →
      (state.visits.set mover new)[mover]? = some new := fun here =>
    List.getElem?_set_self (List.getElem?_eq_some_iff.mp here).1
  cases moves with
  | arrive ip => rfl
  | sweep now => rfl
  | allow now limiter stage here next => rfl
  | check day here allowed within => rfl
  | failed day here => rfl
  | busy here full => rfl
  | finish panicked here => rfl
  | acquire here room =>
      cases own
      rw [show (state.visits.set id _)[id]? = _ from placed here] at at_
      cases at_
      cases rejected
  | release here held =>
      cases own
      rw [show (state.visits.set id _)[id]? = _ from placed here] at at_
      cases at_
      cases rejected

/-- What admission control promises of a state. -/
structure Admitted (guards : Guards Bucket) (state : State Bucket) : Prop where
  /-- The slots in use are those of the requests between acquire and release. -/
  tokens : state.tokens = slots state.visits
  bounded : state.tokens ≤ guards.capacity
  releases : ∀ id ip day panicked, state.visits[id]? = some ⟨ip, day, .releasing panicked⟩ →
    (step guards state (.release id)).isSome
  slotless : ∀ (action : Action) (after : State Bucket) (id : Nat) (visit : Visit),
      step guards state action = some after →
    visitor action = some id → after.visits[id]? = some visit →
    turnedAway visit.stage = true → after.tokens = state.tokens
  stuck : ∀ (action : Action) (id : Nat) (visit : Visit), state.visits[id]? = some visit →
    turnedAway visit.stage = true → visitor action = some id → step guards state action = none
  /-- The counter of a key is the number of its successful store calls. -/
  counted : ∀ ip day, state.counts ip day = count state.visits stored ip day
  ledgered : ∀ ip day, state.counts ip day = (calls state.ledger ip day).length
  /-- In store order, exactly the first `dailyLimit` of them are allowed. -/
  ordered : ∀ ip day, (calls state.ledger ip day).map (·.allowed) =
    answers guards.dailyLimit.toNat (state.counts ip day)
  recorded : ∀ entry ∈ state.ledger, ∃ stage,
    state.visits[entry.id]? = some ⟨entry.ip, entry.day, stage⟩ ∧ stored stage = true ∧
      granted stage = entry.allowed
  once : (state.ledger.map (·.id)).Nodup
  limited : ∀ ip day, count state.visits admitted ip day ≤ guards.dailyLimit.toNat
  /-- Without a successful store call there is no entry, and no way to `next`. -/
  unrecorded : ∀ (id : Nat) (visit : Visit),
      state.visits[id]? = some visit → stored visit.stage = false →
    ∀ entry ∈ state.ledger, entry.id ≠ id
  final : ∀ later, Reaches (step guards) always state later → ∀ (id : Nat) (visit : Visit),
    state.visits[id]? = some visit → turnedAway visit.stage = true →
    later.visits[id]? = some visit

/-- Admission control is safe in every reachable state. -/
theorem admission_safe (guards : Guards Bucket) (limiter : Limiter Bucket)
    (state : State Bucket)
    (reached : Reaches (step guards) always (State.initial limiter) state) :
    Admitted guards state := by
  have slotted := slotted_reachable reached
  have books := books_reachable reached
  constructor
  · exact slotted.tokens
  · exact slotted.bounded
  · intro id ip day panicked at_
    exact release_enabled slotted at_
  · intro action after id visit taken own at_ rejected
    exact rejecting_slotless (moves_of_step _ _ _ _ taken) own at_ rejected
  · intro action id visit at_ rejected own
    exact rejected_stuck at_ rejected action own
  · exact books.counted
  -- the length of the answers is the number of calls
  · intro ip day
    have flags := congrArg List.length (books.ordered ip day)
    simp only [List.length_map, answers, List.length_append, List.length_replicate] at flags
    omega
  · exact books.ordered
  · exact books.recorded
  · exact books.once
  -- who reached `next` was granted, and the granted are bounded
  · intro ip day
    have fewer : count state.visits admitted ip day ≤ count state.visits granted ip day := by
      refine List.countP_mono_left fun visit _ called => ?_
      rw [Bool.and_eq_true] at called ⊢
      exact ⟨granted_of_admitted called.1, called.2⟩
    have allowed := books.allowed ip day
    omega
  · intro id visit at_ missing entry member same
    obtain ⟨stage, here, was, _⟩ := books.recorded entry member
    rw [same, at_] at here
    cases here
    rw [was] at missing
    cases missing
  · intro later reaches id visit at_ rejected
    exact rejected_stays reaches at_ rejected

/-- One slot, one debate a day: a debate, a request turned away and a request
beyond the limit. -/
def crowded : List Action :=
  [.arrive "a", .allow 0 0, .check 0 "2026-01-01" true, .acquire 0,
    .arrive "b", .allow 1 0, .check 1 "2026-01-01" true, .acquire 1,
    .arrive "a", .allow 2 0, .check 2 "2026-01-01" true, .finish 0 false]

theorem admission_safe_crowded :
    ∃ state, perform (step ⟨tokenBuckets, 1, 1⟩) always (State.initial (New 1 3 600)) crowded =
      some state ∧ Admitted ⟨tokenBuckets, 1, 1⟩ state := by
  have performed : (perform (step ⟨tokenBuckets, 1, 1⟩) always
      (State.initial (New 1 3 600)) crowded).isSome := by
    decide +kernel
  obtain ⟨state, run⟩ := Option.isSome_iff_exists.mp performed
  exact ⟨state, run, admission_safe _ _ state (perform_reaches _ _ _ run)⟩

end Council.Admission

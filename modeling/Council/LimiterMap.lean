import Council.RateBound
import Mathlib.Data.Finset.Card
import Mathlib.Data.List.Count

/-!
What the limiter's map holds. A call keeps its client's entry until a sweep
finds the entry idle for `ttl`; so the map is a window of the calls that were
made, and sweeping bounds it by the clients of that window. The time of a sweep
is that of its tick: the janitor may take the mutex only after later calls.
-/

namespace Council.LimiterMap

open Council.RateLimit
open Council.RateBound

section Histories
variable {Bucket : Type} (lib : RateLib Bucket)

def visit (limiter : Limiter Bucket) : Op → Limiter Bucket
  | .allow ip at_ => (limiter.allow lib ip at_).2
  | .sweep at_ => limiter.sweep at_

def visits (limiter : Limiter Bucket) (history : List Op) : Limiter Bucket :=
  history.foldl (visit lib) limiter

def lastSeen (limiter : Limiter Bucket) (ip : String) : Option Rat :=
  (limiter.ips ip).map (·.lastSeen)

variable {lib} {limiter : Limiter Bucket}

theorem visits_snoc (history : List Op) (op : Op) :
    visits lib limiter (history ++ [op]) = visit lib (visits lib limiter history) op := by
  rw [visits, List.foldl_append]
  rfl

theorem visits_ttl (history : List Op) : (visits lib limiter history).ttl = limiter.ttl := by
  induction history using List.reverseRecOn with
  | nil => rfl
  | append_singleton history op ih =>
      rw [visits_snoc]
      cases op with
      | allow => exact ih
      | sweep => exact ih

theorem seen_allow (limiter : Limiter Bucket) (ip other : String) (at_ : Rat) :
    lastSeen (visit lib limiter (.allow other at_)) ip =
      if ip = other then some at_ else lastSeen limiter ip := by
  by_cases same : ip = other
  · subst same
    simp [lastSeen, visit, Limiter.allow]
  · simp [lastSeen, visit, Limiter.allow, same]

theorem seen_sweep (limiter : Limiter Bucket) (ip : String) (at_ seen : Rat) :
    lastSeen (visit lib limiter (.sweep at_)) ip = some seen ↔
      lastSeen limiter ip = some seen ∧ at_ - seen < limiter.ttl := by
  simp only [lastSeen, visit, Limiter.sweep]
  cases limiter.ips ip with
  | none => simp
  | some entry =>
      by_cases idle : limiter.ttl ≤ at_ - entry.lastSeen
      · simp only [idle, if_true, Option.map_none, reduceCtorEq, Option.map_some, Option.some.injEq,
          false_iff, not_and, not_lt]
        rintro rfl
        exact idle
      · simp only [idle, if_false, Option.map_some, Option.some.injEq]
        constructor
        · rintro rfl
          exact ⟨rfl, not_le.mp idle⟩
        · exact fun both => both.1

end Histories

/-- The client's last call of a history was at this time, and no sweep since
then has found it idle. -/
def Retained (ttl : Rat) (ip : String) (seen : Rat) (history : List Op) : Prop :=
  ∃ before after, history = before ++ .allow ip seen :: after ∧
    ∀ op ∈ after, (∀ at_, op ≠ .allow ip at_) ∧ ∀ at_, op = .sweep at_ → at_ - seen < ttl

section Retention
variable {ttl seen : Rat} {ip : String} {history : List Op}

theorem retained_snoc (op : Op) :
    Retained ttl ip seen (history ++ [op]) ↔
      op = .allow ip seen ∨ Retained ttl ip seen history ∧ (∀ at_, op ≠ .allow ip at_) ∧
        ∀ at_, op = .sweep at_ → at_ - seen < ttl := by
  constructor
  · rintro ⟨before, after, same, quiet⟩
    cases last : after.reverse with
    | nil =>
        rw [List.reverse_eq_nil_iff.mp last] at same
        exact .inl (List.append_inj_right' same rfl |> List.singleton_inj.mp)
    | cons final rest =>
        have split : after = rest.reverse ++ [final] := by
          rw [← List.reverse_reverse after, last, List.reverse_cons]
        subst split
        rw [← List.cons_append, ← List.append_assoc] at same
        rcases List.append_inj' same rfl with ⟨earlier, here⟩
        cases List.singleton_inj.mp here
        refine .inr ⟨⟨before, rest.reverse, earlier, ?_⟩, quiet op (by simp)⟩
        exact fun other member => quiet other (List.mem_append_left _ member)
  · rintro (rfl | ⟨⟨before, after, rfl, quiet⟩, still⟩)
    · exact ⟨history, [], rfl, fun _ member => nomatch member⟩
    · refine ⟨before, after ++ [op], by simp, ?_⟩
      intro other member
      rcases List.mem_append.mp member with old | new
      · exact quiet other old
      · rw [List.mem_singleton.mp new]
        exact still

theorem not_retained_nil : ¬ Retained ttl ip seen [] := by
  rintro ⟨before, after, same, _⟩
  cases before with
  | nil => cases same
  | cons => cases same

end Retention

section Maps
variable {Bucket : Type} {lib : RateLib Bucket}

theorem seen_iff (limiter : Limiter Bucket) (empty : ∀ ip, limiter.ips ip = none)
    (history : List Op) (ip : String) (seen : Rat) :
    lastSeen (visits lib limiter history) ip = some seen ↔
      Retained limiter.ttl ip seen history := by
  induction history using List.reverseRecOn with
  | nil =>
      constructor
      · intro known
        rw [lastSeen, visits, List.foldl_nil, empty ip] at known
        cases known
      · exact fun retained => absurd retained not_retained_nil
  | append_singleton history op ih =>
      rw [visits_snoc, retained_snoc]
      cases op with
      | allow other at_ =>
          rw [seen_allow, ← ih]
          by_cases same : ip = other
          · subst same
            simp [eq_comm]
          · have apart : ∀ time, Op.allow other at_ ≠ .allow ip time := by
              rintro time both
              cases both
              exact same rfl
            simp [same, apart]
      | sweep at_ =>
          rw [seen_sweep, visits_ttl, ih]
          simp

def callerAfter (time : Rat) : Op → Option String
  | .allow ip at_ => if time < at_ then some ip else none
  | .sweep _ => none

/-- A call reads the clock under the mutex; a sweep has the time of its tick. -/
def inOrder (earlier : Op) : Op → Bool
  | .allow _ at_ => earlier.time ≤ at_
  | .sweep _ => true

/-- No call is earlier than what came before it. -/
abbrev Clocked (history : List Op) : Prop :=
  history.Pairwise fun earlier later => inOrder earlier later = true

/-- A sweep leaves no client that was idle for `ttl`, whether it has called
before the sweep or not. -/
theorem retained_recent {ttl seen at_ : Rat} {ip : String} {history : List Op}
    (clocked : Clocked history) (positive : 0 < ttl) (swept : .sweep at_ ∈ history)
    (retained : Retained ttl ip seen history) : at_ - ttl < seen := by
  rcases retained with ⟨before, after, rfl, quiet⟩
  rcases List.mem_append.mp swept with earlier | later
  · have ordered := (List.pairwise_append.mp clocked).2.2 _ earlier _ List.mem_cons_self
    have passed : at_ ≤ seen := of_decide_eq_true ordered
    linarith
  · rcases List.mem_cons.mp later with same | member
    · cases same
    · have recent := (quiet _ member).2 at_ rfl
      linarith

/-- The map is a window of the calls: it holds a client exactly while no sweep
since its last call has found it idle; and after a sweep it is no larger than
the number of calls made within `ttl` of that sweep or later. -/
theorem map_is_window (lib : RateLib Bucket) (rps : Rat) (burst : Nat) (ttl : Rat)
    (positive : 0 < ttl) (history : List Op) (clocked : Clocked history) :
    (∀ ip seen, lastSeen (visits lib (New rps burst ttl) history) ip = some seen ↔
      Retained ttl ip seen history) ∧
    ∀ at_, .sweep at_ ∈ history → ∀ ips : Finset String,
      (∀ ip ∈ ips, (lastSeen (visits lib (New rps burst ttl) history) ip).isSome = true) →
        ips.card ≤ (history.filterMap (callerAfter (at_ - ttl))).length := by
  have exact_ := @seen_iff Bucket lib (New rps burst ttl) (fun _ => rfl) history
  refine ⟨exact_, ?_⟩
  intro at_ swept ips held
  have within : ips ⊆ (history.filterMap (callerAfter (at_ - ttl))).toFinset := by
    intro ip member
    rcases Option.isSome_iff_exists.mp (held ip member) with ⟨seen, known⟩
    have retained := (exact_ ip seen).mp known
    have recent := retained_recent clocked positive swept retained
    rcases retained with ⟨before, after, same, _⟩
    rw [List.mem_toFinset, List.mem_filterMap]
    refine ⟨.allow ip seen, ?_, ?_⟩
    · rw [same]
      exact List.mem_append_right _ List.mem_cons_self
    · rw [callerAfter, if_pos recent]
  exact (Finset.card_le_card within).trans (List.toFinset_card_le _)

/-- Two clients, one of them idle when the janitor comes late. -/
theorem map_is_window_swept :
    let history : List Op := [.allow "a" 0, .allow "b" 50, .allow "c" 70, .sweep 65]
    (lastSeen (visits tokenBuckets (New 1 1 60) history) "a" = none) ∧
      ∀ ips : Finset String,
        (∀ ip ∈ ips, (lastSeen (visits tokenBuckets (New 1 1 60) history) ip).isSome = true) →
          ips.card ≤ 2 := by
  intro history
  have clocked : Clocked history := by decide +kernel
  have window := map_is_window tokenBuckets 1 1 60 (by norm_num) history clocked
  refine ⟨by decide +kernel, fun ips held => ?_⟩
  have few := window.2 65 (by simp [history]) ips held
  have two : (history.filterMap (callerAfter (65 - 60))).length = 2 := by decide +kernel
  omega

end Maps

end Council.LimiterMap

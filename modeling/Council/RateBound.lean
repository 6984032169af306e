import Council.RateLimit
import Mathlib.Tactic.Linarith
import Mathlib.Tactic.Ring
import Mathlib.Tactic.NormNum

/-!
The janitor and the rate bound. Forgetting an idle bucket hands its client a
full one, which changes nothing exactly when the bucket was bound to be full
again by then.
-/

namespace Council.RateBound

open Council.RateLimit

inductive Op where
  | allow (ip : String) (at_ : Rat)
  | sweep (at_ : Rat)
  deriving DecidableEq

def Op.time : Op → Rat
  | .allow _ at_ => at_
  | .sweep at_ => at_

/-- The limiter after one call, and whether the call was an allowed one of
this client. -/
def serve (limiter : Limiter TokenBucket) (ip : String) : Op → Bool × Limiter TokenBucket
  | .allow other at_ =>
      let answer := limiter.allow tokenBuckets other at_
      (answer.1 && other = ip, answer.2)
  | .sweep at_ => (false, limiter.sweep at_)

/-- How many calls of the client are allowed between two times. -/
def allowedIn (limiter : Limiter TokenBucket) (ip : String) (from_ until_ : Rat) :
    List Op → Nat
  | [] => 0
  | op :: rest =>
      let answer := serve limiter ip op
      (if answer.1 ∧ from_ ≤ op.time ∧ op.time ≤ until_ then 1 else 0) +
        allowedIn answer.2 ip from_ until_ rest

/-- The bucket `Allow` draws on. -/
def held (limiter : Limiter TokenBucket) (ip : String) : TokenBucket :=
  match limiter.ips ip with
  | some entry => entry.lim
  | none => tokenBuckets.newLimiter limiter.rps limiter.burst

/-- The tokens a client would find at the time `now`. -/
def level (limiter : Limiter TokenBucket) (ip : String) (now : Rat) : Rat :=
  (held limiter ip).level now

/-- A bucket has the limiter's settings, no debt, and gave its last token by
the time `seen`. -/
structure Sound (limiter : Limiter TokenBucket) (bucket : TokenBucket) (seen : Rat) : Prop where
  rate : bucket.rate = limiter.rps
  burst : bucket.burst = limiter.burst
  paid : 0 ≤ bucket.tokens
  last : ∀ last, bucket.last = some last → last ≤ seen

structure Kept (limiter : Limiter TokenBucket) (now : Rat) : Prop where
  positive : 0 ≤ limiter.rps
  entries : ∀ ip entry, limiter.ips ip = some entry →
    Sound limiter entry.lim entry.lastSeen ∧ entry.lastSeen ≤ now

theorem Sound.mono {limiter : Limiter TokenBucket} {bucket : TokenBucket} {seen now : Rat}
    (sound : Sound limiter bucket seen) (after : seen ≤ now) : Sound limiter bucket now :=
  ⟨sound.rate, sound.burst, sound.paid, fun last given => (sound.last last given).trans after⟩

theorem Kept.mono {limiter : Limiter TokenBucket} {now later : Rat}
    (kept : Kept limiter now) (after : now ≤ later) : Kept limiter later :=
  ⟨kept.positive, fun ip entry known =>
    let ⟨sound, seen⟩ := kept.entries ip entry known
    ⟨sound, seen.trans after⟩⟩

theorem held_sound {limiter : Limiter TokenBucket} {now : Rat} (kept : Kept limiter now)
    (ip : String) : Sound limiter (held limiter ip) now := by
  unfold held
  split
  · rename_i entry known
    obtain ⟨sound, seen⟩ := kept.entries ip entry known
    exact sound.mono seen
  · exact ⟨rfl, rfl, Nat.cast_nonneg _, fun last given => by cases given⟩

section Buckets
variable {limiter : Limiter TokenBucket} {bucket : TokenBucket} {seen : Rat}

theorem level_le_burst (bucket : TokenBucket) (time : Rat) :
    bucket.level time ≤ bucket.burst := by
  unfold TokenBucket.level
  split
  · exact le_refl _
  · exact min_le_left _ _

theorem level_nonneg (positive : 0 ≤ limiter.rps) (sound : Sound limiter bucket seen)
    (time : Rat) : 0 ≤ bucket.level time := by
  unfold TokenBucket.level
  split
  · exact Nat.cast_nonneg _
  · refine le_min (Nat.cast_nonneg _) (add_nonneg sound.paid ?_)
    rw [sound.rate]
    exact mul_nonneg positive (le_max_left _ _)

theorem level_refill (positive : 0 ≤ limiter.rps) (sound : Sound limiter bucket seen)
    {time later : Rat} (after : time ≤ later) :
    bucket.level later ≤ bucket.level time + limiter.rps * (later - time) := by
  have refill : 0 ≤ limiter.rps * (later - time) :=
    mul_nonneg positive (sub_nonneg.mpr after)
  unfold TokenBucket.level
  split
  · linarith
  · rename_i last _
    have longer : max 0 (later - last) ≤ max 0 (time - last) + (later - time) := by
      apply max_le
      · linarith [le_max_left 0 (time - last)]
      · linarith [le_max_right 0 (time - last)]
    have more := mul_le_mul_of_nonneg_left longer positive
    have spread := mul_add limiter.rps (max 0 (time - last)) (later - time)
    rw [sound.rate]
    rcases le_total (bucket.burst : Rat)
        (bucket.tokens + limiter.rps * max 0 (time - last)) with full | short
    · rw [min_eq_left full]
      exact (min_le_left _ _).trans (by linarith)
    · rw [min_eq_right short]
      exact (min_le_right _ _).trans (by linarith)

theorem full_when_idle (positive : 0 ≤ limiter.rps) (sound : Sound limiter bucket seen)
    (refills : (limiter.burst : Rat) ≤ limiter.rps * limiter.ttl) {later : Rat}
    (idle : limiter.ttl ≤ later - seen) : (limiter.burst : Rat) ≤ bucket.level later := by
  unfold TokenBucket.level
  split
  · rw [sound.burst]
  · rename_i last given
    apply le_min (by rw [sound.burst])
    have waited : limiter.ttl ≤ max 0 (later - last) := by
      have before := sound.last last given
      exact le_max_of_le_right (by linarith)
    have more := mul_le_mul_of_nonneg_left waited positive
    rw [sound.rate]
    linarith [sound.paid]

theorem allowN_level (bucket : TokenBucket) (time : Rat) :
    (tokenBuckets.allowN bucket time).1 = decide (1 ≤ bucket.level time) ∧
      (tokenBuckets.allowN bucket time).2.level time +
          (if (tokenBuckets.allowN bucket time).1 then 1 else 0) = bucket.level time := by
  by_cases enough : 1 ≤ bucket.level time
  · have spent : tokenBuckets.allowN bucket time =
        (true, { bucket with tokens := bucket.level time - 1, last := some time }) :=
      if_pos enough
    have small := level_le_burst bucket time
    have lower : TokenBucket.level
        { bucket with tokens := bucket.level time - 1, last := some time } time =
          bucket.level time - 1 := by
      change min (bucket.burst : Rat) (bucket.level time - 1 + bucket.rate * max 0 (time - time)) =
        bucket.level time - 1
      rw [sub_self, max_self, mul_zero, add_zero]
      exact min_eq_right (by linarith)
    rw [spent]
    refine ⟨by simp [enough], ?_⟩
    rw [lower, if_pos rfl]
    linarith
  · have denied : tokenBuckets.allowN bucket time = (false, bucket) := if_neg enough
    rw [denied]
    exact ⟨by simp [enough], by simp⟩

theorem allowN_sound (sound : Sound limiter bucket seen) {time : Rat} (after : seen ≤ time) :
    Sound limiter (tokenBuckets.allowN bucket time).2 time := by
  by_cases enough : 1 ≤ bucket.level time
  · have spent : tokenBuckets.allowN bucket time =
        (true, { bucket with tokens := bucket.level time - 1, last := some time }) :=
      if_pos enough
    rw [spent]
    refine ⟨sound.rate, sound.burst, ?_, fun last given => ?_⟩
    · dsimp only
      linarith
    · cases given
      exact le_refl _
  · have denied : tokenBuckets.allowN bucket time = (false, bucket) := if_neg enough
    rw [denied]
    exact sound.mono after

end Buckets

section Serving
variable {limiter : Limiter TokenBucket} {now : Rat}

theorem allow_eq (limiter : Limiter TokenBucket) (ip : String) (time : Rat) :
    limiter.allow tokenBuckets ip time =
      ((tokenBuckets.allowN (held limiter ip) time).1,
        { limiter with
          ips := Function.update limiter.ips ip
            (some { lim := (tokenBuckets.allowN (held limiter ip) time).2
                    lastSeen := time }) }) := by
  unfold Limiter.allow held
  cases limiter.ips ip <;> rfl

theorem held_allow_same (limiter : Limiter TokenBucket) (ip : String) (time : Rat) :
    held (limiter.allow tokenBuckets ip time).2 ip =
      (tokenBuckets.allowN (held limiter ip) time).2 := by
  rw [allow_eq]
  simp only [held, Function.update_self]

theorem held_allow_other (limiter : Limiter TokenBucket) {ip other : String} (time : Rat)
    (different : ip ≠ other) :
    held (limiter.allow tokenBuckets other time).2 ip = held limiter ip := by
  rw [allow_eq]
  simp only [held, Function.update_of_ne different]

theorem kept_allow (kept : Kept limiter now) (ip : String) {time : Rat} (after : now ≤ time) :
    Kept (limiter.allow tokenBuckets ip time).2 time := by
  refine ⟨kept.positive, fun other entry known => ?_⟩
  rw [allow_eq] at known
  dsimp only at known
  by_cases here : other = ip
  · subst here
    rw [Function.update_self] at known
    cases known
    have sound := allowN_sound (held_sound kept other) after
    exact ⟨⟨sound.rate, sound.burst, sound.paid, sound.last⟩, le_refl _⟩
  · rw [Function.update_of_ne here] at known
    obtain ⟨sound, seen⟩ := kept.entries other entry known
    exact ⟨⟨sound.rate, sound.burst, sound.paid, sound.last⟩, seen.trans after⟩

theorem kept_sweep (kept : Kept limiter now) {time : Rat} (after : now ≤ time) :
    Kept (limiter.sweep time) time := by
  refine ⟨kept.positive, fun ip entry known => ?_⟩
  cases present : limiter.ips ip with
  | none =>
      simp only [Limiter.sweep, present] at known
      cases known
  | some old =>
      simp only [Limiter.sweep, present] at known
      split at known
      · cases known
      · cases known
        obtain ⟨sound, seen⟩ := kept.entries ip entry present
        exact ⟨⟨sound.rate, sound.burst, sound.paid, sound.last⟩, seen.trans after⟩

/-- The janitor hands out no tokens, where the settings refill a bucket
within `ttl`. -/
theorem level_sweep (kept : Kept limiter now)
    (refills : (limiter.burst : Rat) ≤ limiter.rps * limiter.ttl) (ip : String) (time : Rat) :
    level (limiter.sweep time) ip time ≤ level limiter ip time := by
  cases known : limiter.ips ip with
  | none =>
      simp only [level, held, Limiter.sweep, known]
      exact le_refl _
  | some entry =>
      obtain ⟨sound, _⟩ := kept.entries ip entry known
      by_cases idle : limiter.ttl ≤ time - entry.lastSeen
      · have full := full_when_idle kept.positive sound refills idle
        simp only [level, held, Limiter.sweep, known, if_pos idle]
        exact full
      · simp only [level, held, Limiter.sweep, known, if_neg idle]
        exact le_refl _

theorem serve_settings (limiter : Limiter TokenBucket) (ip : String) (op : Op) :
    (serve limiter ip op).2.rps = limiter.rps ∧ (serve limiter ip op).2.burst = limiter.burst ∧
      (serve limiter ip op).2.ttl = limiter.ttl := by
  cases op <;> exact ⟨rfl, rfl, rfl⟩

theorem refills_serve (ip : String) (op : Op)
    (refills : (limiter.burst : Rat) ≤ limiter.rps * limiter.ttl) :
    ((serve limiter ip op).2.burst : Rat) ≤
      (serve limiter ip op).2.rps * (serve limiter ip op).2.ttl := by
  obtain ⟨rps, burst, ttl⟩ := serve_settings limiter ip op
  rwa [rps, burst, ttl]

theorem kept_serve (kept : Kept limiter now) (ip : String) (op : Op) (after : now ≤ op.time) :
    Kept (serve limiter ip op).2 op.time := by
  cases op with
  | allow other at_ => exact kept_allow kept other after
  | sweep at_ => exact kept_sweep kept after

theorem level_serve (kept : Kept limiter now)
    (refills : (limiter.burst : Rat) ≤ limiter.rps * limiter.ttl) (ip : String) (op : Op) :
    level (serve limiter ip op).2 ip op.time + (if (serve limiter ip op).1 then 1 else 0) ≤
      level limiter ip op.time := by
  cases op with
  | sweep at_ =>
      simp only [serve, Bool.false_eq_true, if_false, add_zero]
      exact level_sweep kept refills ip at_
  | allow other at_ =>
      by_cases here : ip = other
      · subst here
        have taken := (allowN_level (held limiter ip) at_).2
        simp only [serve, level, held_allow_same, decide_true, Bool.and_true]
        rw [allow_eq]
        exact taken.le
      · have apart : ¬ other = ip := fun same => here same.symm
        simp only [serve, level, held_allow_other limiter at_ here, apart, decide_false,
          Bool.and_false, Bool.false_eq_true, if_false, add_zero]
        exact le_refl _

end Serving

section Windows
variable {limiter : Limiter TokenBucket} {now : Rat} {ip : String} {from_ until_ : Rat}

theorem allowedIn_late (ops : List Op) (late : ∀ op ∈ ops, until_ < op.time) :
    allowedIn limiter ip from_ until_ ops = 0 := by
  induction ops generalizing limiter with
  | nil => rfl
  | cons op rest ih =>
      have after := late op List.mem_cons_self
      have outside : ¬ ((serve limiter ip op).1 = true ∧ from_ ≤ op.time ∧ op.time ≤ until_) :=
        fun inside => absurd inside.2.2 (not_le.mpr after)
      rw [allowedIn, if_neg outside, Nat.zero_add]
      exact ih fun other member => late other (List.mem_cons_of_mem _ member)

theorem allowedIn_le_level (ops : List Op) (ordered : ops.Pairwise fun a b => a.time ≤ b.time)
    (kept : Kept limiter now) (refills : (limiter.burst : Rat) ≤ limiter.rps * limiter.ttl)
    (starts : ∀ op ∈ ops, now ≤ op.time) (open_ : now ≤ until_) :
    (allowedIn limiter ip from_ until_ ops : Rat) ≤
      level limiter ip now + limiter.rps * (until_ - now) := by
  induction ops generalizing limiter now with
  | nil =>
      have left := mul_nonneg kept.positive (sub_nonneg.mpr open_)
      have nonneg : 0 ≤ level limiter ip now :=
        level_nonneg kept.positive (held_sound kept ip) now
      simp only [allowedIn, Nat.cast_zero]
      linarith
  | cons op rest ih =>
      obtain ⟨first, ordered⟩ := List.pairwise_cons.mp ordered
      have after := starts op List.mem_cons_self
      by_cases inside : op.time ≤ until_
      · have later := ih ordered (kept_serve kept ip op after) (refills_serve ip op refills) first
          inside
        have taken := level_serve kept refills ip op
        have refill : level limiter ip op.time ≤
            level limiter ip now + limiter.rps * (op.time - now) :=
          level_refill kept.positive (held_sound kept ip) after
        have spread : limiter.rps * (until_ - now) =
            limiter.rps * (op.time - now) + limiter.rps * (until_ - op.time) := by ring
        -- a call counts in the window only if it is allowed
        have counted : ((if (serve limiter ip op).1 = true ∧ from_ ≤ op.time ∧
            op.time ≤ until_ then 1 else 0 : Nat) : Rat) ≤
              if (serve limiter ip op).1 then 1 else 0 := by
          by_cases allowed : (serve limiter ip op).1 = true
          · rw [if_pos allowed]
            split <;> simp
          · rw [if_neg allowed, if_neg fun window => allowed window.1]
            simp
        rw [(serve_settings limiter ip op).1] at later
        rw [allowedIn, Nat.cast_add]
        linarith
      -- the window is over
      · have none_ : allowedIn limiter ip from_ until_ (op :: rest) = 0 := by
          refine allowedIn_late _ fun other member => ?_
          rcases List.mem_cons.mp member with here | inRest
          · rw [here]
            exact not_le.mp inside
          · exact (not_le.mp inside).trans_le (first other inRest)
        have left := mul_nonneg kept.positive (sub_nonneg.mpr open_)
        have nonneg : 0 ≤ level limiter ip now :=
          level_nonneg kept.positive (held_sound kept ip) now
        rw [none_, Nat.cast_zero]
        linarith

theorem allowedIn_le (ops : List Op) (ordered : ops.Pairwise fun a b => a.time ≤ b.time)
    (kept : Kept limiter now) (refills : (limiter.burst : Rat) ≤ limiter.rps * limiter.ttl)
    (starts : ∀ op ∈ ops, now ≤ op.time) (window : from_ ≤ until_) :
    (allowedIn limiter ip from_ until_ ops : Rat) ≤
      limiter.burst + limiter.rps * (until_ - from_) := by
  induction ops generalizing limiter now with
  | nil =>
      have left := mul_nonneg kept.positive (sub_nonneg.mpr window)
      simp only [allowedIn, Nat.cast_zero]
      linarith [(Nat.cast_nonneg limiter.burst : (0 : Rat) ≤ limiter.burst)]
  | cons op rest ih =>
      obtain ⟨first, ordered'⟩ := List.pairwise_cons.mp ordered
      have after := starts op List.mem_cons_self
      by_cases before : op.time < from_
      -- a call before the window counts nothing
      · have later := ih ordered' (kept_serve kept ip op after) (refills_serve ip op refills) first
        rw [(serve_settings limiter ip op).1, (serve_settings limiter ip op).2.1] at later
        have outside : ¬ ((serve limiter ip op).1 = true ∧ from_ ≤ op.time ∧
            op.time ≤ until_) := fun inside => absurd inside.2.1 (not_le.mpr before)
        rw [allowedIn, if_neg outside, Nat.zero_add]
        exact later
      -- the first call in the window finds at most a full bucket
      · have reached := not_lt.mp before
        have starts' : ∀ other ∈ op :: rest, op.time ≤ other.time := by
          intro other member
          rcases List.mem_cons.mp member with here | inRest
          · rw [here]
          · exact first other inRest
        have left := mul_nonneg kept.positive (sub_nonneg.mpr window)
        by_cases inside : op.time ≤ until_
        · have bound : (allowedIn limiter ip from_ until_ (op :: rest) : Rat) ≤
              level limiter ip op.time + limiter.rps * (until_ - op.time) :=
            allowedIn_le_level (op :: rest) ordered (kept.mono after) refills starts' inside
          have full : level limiter ip op.time ≤ limiter.burst := by
            rw [← (held_sound kept ip).burst]
            exact level_le_burst _ _
          have shorter := mul_le_mul_of_nonneg_left
            (sub_le_sub_left reached until_) kept.positive
          linarith
        · have none_ : allowedIn limiter ip from_ until_ (op :: rest) = 0 :=
            allowedIn_late _ fun other member => (not_le.mp inside).trans_le (starts' other member)
          rw [none_, Nat.cast_zero]
          linarith [(Nat.cast_nonneg limiter.burst : (0 : Rat) ≤ limiter.burst)]

end Windows

section Refilled
variable {limiter : Limiter TokenBucket} {now : Rat} {ip : String} {from_ until_ : Rat}

/-- The client's bucket was last used at the time `now`. -/
def Seen (limiter : Limiter TokenBucket) (ip : String) (now : Rat) : Prop :=
  ∃ entry, limiter.ips ip = some entry ∧ entry.lastSeen = now

theorem seen_allow (limiter : Limiter TokenBucket) (ip : String) (now : Rat) :
    Seen (limiter.allow tokenBuckets ip now).2 ip now := by
  rw [allow_eq]
  exact ⟨_, Function.update_self .., rfl⟩

theorem allowedIn_burst (calls : Nat) (rest : List Op) (kept : Kept limiter now)
    (found : (calls : Rat) ≤ level limiter ip now) (low : from_ ≤ now) (high : now ≤ until_) :
    ∃ after : Limiter TokenBucket, Kept after now ∧ after.rps = limiter.rps ∧
      after.burst = limiter.burst ∧ after.ttl = limiter.ttl ∧
      (0 < calls ∨ Seen limiter ip now → Seen after ip now) ∧
      allowedIn limiter ip from_ until_ (List.replicate calls (.allow ip now) ++ rest) =
        calls + allowedIn after ip from_ until_ rest := by
  induction calls generalizing limiter with
  | zero =>
      refine ⟨limiter, kept, rfl, rfl, rfl, ?_, by simp⟩
      rintro (none_ | seen)
      · exact absurd none_ (lt_irrefl 0)
      · exact seen
  | succ calls ih =>
      have enough : 1 ≤ (held limiter ip).level now := by
        have one : (1 : Rat) ≤ ((calls + 1 : Nat) : Rat) := by
          exact_mod_cast Nat.le_add_left 1 calls
        exact one.trans found
      obtain ⟨allowed, spent⟩ := allowN_level (held limiter ip) now
      rw [decide_eq_true enough] at allowed
      rw [allowed, if_pos rfl] at spent
      have left : (calls : Rat) ≤ level (limiter.allow tokenBuckets ip now).2 ip now := by
        rw [level, held_allow_same]
        rw [level] at found
        push_cast at found
        linarith
      obtain ⟨after, still, rps, burst, ttl, seen, counted⟩ :=
        ih (kept_allow kept ip (le_refl now)) left
      refine ⟨after, still, rps, burst, ttl, fun _ => seen (.inr (seen_allow limiter ip now)), ?_⟩
      · have answer : (limiter.allow tokenBuckets ip now).1 = true := by
          rw [allow_eq]
          exact allowed
        rw [List.replicate_succ, List.cons_append, allowedIn]
        simp only [serve, answer, decide_true, Bool.and_true, Op.time, low, high, and_self,
          if_true]
        rw [counted]
        omega

theorem level_forgotten (limiter : Limiter TokenBucket) (seen : Seen limiter ip now) :
    level (limiter.sweep (now + limiter.ttl)) ip (now + limiter.ttl) = limiter.burst := by
  obtain ⟨entry, known, last⟩ := seen
  have idle : limiter.ttl ≤ now + limiter.ttl - entry.lastSeen := by
    rw [last]
    linarith
  simp only [level, held, Limiter.sweep, known, if_pos idle]
  rfl

end Refilled

theorem kept_new (rps : Rat) (burst : Nat) (ttl now : Rat) (positive : 0 ≤ rps) :
    Kept (New rps burst ttl) now :=
  ⟨positive, fun _ _ known => by cases known⟩

/-- The client's bucket emptied, forgotten after `ttl`, and emptied again. -/
def twoBursts (burst : Nat) (ttl : Rat) : List Op :=
  List.replicate burst (.allow "a" 0) ++
    (.sweep ttl :: (List.replicate burst (.allow "a" ttl) ++ []))

theorem twoBursts_ordered (burst : Nat) {ttl : Rat} (retention : 0 ≤ ttl) :
    (twoBursts burst ttl).Pairwise fun a b => a.time ≤ b.time := by
  have early : ∀ op ∈ List.replicate burst (Op.allow "a" 0), op.time = 0 := by
    intro op member
    rw [List.eq_of_mem_replicate member]
    rfl
  have late : ∀ op ∈ Op.sweep ttl :: (List.replicate burst (.allow "a" ttl) ++ []),
      op.time = ttl := by
    intro op member
    rcases List.mem_cons.mp member with here | inside
    · rw [here]
      rfl
    · rw [List.append_nil] at inside
      rw [List.eq_of_mem_replicate inside]
      rfl
  have constant : ∀ ops : List Op, ∀ time, (∀ op ∈ ops, op.time = time) →
      ops.Pairwise fun a b => a.time ≤ b.time := by
    intro ops time same
    refine List.Pairwise.imp_of_mem (fun first second _ => ?_)
      (List.pairwise_of_forall fun _ _ => trivial)
    rw [same _ first, same _ second]
  refine List.pairwise_append.mpr ⟨constant _ 0 early, constant _ ttl late, ?_⟩
  intro first inFirst second inSecond
  rw [early first inFirst, late second inSecond]
  exact retention

theorem twoBursts_allowed (rps : Rat) (burst : Nat) (ttl : Rat) (positive : 0 ≤ rps)
    (size : 1 ≤ burst) (retention : 0 ≤ ttl) :
    allowedIn (New rps burst ttl) "a" 0 ttl (twoBursts burst ttl) = burst + burst := by
  obtain ⟨emptied, kept, rps₁, burst₁, ttl₁, seen, counted⟩ :=
    allowedIn_burst burst
      (.sweep ttl :: (List.replicate burst (.allow "a" ttl) ++ []))
      (kept_new rps burst ttl 0 positive) (le_refl _) (le_refl 0) retention
  have again := level_forgotten emptied (seen (.inl size))
  rw [ttl₁, zero_add] at again
  have full : ((burst : Nat) : Rat) ≤ level (emptied.sweep ttl) "a" ttl := by
    have same : emptied.burst = burst := burst₁
    have forgotten : level (emptied.sweep ttl) "a" ttl = emptied.burst := again
    rw [forgotten, same]
  obtain ⟨_, _, _, _, _, _, recounted⟩ :=
    allowedIn_burst burst [] (kept_sweep kept retention) full retention (le_refl ttl)
  rw [twoBursts, counted, allowedIn]
  simp only [serve, Bool.false_eq_true, false_and, if_false, Nat.zero_add]
  rw [recounted]
  simp [allowedIn]

/-- The rate bound holds across evictions exactly where a bucket refills
within `ttl`. -/
theorem eviction_keeps_bound_exactly (rps : Rat) (burst : Nat) (ttl : Rat) (positive : 0 < rps)
    (size : 1 ≤ burst) (retention : 0 < ttl) :
    (∀ ops : List Op, ops.Pairwise (fun a b => a.time ≤ b.time) →
      ∀ (ip : String) (from_ until_ : Rat), from_ ≤ until_ →
        (allowedIn (New rps burst ttl) ip from_ until_ ops : Rat) ≤
          burst + rps * (until_ - from_)) ↔
      (burst : Rat) ≤ rps * ttl := by
  constructor
  · intro bound
    have twice := bound (twoBursts burst ttl) (twoBursts_ordered burst retention.le) "a" 0 ttl
      retention.le
    rw [twoBursts_allowed rps burst ttl positive.le size retention.le, sub_zero] at twice
    push_cast at twice
    linarith
  · intro refills ops ordered ip from_ until_ window
    cases ops with
    | nil =>
        have left := mul_nonneg positive.le (sub_nonneg.mpr window)
        simp only [allowedIn, Nat.cast_zero]
        linarith [(Nat.cast_nonneg burst : (0 : Rat) ≤ burst)]
    | cons op rest =>
        refine allowedIn_le (op :: rest) ordered
          (kept_new rps burst ttl op.time positive.le) refills ?_ window
        intro other member
        rcases List.mem_cons.mp member with here | inside
        · rw [here]
        · exact (List.pairwise_cons.mp ordered).1 other inside

/-- The default settings: three tokens refill long before ten minutes. -/
theorem eviction_keeps_bound_default :
    ((3 : Nat) : Rat) ≤ 1 * 600 ∧
      ∀ ops : List Op, ops.Pairwise (fun a b => a.time ≤ b.time) →
        ∀ (ip : String) (from_ until_ : Rat), from_ ≤ until_ →
          (allowedIn (New 1 3 600) ip from_ until_ ops : Rat) ≤ 3 + 1 * (until_ - from_) := by
  have refills : ((3 : Nat) : Rat) ≤ 1 * 600 := by decide +kernel
  exact ⟨refills,
    (eviction_keeps_bound_exactly 1 3 600 (by decide) (by decide) (by decide)).mpr refills⟩

/-- One token a second, three at once, and entries kept for a second: six
calls within a second. -/
theorem eviction_loosens_bound :
    ¬ ∀ ops : List Op, ops.Pairwise (fun a b => a.time ≤ b.time) →
      ∀ (ip : String) (from_ until_ : Rat), from_ ≤ until_ →
        (allowedIn (New 1 3 1) ip from_ until_ ops : Rat) ≤ 3 + 1 * (until_ - from_) := by
  intro bound
  have counted : allowedIn (New 1 3 1) "a" 0 1 (twoBursts 3 1) = 6 := by decide +kernel
  have twice := bound (twoBursts 3 1) (twoBursts_ordered 3 (by decide)) "a" 0 1 (by decide)
  rw [counted] at twice
  norm_num at twice

end Council.RateBound

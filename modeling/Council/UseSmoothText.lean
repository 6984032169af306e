import Mathlib.Order.Lattice.Nat
import Mathlib.Data.List.Infix
import Council.Machines
import Council.Protocol

/-!
`useSmoothText` (`frontend/src/hooks/useSmoothText.ts`) and the animation
frames it asks the browser for. A render and the effect it leaves behind are
two steps, and a frame may fire between them, with the `tick` of an earlier
effect. The rounded fraction of the gap is a parameter. An unmount runs the
cleanup at once, where React may run it a little later.
-/

namespace Council.UseSmoothText

open Council.Machines
open Council.Protocol

def MIN_STEP : Nat := 2

/-- A scheduled `tick`: its handle and the target of the effect it is from. -/
structure Frame where
  handle : Nat
  target : Text

/-- The hook of one mounted component: what was rendered last, whether the
effect of that render is still to run, the state with its mirror, the ref, and
the callbacks the browser holds for it. -/
structure SmoothText where
  target : Text
  animate : Bool
  pending : Bool
  revealed : Nat
  frame : Option Nat
  /-- The effect that ran last has left its cleanup. -/
  cleans : Bool
  queue : List Frame
  handles : Nat
  mounted : Bool

def SmoothText.mount (target : Text) (animate : Bool) : SmoothText where
  target := target
  animate := animate
  pending := true
  revealed := target.length
  frame := none
  cleans := false
  queue := []
  handles := 0
  mounted := true

/-- What the hook returns. -/
def SmoothText.shown (text : SmoothText) : Text :=
  text.target.take (min text.revealed text.target.length)

def SmoothText.requestAnimationFrame (text : SmoothText) (target : Text) : SmoothText :=
  { text with
    frame := some text.handles
    queue := text.queue ++ [⟨text.handles, target⟩]
    handles := text.handles + 1 }

def SmoothText.cancelAnimationFrame (text : SmoothText) (handle : Nat) : SmoothText :=
  { text with queue := text.queue.filter fun frame => frame.handle ≠ handle }

/-- The cleanup of the effect that ran last, if it has one. -/
def SmoothText.cleanup (text : SmoothText) : SmoothText :=
  if text.cleans then
    match text.frame with
    | none => { text with cleans := false }
    | some handle => { text.cancelAnimationFrame handle with frame := none, cleans := false }
  else text

/-- The effect of the last render. -/
def SmoothText.effect (text : SmoothText) (reducedMotion : Bool) : SmoothText :=
  let cleaned := { text.cleanup with pending := false }
  if !cleaned.animate || reducedMotion then { cleaned with revealed := cleaned.target.length }
  else
    let clamped :=
      if cleaned.target.length < cleaned.revealed then
        { cleaned with revealed := cleaned.target.length }
      else cleaned
    { clamped.requestAnimationFrame clamped.target with cleans := true }

/-- React runs an effect that is left before it renders again. -/
def SmoothText.flush (text : SmoothText) (reducedMotion : Bool) : SmoothText :=
  if text.pending then text.effect reducedMotion else text

def SmoothText.render (text : SmoothText) (target : Text) (animate : Bool) : SmoothText :=
  { text with
    target := target
    animate := animate
    pending := !(target == text.target && animate == text.animate) }

section Steps

-- `Math.ceil(gap * CATCHUP_FACTOR)`
variable (catchUp : Nat → Nat)

def SmoothText.tick (text : SmoothText) (target : Text) : SmoothText :=
  if target.length ≤ text.revealed then { text with frame := none }
  else
    let gap := target.length - text.revealed
    let step := max MIN_STEP (catchUp gap)
    { text with
      revealed := min target.length (text.revealed + step) }.requestAnimationFrame target

inductive Act where
  | render (target : Text) (animate reducedMotion : Bool)
  | flush (reducedMotion : Bool)
  | fire (handle : Nat)
  | unmount (reducedMotion : Bool)

def step (text : SmoothText) : Act → Option SmoothText
  | .render target animate reducedMotion =>
      if text.mounted then some ((text.flush reducedMotion).render target animate) else none
  | .flush reducedMotion => if text.mounted then some (text.flush reducedMotion) else none
  | .fire handle =>
      match text.queue.find? fun frame => frame.handle = handle with
      | none => none
      | some frame => some ((text.cancelAnimationFrame handle).tick catchUp frame.target)
  | .unmount reducedMotion =>
      if text.mounted then some { (text.flush reducedMotion).cleanup with mounted := false }
      else none

end Steps

/-- At most one frame is scheduled, the ref names it and a cleanup will cancel
it; unless an effect is still to run, it is the present target's. -/
inductive Scheduled (text : SmoothText) : Prop where
  | idle (queue : text.queue = []) (frame : text.frame = none)
  | waiting (frame : Frame) (queue : text.queue = [frame]) (named : text.frame = some frame.handle)
      (cleans : text.cleans = true) (present : text.mounted = true)
      (current : text.pending = false → frame.target = text.target ∧ text.animate = true)

structure Tidy (text : SmoothText) : Prop where
  scheduled : Scheduled text
  within : text.pending = false → text.revealed ≤ text.target.length
  caughtUp : text.mounted = true → text.pending = false → text.queue = [] →
    text.revealed = text.target.length
  left : text.mounted = false → text.queue = []

section Runs

variable {catchUp : Nat → Nat} {text after : SmoothText} {act : Act}

theorem tidy_mount (target : Text) (animate : Bool) : Tidy (.mount target animate) where
  scheduled := .idle rfl rfl
  within := nofun
  caughtUp := nofun
  left := nofun

theorem cleanup_clear (scheduled : Scheduled text) :
    text.cleanup.queue = [] ∧ text.cleanup.frame = none := by
  cases scheduled with
  | idle queue frame =>
      unfold SmoothText.cleanup
      rw [frame]
      split
      · exact ⟨queue, rfl⟩
      · exact ⟨queue, frame⟩
  | waiting scheduled queue named cleans =>
      unfold SmoothText.cleanup
      rw [if_pos cleans, named]
      simp [SmoothText.cancelAnimationFrame, queue]

theorem cleanup_kept (text : SmoothText) :
    text.cleanup.target = text.target ∧ text.cleanup.animate = text.animate ∧
      text.cleanup.revealed = text.revealed ∧ text.cleanup.pending = text.pending ∧
      text.cleanup.mounted = text.mounted := by
  unfold SmoothText.cleanup
  split
  · split <;> exact ⟨rfl, rfl, rfl, rfl, rfl⟩
  · exact ⟨rfl, rfl, rfl, rfl, rfl⟩

theorem effect_kept (text : SmoothText) (reducedMotion : Bool) :
    (text.effect reducedMotion).target = text.target ∧
      (text.effect reducedMotion).mounted = text.mounted ∧
      (text.effect reducedMotion).pending = false := by
  rcases cleanup_kept text with ⟨target, _, _, _, mounted⟩
  unfold SmoothText.effect
  dsimp only
  split
  · exact ⟨target, mounted, rfl⟩
  · split <;> exact ⟨target, mounted, rfl⟩

/-- What an effect leaves: the whole text, or a frame for the rest of it. -/
theorem effect_tidy (scheduled : Scheduled text) (mounted : text.mounted = true)
    (reducedMotion : Bool) : Tidy (text.effect reducedMotion) := by
  rcases effect_kept text reducedMotion with ⟨_, still, _⟩
  rcases cleanup_clear scheduled with ⟨queue, frame⟩
  have gone : (text.effect reducedMotion).mounted = false →
      (text.effect reducedMotion).queue = [] := by
    rw [still, mounted]
    exact nofun
  revert still gone
  unfold SmoothText.effect
  dsimp only
  split
  · intro still gone
    exact ⟨.idle queue frame, fun _ => Nat.le_refl _, fun _ _ _ => rfl, gone⟩
  next animates =>
    have moving : text.cleanup.animate = true := by
      by_contra resting
      exact animates (by simp [resting])
    have scheduled : ∀ cleaned : SmoothText, cleaned.queue = [] → cleaned.animate = true →
        cleaned.mounted = true →
        Scheduled { cleaned.requestAnimationFrame cleaned.target with cleans := true } := by
      intro cleaned empty moving mounted
      refine .waiting ⟨cleaned.handles, cleaned.target⟩ ?_ rfl rfl mounted fun _ => ⟨rfl, moving⟩
      simp [SmoothText.requestAnimationFrame, empty]
    split
    next beyond =>
      intro still gone
      exact ⟨scheduled _ queue moving (still.trans mounted), fun _ => Nat.le_refl _,
        fun _ _ _ => rfl, gone⟩
    next inside =>
      intro still gone
      refine ⟨scheduled _ queue moving (still.trans mounted), fun _ => Nat.le_of_not_lt inside, ?_,
        gone⟩
      intro _ _ empty
      simp [SmoothText.requestAnimationFrame] at empty

theorem flush_tidy (tidy : Tidy text) (mounted : text.mounted = true) (reducedMotion : Bool) :
    Tidy (text.flush reducedMotion) ∧ (text.flush reducedMotion).pending = false ∧
      (text.flush reducedMotion).mounted = true ∧
      (text.flush reducedMotion).target = text.target := by
  unfold SmoothText.flush
  by_cases pending : text.pending = true
  · rcases effect_kept text reducedMotion with ⟨target, still, ran⟩
    rw [if_pos pending]
    exact ⟨effect_tidy tidy.scheduled mounted reducedMotion, ran, still.trans mounted, target⟩
  · rw [if_neg pending]
    exact ⟨tidy, by simpa using pending, mounted, rfl⟩

theorem render_tidy (tidy : Tidy text) (settled : text.pending = false) (target : Text)
    (animate : Bool) : Tidy (text.render target animate) := by
  have kept : (text.render target animate).pending = false →
      target = text.target ∧ animate = text.animate := by
    intro unchanged
    simpa only [SmoothText.render, Bool.not_eq_false', Bool.and_eq_true, beq_iff_eq] using unchanged
  refine ⟨?_, ?_, ?_, tidy.left⟩
  · cases tidy.scheduled with
    | idle queue frame => exact .idle queue frame
    | waiting frame queue named cleans present current =>
        refine .waiting frame queue named cleans present ?_
        intro unchanged
        rcases current settled with ⟨same, moving⟩
        exact ⟨same.trans (kept unchanged).1.symm, (kept unchanged).2.trans moving⟩
  · intro unchanged
    change text.revealed ≤ target.length
    rw [(kept unchanged).1]
    exact tidy.within settled
  · intro mounted unchanged empty
    change text.revealed = target.length
    rw [(kept unchanged).1]
    exact tidy.caughtUp mounted settled empty

theorem fired_of_step {handle : Nat} (tidy : Tidy text)
    (taken : step catchUp text (.fire handle) = some after) :
    ∃ frame, text.queue = [frame] ∧ text.frame = some frame.handle ∧ text.cleans = true ∧
      text.mounted = true ∧
      (text.pending = false → frame.target = text.target ∧ text.animate = true) ∧
      after = { text with queue := [] }.tick catchUp frame.target := by
  simp only [step] at taken
  cases tidy.scheduled with
  | idle queue frame =>
      rw [queue] at taken
      cases taken
  | waiting frame queue named cleans present current =>
      refine ⟨frame, queue, named, cleans, present, current, ?_⟩
      rw [queue] at taken
      by_cases same : frame.handle = handle
      · simp [same, SmoothText.cancelAnimationFrame, queue] at taken
        exact taken.symm
      · simp [same] at taken

theorem tick_tidy {frame : Frame} (tidy : Tidy text) (cleans : text.cleans = true)
    (present : text.mounted = true)
    (current : text.pending = false → frame.target = text.target ∧ text.animate = true) :
    Tidy ({ text with queue := [] }.tick catchUp frame.target) := by
  unfold SmoothText.tick
  dsimp only
  split
  next reached =>
    refine ⟨.idle rfl rfl, tidy.within, ?_, fun _ => rfl⟩
    intro _ settled _
    rw [(current settled).1] at reached
    exact Nat.le_antisymm (tidy.within settled) reached
  next behind =>
    refine ⟨.waiting ⟨text.handles, frame.target⟩ rfl rfl cleans present current, ?_, ?_, ?_⟩
    · intro settled
      change min frame.target.length _ ≤ text.target.length
      rw [(current settled).1]
      exact Nat.min_le_left _ _
    · intro _ _ empty
      cases empty
    · intro absent
      cases present.symm.trans absent

theorem tidy_step (tidy : Tidy text) (taken : step catchUp text act = some after) :
    Tidy after := by
  cases act with
  | render target animate reducedMotion =>
      simp only [step] at taken
      split at taken
      next mounted =>
        cases taken
        rcases flush_tidy tidy mounted reducedMotion with ⟨flushed, settled, _⟩
        exact render_tidy flushed settled target animate
      · cases taken
  | flush reducedMotion =>
      simp only [step] at taken
      split at taken
      next mounted =>
        cases taken
        exact (flush_tidy tidy mounted reducedMotion).1
      · cases taken
  | fire handle =>
      rcases fired_of_step tidy taken with ⟨frame, _, _, cleans, present, current, rfl⟩
      exact tick_tidy tidy cleans present current
  | unmount reducedMotion =>
      simp only [step] at taken
      split at taken
      next mounted =>
        cases taken
        rcases flush_tidy tidy mounted reducedMotion with ⟨flushed, settled, _⟩
        rcases cleanup_clear flushed.scheduled with ⟨queue, frame⟩
        rcases cleanup_kept (text.flush reducedMotion) with ⟨target, _, revealed, _⟩
        refine ⟨.idle queue frame, ?_, ?_, fun _ => queue⟩
        · intro _
          change (text.flush reducedMotion).cleanup.revealed ≤
            (text.flush reducedMotion).cleanup.target.length
          rw [revealed, target]
          exact flushed.within settled
        · intro absent
          cases absent
      · cases taken

theorem tidy_reachable {target : Text} {animate : Bool}
    (reached : Reaches (step catchUp) always (.mount target animate) text) : Tidy text := by
  refine reached.invariant Tidy (tidy_mount target animate) ?_
  intro before act after _ _ taken tidy
  exact tidy_step tidy taken

/-- The frames that are left: one for every two units of the gap, and the one
that finds nothing to do. -/
def SmoothText.frames (text : SmoothText) : Nat :=
  (text.target.length - text.revealed + 1) / 2 + text.queue.length

theorem fire_step {handle : Nat} (tidy : Tidy text) (settled : text.pending = false)
    (taken : step catchUp text (.fire handle) = some after) :
    after.frames < text.frames ∧ after.target = text.target ∧ after.pending = false ∧
      after.mounted = text.mounted := by
  rcases fired_of_step tidy taken with ⟨frame, queue, _, _, _, current, rfl⟩
  have same := (current settled).1
  unfold SmoothText.tick
  dsimp only
  split
  next reached =>
    refine ⟨?_, rfl, settled, rfl⟩
    simp only [SmoothText.frames, queue, List.length_nil, List.length_singleton]
    exact Nat.lt_succ_self _
  next behind =>
    refine ⟨?_, rfl, settled, rfl⟩
    rw [same] at behind ⊢
    have least : 2 ≤ max MIN_STEP (catchUp (text.target.length - text.revealed)) :=
      Nat.le_max_left _ _
    simp only [SmoothText.frames, SmoothText.requestAnimationFrame, queue, List.length_append,
      List.length_nil, List.length_singleton]
    omega

theorem fires_bounded (handles : List Nat) (tidy : Tidy text) (settled : text.pending = false)
    (performed : perform (step catchUp) always text (handles.map Act.fire) = some after) :
    handles.length + after.frames ≤ text.frames ∧ after.target = text.target ∧
      after.pending = false ∧ after.mounted = text.mounted ∧ Tidy after := by
  induction handles generalizing text with
  | nil =>
      cases performed
      exact ⟨by rw [List.length_nil, Nat.zero_add], rfl, settled, rfl, tidy⟩
  | cons handle rest ih =>
      rcases perform_cons performed with ⟨next, taken, later⟩
      rcases fire_step tidy settled taken with ⟨fewer, same, still, present⟩
      rcases ih (tidy_step tidy taken) still later with ⟨few, target, rested, mounted, kept⟩
      refine ⟨?_, target.trans same, rested, mounted.trans present, kept⟩
      rw [List.length_cons]
      omega

theorem shown_whole (revealed : text.revealed = text.target.length) : text.shown = text.target := by
  rw [SmoothText.shown, revealed, Nat.min_self, List.take_length]

theorem whole_of_idle (tidy : Tidy text) (mounted : text.mounted = true)
    (settled : text.pending = false) (idle : text.queue = []) : text.shown = text.target :=
  shown_whole (tidy.caughtUp mounted settled idle)

theorem waits_of_behind (tidy : Tidy text) (mounted : text.mounted = true)
    (settled : text.pending = false) (behind : text.shown ≠ text.target) :
    ∃ handle after, step catchUp text (.fire handle) = some after := by
  cases tidy.scheduled with
  | idle queue frame => exact absurd (whole_of_idle tidy mounted settled queue) behind
  | waiting frame queue =>
      refine ⟨frame.handle, (text.cancelAnimationFrame frame.handle).tick catchUp frame.target, ?_⟩
      simp only [step, queue, List.find?_cons, decide_true]

theorem idle_of_still (tidy : Tidy text) (settled : text.pending = false)
    (still : text.animate = false) : text.queue = [] := by
  cases tidy.scheduled with
  | idle queue frame => exact queue
  | waiting frame queue named cleans present current =>
      rw [(current settled).2] at still
      cases still

def grows : SmoothText → Act → Prop := fun text act =>
  ∀ target animate reducedMotion, act = .render target animate reducedMotion →
    text.target <+: target

theorem take_prefix_take {smaller larger : Text} (begins : smaller <+: larger) {count more : Nat}
    (le : count ≤ more) : smaller.take (min count smaller.length) <+:
      larger.take (min more larger.length) := by
  rcases begins with ⟨rest, rfl⟩
  have same : smaller.take (min count smaller.length) =
      (smaller ++ rest).take (min count smaller.length) :=
    (List.take_append_of_le_length (Nat.min_le_right _ _)).symm
  rw [same]
  apply List.take_prefix_take_left
  rw [List.length_append]
  omega

theorem effect_grows (text : SmoothText) (reducedMotion : Bool) :
    text.shown <+: (text.effect reducedMotion).shown := by
  rcases cleanup_kept text with ⟨target, _, revealed, _⟩
  have whole : ∀ other : SmoothText, other.target = text.target →
      other.revealed = other.target.length → text.shown <+: other.shown := by
    intro other same reached
    rw [shown_whole reached, same]
    exact List.take_prefix _ _
  unfold SmoothText.effect
  dsimp only
  split
  · exact whole _ target rfl
  · split
    · exact whole _ target rfl
    · change _ <+: text.cleanup.target.take (min text.cleanup.revealed text.cleanup.target.length)
      rw [target, revealed]
      exact List.prefix_refl _

theorem flush_grows (text : SmoothText) (reducedMotion : Bool) :
    text.shown <+: (text.flush reducedMotion).shown := by
  unfold SmoothText.flush
  split
  · exact effect_grows text reducedMotion
  · exact List.prefix_refl _

theorem shown_step (tidy : Tidy text) (meets : grows text act)
    (taken : step catchUp text act = some after) : text.shown <+: after.shown := by
  cases act with
  | render target animate reducedMotion =>
      simp only [step] at taken
      split at taken
      next mounted =>
        cases taken
        have longer := meets target animate reducedMotion rfl
        have same := (flush_tidy tidy mounted reducedMotion).2.2.2
        refine (flush_grows text reducedMotion).trans ?_
        rw [← same] at longer
        exact take_prefix_take longer (Nat.le_refl _)
      · cases taken
  | flush reducedMotion =>
      simp only [step] at taken
      split at taken
      · cases taken
        exact flush_grows text reducedMotion
      · cases taken
  | fire handle =>
      rcases fired_of_step tidy taken with ⟨frame, _, _, _, _, _, rfl⟩
      unfold SmoothText.tick
      dsimp only
      split
      · exact List.prefix_refl _
      next behind =>
        refine take_prefix_take (List.prefix_refl _) ?_
        change text.revealed ≤ min frame.target.length _
        omega
  | unmount reducedMotion =>
      simp only [step] at taken
      split at taken
      · cases taken
        rcases cleanup_kept (text.flush reducedMotion) with ⟨target, _, revealed, _⟩
        refine (flush_grows text reducedMotion).trans ?_
        change _ <+: (text.flush reducedMotion).cleanup.target.take
          (min (text.flush reducedMotion).cleanup.revealed
            (text.flush reducedMotion).cleanup.target.length)
        rw [target, revealed]
        exact List.prefix_refl _
      · cases taken

theorem shown_reaches {later : SmoothText} (tidy : Tidy text)
    (path : Reaches (step catchUp) grows text later) : Tidy later ∧ text.shown <+: later.shown := by
  refine path.invariant (fun later => Tidy later ∧ text.shown <+: later.shown)
    ⟨tidy, List.prefix_refl _⟩ ?_
  intro before act after _ meets taken kept
  exact ⟨tidy_step kept.1 taken, kept.2.trans (shown_step kept.1 meets taken)⟩

/-- However renders, effects and frames interleave, the browser holds at most
one frame for a text and none once it is unmounted; nothing shown is taken back
while the text grows; and once the effects have run, the frames alone bring the
whole text, at most one for every two units that are missing and one more. -/
theorem smooth_text_settles {target : Text} {animate : Bool}
    (reached : Reaches (step catchUp) always (.mount target animate) text) :
    text.queue.length ≤ 1 ∧ (text.mounted = false → text.queue = []) ∧
    (∀ later, Reaches (step catchUp) grows text later → text.shown <+: later.shown) ∧
    (text.mounted = true → text.pending = false →
      (text.queue = [] → text.shown = text.target) ∧
      (text.animate = false → text.queue = []) ∧
      ∀ (handles : List Nat) later,
        perform (step catchUp) always text (handles.map Act.fire) = some later →
        later.target = text.target ∧
        handles.length ≤ (text.target.length - text.revealed + 1) / 2 + 1 ∧
        (later.shown ≠ later.target →
          ∃ handle after, step catchUp later (.fire handle) = some after)) := by
  have tidy := tidy_reachable reached
  have single : text.queue.length ≤ 1 := by
    cases tidy.scheduled with
    | idle queue => simp [queue]
    | waiting frame queue => simp [queue]
  refine ⟨single, tidy.left, fun later path => (shown_reaches tidy path).2, ?_⟩
  intro mounted settled
  refine ⟨whole_of_idle tidy mounted settled, idle_of_still tidy settled, ?_⟩
  intro handles later performed
  rcases fires_bounded handles tidy settled performed with ⟨few, same, still, present, kept⟩
  refine ⟨same, ?_, waits_of_behind kept (present.trans mounted) still⟩
  simp only [SmoothText.frames] at few
  omega

/-- The frames after a word has arrived. -/
theorem smooth_text_settles_word :
    let catchUp := fun gap => (gap * 18 + 99) / 100
    ∃ text later, perform (step catchUp) always (.mount [] true)
        [.flush false, .fire 0, .render (units "Hello") true false, .flush false] = some text ∧
      text.shown = [] ∧
      perform (step catchUp) always text ([1, 2, 3, 4].map Act.fire) = some later ∧
      later.shown = units "Hello" ∧ 4 ≤ (text.target.length - text.revealed + 1) / 2 + 1 := by
  intro catchUp
  have run : ((perform (step catchUp) always (.mount [] true)
      [.flush false, .fire 0, .render (units "Hello") true false, .flush false]).map fun text =>
        (text.shown, text.mounted, text.pending,
          (perform (step catchUp) always text ([1, 2, 3, 4].map Act.fire)).map fun later =>
            later.shown)) = some ([], true, false, some (units "Hello")) := by
    decide +kernel
  rcases Option.map_eq_some_iff.mp run with ⟨text, performed, facts⟩
  simp only [Prod.mk.injEq] at facts
  rcases facts with ⟨shown, mounted, settled, last⟩
  rcases Option.map_eq_some_iff.mp last with ⟨later, fired, whole⟩
  have settles := (smooth_text_settles (perform_reaches _ _ _ performed)).2.2.2 mounted settled
  have bound := (settles.2.2 [1, 2, 3, 4] later fired).2.1
  exact ⟨text, later, performed, shown, fired, whole, bound⟩

end Runs

end Council.UseSmoothText

import Council.PlayerRuns

/-!
`isAtLive` re-implements by hand the decision that `prepareNextTurn` makes. It
says exactly what the next `step` would do, and between calls a player that is
not at live has its timeout armed.
-/

namespace Council.LiveStatus
open Protocol DebateReducer DebatePlayer PlayerRuns

theorem below_irrefl (player : Player) : ¬ Below player player := by
  intro lower
  rcases lower with staged | ⟨_, text⟩
  · exact Nat.lt_irrefl _ staged
  · exact Nat.lt_irrefl _ text

theorem step_at_live (player : Player) (live : isAtLive player = true) :
    ∃ delay, (delay = .park ∨ delay = .done) ∧ step player = ⟨delay, player, []⟩ := by
  have blocked : hasReadyWork player = false := by
    simpa [isAtLive] using live
  have steps := step_steps player
  generalize step player = answer at steps
  cases steps with
  | parked idle missing unfinished => exact ⟨.park, .inl rfl, rfl⟩
  | finished idle halted => exact ⟨.done, .inr rfl, rfl⟩
  | ended moves idle halted ready =>
      rw [blocked] at ready
      cases ready
  | went ms moves ready =>
      rw [blocked] at ready
      cases ready

/-- With ready work a step changes the player: it lowers what is left to play. -/
theorem step_with_backlog (player : Player) (backlog : isAtLive player = false) :
    (step player).player ≠ player := by
  have ready : hasReadyWork player = true := by
    simpa [isAtLive] using backlog
  have steps := step_steps player
  generalize step player = answer at steps
  cases steps with
  | parked idle blocked unfinished =>
      rw [blocked] at ready
      cases ready
  | finished idle halted =>
      simp [hasReadyWork, idle, halted] at ready
  | ended moves idle halted =>
      intro same
      dsimp only at same
      subst same
      exact below_irrefl _ (progress_below moves)
  | went ms moves =>
      intro same
      dsimp only at same
      subst same
      exact below_irrefl _ (progress_below moves)

/-- Between calls `isAtLive` is true exactly where a step would do nothing, and
work that is left has its timeout armed. -/
theorem live_status_exact (reducedMotion : Bool) (ops : List Op) :
    let player := (run (create reducedMotion) ops).1
    (isAtLive player = true →
        ∃ delay, (delay = .park ∨ delay = .done) ∧ step player = ⟨delay, player, []⟩) ∧
      (isAtLive player = false →
        (step player).player ≠ player ∧ player.timer.isSome = true) := by
  intro player
  constructor
  · exact step_at_live player
  · intro backlog
    refine ⟨step_with_backlog player backlog, ?_⟩
    have rested : Rested player := run_rests (create reducedMotion) ops fun _ => rfl
    rw [← Option.ne_none_iff_isSome]
    intro unarmed
    have ready : hasReadyWork player = true := by
      simpa [isAtLive] using backlog
    rw [rested unarmed] at ready
    cases ready

end Council.LiveStatus

import SpriteStage.Clock.Interleaving
import SpriteStage.Proofs.Stage.Batches

/-!
# What each section of the clock does

A section touches little of the clock: the session of the stage, the phase of one worker, the
record, or the word to halt.
-/

namespace SpriteStage

namespace Stage

theorem start_opened {s : Stage} : s.start.1 = true ↔ s.running = false := by
  cases h : s.running <;> simp [start, h]

theorem start_running_of_opened {s : Stage} (h : s.start.1 = true) : s.start.2.running = true := by
  rw [start_stopped (start_opened.1 h)]

theorem stop_running (s : Stage) : s.stop.2.running = false := by
  cases h : s.running <;> simp [stop, h]

theorem reset_running (s : Stage) : s.reset.running = false := stop_running s

theorem reset_reset (s : Stage) : s.reset.reset = s.reset := by
  cases h : s.running <;> simp [reset, stop, h]

end Stage

namespace Clock

variable {c : Clock} {v w : Nat} {p : Phase}

theorem isAlive_of_phase (h : c.workers[w]? = some p) (hp : p ≠ .ended) : c.isAlive w = true := by
  simp [isAlive, h, hp]

theorem lt_of_isAlive (h : c.isAlive w = true) : w < c.workers.length := by
  apply Nat.lt_of_not_le
  intro hle
  simp [isAlive, List.getElem?_eq_none hle] at h

theorem isAlive_of_setPhase (hw : c.isAlive w = true) (h : (c.setPhase w p).isAlive v = true) :
    c.isAlive v = true := by
  by_cases hv : w = v
  · exact hv ▸ hw
  · simpa [isAlive, setPhase, List.getElem?_set_ne hv] using h

theorem isAlive_send : c.send.isAlive v = true ↔ c.isAlive v = true ∨ v = c.workers.length := by
  rcases Nat.lt_trichotomy v c.workers.length with hv | hv | hv
  · simp [isAlive, send, List.getElem?_append_left hv, Nat.ne_of_lt hv]
  · simp [isAlive, send, hv]
  · have hv' : (c.workers ++ [Phase.checking]).length ≤ v := by simpa using Nat.succ_le_of_lt hv
    simp [isAlive, send, List.getElem?_eq_none hv', Nat.le_of_lt hv, Nat.ne_of_gt hv]

/-- A tick without a session does nothing; any other changes the stage, but not its session. -/
theorem commit_cases (c : Clock) :
    (c.stage.running = false ∧ c.commit = (none, c)) ∨
    (c.stage.running = true ∧ ∃ tick stage, stage.running = true ∧
      c.commit = (some tick, { c with stage, fired := c.fired + 1 })) := by
  cases hr : c.stage.running with
  | false => exact .inl ⟨rfl, by rw [commit, Stage.tick_stopped hr]⟩
  | true =>
    apply Or.inr
    apply And.intro rfl
    rw [commit, Stage.tick_running hr]
    dsimp only
    split
    · refine ⟨_, _, ?_, rfl⟩
      exact (Stage.collideAll_running ..).trans hr
    · refine ⟨_, _, ?_, rfl⟩
      exact hr

theorem commit_workers (c : Clock) : c.commit.2.workers = c.workers := by
  rcases c.commit_cases with ⟨-, h⟩ | ⟨-, tick, stage, -, h⟩ <;> rw [h]

theorem beat_eq (c : Clock) (w : Nat) : ∃ p, c.beat w = c.commit.2.setPhase w p := by
  unfold beat
  split
  · rename_i h _
    rw [h]
    exact ⟨_, rfl⟩
  · rename_i h _
    rw [h]
    exact ⟨_, rfl⟩

end Clock

end SpriteStage

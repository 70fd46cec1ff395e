import SpriteStage.Lock
import SpriteStage.Proofs.Double.Product

/-!
# Waiting for the lock

Whatever the surroundings set, the wait is between a hundredth of a second and a minute. The system
can wait that long, so a lock that stays free is acquired, and one that stays held is given up with
the word that the stage is busy.
-/

namespace SpriteStage

namespace Settings

/-- The wait is one of three that are given by the program, or lies between two of them. -/
theorem lockSeconds_cases (s : Settings) :
    s.lockSeconds = 5.0 ∨ s.lockSeconds = 60.0 ∨ s.lockSeconds = 0.01 ∨
      0.01 < s.lockSeconds ∧ s.lockSeconds < 60.0 := by
  unfold lockSeconds
  dsimp only
  split
  · exact .inl rfl
  split
  · exact .inl rfl
  · rename_i x _
    by_cases hcap : x < 60.0
    · rw [if_pos hcap]
      split
      · rename_i hfloor
        exact .inr (.inr (.inr ⟨hfloor, hcap⟩))
      · exact .inr (.inr (.inl rfl))
    · rw [if_neg hcap]
      exact .inr (.inl (if_pos (by decide)))

theorem lockSeconds_bounds (s : Settings) : 0.01 ≤ s.lockSeconds ∧ s.lockSeconds ≤ 60.0 := by
  obtain h | h | h | ⟨hlow, hhigh⟩ := s.lockSeconds_cases
  · rw [h]; decide
  · rw [h]; decide
  · rw [h]; decide
  · exact ⟨Double.le_of_lt hlow, Double.le_of_lt hhigh⟩

/-- The system can wait as long as any settings say. -/
theorem isWaitable_lockSeconds (s : Settings) : Lock.isWaitable s.lockSeconds = true := by
  obtain h | h | h | ⟨hlow, hhigh⟩ := s.lockSeconds_cases
  · rw [h]; decide
  · rw [h]; decide
  · rw [h]; decide
  · have hcent : (0.01 : Float).toModel.unpack =
        .finite .positive 5764607523034235 (-59) (by decide) := rfl
    have hminute : (60.0 : Float).toModel.unpack =
        .finite .positive (60 * 2 ^ 47) (-47) (by decide) := rfl
    have hbillion : (1000000000.0 : Float).toModel.unpack =
        .finite .positive (1000000000 * 2 ^ 23) (-23) (by decide) := rfl
    have hlongest : Lock.longest.toModel.unpack = .finite .positive (2 ^ 52) 11 (by decide) := rfl
    obtain ⟨m, e, hm, hwait, he⟩ := Double.exists_unpack_of_between hcent hminute hlow hhigh
    apply decide_eq_true
    refine Double.mul_lt_of_exponents hwait hbillion hlongest ?_ (by decide) (by decide)
    omega

end Settings

namespace Lock

/-- Whoever waits as long as the settings say gets a free lock, and is told that a held one is
busy. -/
theorem acquire_null (settings : Settings) (held : Bool) :
    acquire settings held .null =
      if held then .error (.busy settings.lockSeconds) else .ok () := by
  have hwait : wait settings .null = .ok settings.lockSeconds := rfl
  rw [acquire, hwait]
  cases held <;> simp [bind, Except.bind, settings.isWaitable_lockSeconds] <;> rfl

end Lock

end SpriteStage

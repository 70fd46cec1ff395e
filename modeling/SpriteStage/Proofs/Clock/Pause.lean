import SpriteStage.Clock.Worker
import SpriteStage.Proofs.Double.Ceiling
import SpriteStage.Proofs.Double.Product

/-!
# The pause between ticks

A worker whose interval comes from the settings sleeps after each tick: the interval is no longer
than five seconds, so the system can wait for it.
-/

namespace SpriteStage

namespace Double

open Float.Model Float.Model.UnpackedFloat

/-- The quotient of two significands of 53 bits has an exponent that is about the difference of
theirs. -/
theorem div_exponent_le {m n : Nat} {e f : Int} (hm : 0 < m) (hn : 0 < n) (hm52 : m.log2 = 52)
    (hn52 : n.log2 = 52) (hlow : -900 ≤ e - f) :
    ∃ r g hr, UnpackedFloat.div .binary64 (.finite .positive m e hm) (.finite .positive n f hn)
      = .finite .positive r g hr ∧ r.log2 = 52 ∧ e - f - 53 ≤ g ∧ g ≤ e - f - 51 := by
  obtain ⟨hmlow, hmlt⟩ := (Nat.log2_eq_iff (Nat.ne_of_gt hm)).1 hm52
  obtain ⟨hnlow, hnlt⟩ := (Nat.log2_eq_iff (Nat.ne_of_gt hn)).1 hn52
  have htarget :
      min (e - f) (Format.binary64.targetExponent (totalExponent m e - totalExponent n f)) =
        e - f - 53 := by
    rw [targetExponent_eq, totalExponent, totalExponent, hm52, hn52]
    omega
  have hq0 : m * 2 ^ 53 / n ≠ 0 := by
    rw [Nat.div_ne_zero_iff]
    omega
  have hqlow : 52 ≤ (m * 2 ^ 53 / n).log2 := by
    rw [Nat.le_log2 hq0, Nat.le_div_iff_mul_le hn]
    omega
  have hqlt : (m * 2 ^ 53 / n).log2 < 54 := by
    rw [Nat.log2_lt hq0, Nat.div_lt_iff_lt_mul hn]
    omega
  obtain ⟨r, g, hr, hround, hlog, hge, hle⟩ := roundWithAccuracy_normal .positive
    (e := e - f - 53) (accuracyOfFraction (m * 2 ^ 53 % n) n) hqlow (by omega)
  refine ⟨r, g, hr, ?_, hlog, by omega, by omega⟩
  simp only [UnpackedFloat.div, divCore, htarget, Nat.shiftLeft_eq]
  rw [show (e - f - (e - f - 53)).toNat = 53 by omega]
  exact hround

end Double

namespace Settings

/-- The system can wait as long as the settings say between ticks. -/
theorem isWaitable_tickSeconds (s : Settings) : Lock.isWaitable s.tickSeconds = true := by
  unfold tickSeconds
  dsimp only
  generalize (Double.readInt? (content s.tickInterval)).getD 100 = given
  obtain ⟨n, hn⟩ := Int.eq_ofNat_of_zero_le (show 0 ≤ max 10 (min 5000 given) by omega)
  have hlow : 10 ≤ n := by omega
  have hhigh : n ≤ 5000 := by omega
  rw [hn]
  have hlog : n.log2 < 13 := Double.log2_lt_of_lt (show n < 2 ^ 13 by omega)
  have hthousand : (1000.0 : Float).toModel.unpack =
      .finite .positive (1000 * 2 ^ 43) (-43) (by decide) := rfl
  have hbillion : (1000000000.0 : Float).toModel.unpack =
      .finite .positive (1000000000 * 2 ^ 23) (-23) (by decide) := rfl
  have hlongest : Lock.longest.toModel.unpack = .finite .positive (2 ^ 52) 11 (by decide) := rfl
  have hunpack := Double.unpack_nearest (show 0 < n by omega) (show n < 2 ^ 53 by omega)
  have hfull : (n * 2 ^ (52 - n.log2)).log2 = 52 := by
    rw [Double.log2_mul_two_pow (by omega)]
    omega
  obtain ⟨r, g, hr, hdiv, hlog52, hge, hle⟩ := Double.div_exponent_le
    (m := n * 2 ^ (52 - n.log2)) (n := 1000 * 2 ^ 43) (e := n.log2 - 52) (f := -43)
    (Nat.mul_pos (by omega) (Nat.two_pow_pos _)) (by decide) hfull (by decide) (by omega)
  have hquotient :
      (Double.nearest (n : Int) / 1000.0).toModel.unpack = .finite .positive r g hr := by
    change (Float.Model.pack (Float.Model.UnpackedFloat.div .binary64
      (Double.nearest (n : Int)).toModel.unpack (1000.0 : Float).toModel.unpack)).unpack = _
    rw [hunpack, hthousand, hdiv]
    exact Double.unpack_pack hr hlog52 (by omega) (by rw [Double.maxExponent]; omega)
  apply decide_eq_true
  refine Double.mul_lt_of_exponents hquotient hbillion hlongest ?_ (by decide) (by decide)
  omega

end Settings

theorem Setup.pause_of_settings {s : Setup} (h : s.interval = .null) : s.pause = .sleeping := by
  have hseconds : s.seconds = .ok s.settings.tickSeconds := by rw [seconds, h]
  rw [pause, hseconds]
  exact if_pos s.settings.isWaitable_tickSeconds

end SpriteStage

import Mathlib.Analysis.Real.Sqrt
import Mathlib.Tactic.Linarith
import Mathlib.Tactic.FieldSimp
import Mathlib.Tactic.Ring
import Mathlib.Tactic.Positivity
import Mathlib.Tactic.GCongr

/-!
# The Wilson lower bound of a rate

The lower end of the score interval of a rate of successes, at a width of `z` standard deviations.
It is never negative, and a trial that does not succeed never raises it.
-/

noncomputable section

namespace Macr.Lib

/-- The lower end of the score interval, before it is cut off at zero. -/
def scoreBound (z : ℝ) (successes trials : Nat) : ℝ :=
  let proportion : ℝ := successes / trials
  let square := z * z
  let denominator := 1 + square / trials
  let center := proportion + square / (2 * trials)
  let margin := z * √((proportion * (1 - proportion) + square / (4 * trials)) / trials)
  (center - margin) / denominator

/-- The lower end of the score interval; without a trial it is zero. -/
def wilsonLowerBound (z : ℝ) (successes trials : Nat) : ℝ :=
  if trials = 0 then 0 else max 0 (scoreBound z successes trials)

/-- The bound is not negative. -/
theorem wilsonLowerBound_nonneg (z : ℝ) (successes trials : Nat) :
    0 ≤ wilsonLowerBound z successes trials := by
  unfold wilsonLowerBound
  split
  · exact le_refl 0
  · exact le_max_left _ _

/-- The variance of the score, multiplied by the trials: it grows with the trials. -/
def scoreVariance (z : ℝ) (successes trials : Nat) : ℝ :=
  successes - (successes : ℝ) ^ 2 / trials + z ^ 2 / 4

/-- The bound as one fraction of the trials. -/
theorem scoreBound_eq (z : ℝ) {successes trials : Nat} (some_trial : 0 < trials) :
    scoreBound z successes trials =
      (successes + z ^ 2 / 2 - z * √(scoreVariance z successes trials)) / (trials + z ^ 2) := by
  have positive : (0 : ℝ) < trials := Nat.cast_pos.mpr some_trial
  have whole : (0 : ℝ) < trials + z ^ 2 := by positivity
  have inside : ((successes : ℝ) / trials * (1 - successes / trials) + z * z / (4 * trials)) / trials =
      scoreVariance z successes trials / (trials : ℝ) ^ 2 := by
    unfold scoreVariance
    field_simp
  have root : √(scoreVariance z successes trials / (trials : ℝ) ^ 2) =
      √(scoreVariance z successes trials) / trials := by
    rw [Real.sqrt_div' _ (by positivity), Real.sqrt_sq positive.le]
  unfold scoreBound
  simp only [inside, root]
  field_simp

/-- More trials with the same successes vary more. -/
theorem scoreVariance_mono (z : ℝ) {successes trials more : Nat} (some_trial : 0 < trials)
    (grown : trials ≤ more) :
    scoreVariance z successes trials ≤ scoreVariance z successes more := by
  have positive : (0 : ℝ) < trials := Nat.cast_pos.mpr some_trial
  have later : (trials : ℝ) ≤ more := Nat.cast_le.mpr grown
  have smaller : (successes : ℝ) ^ 2 / more ≤ (successes : ℝ) ^ 2 / trials := by gcongr
  unfold scoreVariance
  linarith

/-- Trials that do not succeed never raise the bound. -/
theorem wilsonLowerBound_antitone {z : ℝ} (width : 0 ≤ z) {successes trials more : Nat}
    (some_trial : 0 < trials) (grown : trials ≤ more) :
    wilsonLowerBound z successes more ≤ wilsonLowerBound z successes trials := by
  have positive : (0 : ℝ) < trials := Nat.cast_pos.mpr some_trial
  have later : (trials : ℝ) ≤ more := Nat.cast_le.mpr grown
  have root : √(scoreVariance z successes trials) ≤ √(scoreVariance z successes more) :=
    Real.sqrt_le_sqrt (scoreVariance_mono z some_trial grown)
  have numerator : successes + z ^ 2 / 2 - z * √(scoreVariance z successes more) ≤
      successes + z ^ 2 / 2 - z * √(scoreVariance z successes trials) := by
    have scaled := mul_le_mul_of_nonneg_left root width
    linarith
  unfold wilsonLowerBound
  rw [if_neg (by omega), if_neg (by omega), scoreBound_eq z some_trial,
    scoreBound_eq z (lt_of_lt_of_le some_trial grown)]
  apply max_le (le_max_left _ _)
  by_cases sign : 0 ≤ successes + z ^ 2 / 2 - z * √(scoreVariance z successes more)
  · apply le_max_of_le_right
    calc (successes + z ^ 2 / 2 - z * √(scoreVariance z successes more)) / (more + z ^ 2)
        ≤ (successes + z ^ 2 / 2 - z * √(scoreVariance z successes more)) / (trials + z ^ 2) := by
          gcongr
      _ ≤ (successes + z ^ 2 / 2 - z * √(scoreVariance z successes trials)) /
            (trials + z ^ 2) := by gcongr
  · apply le_max_of_le_left
    exact div_nonpos_of_nonpos_of_nonneg (le_of_not_ge sign) (by positivity)

end Macr.Lib

end

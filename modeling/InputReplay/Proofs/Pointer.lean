import InputReplay.Pointer

/-! Positions and wheel distances as native descriptors hold them. A position lies on its own side of
the origin and is never 0, and a distance is a whole number of detents unless it is cut at the end of
the range. -/

namespace InputReplay

namespace Axis

theorem one_le_exact {coordinate extent : Int} (positive : 0 < coordinate) (screen : 0 < extent) :
    1 ≤ exact coordinate extent := by
  have scaled : 0 ≤ coordinate * range := Int.mul_nonneg (by omega) (by decide)
  have quotient : 0 ≤ (coordinate * range).tdiv extent := Int.tdiv_nonneg scaled (by omega)
  rw [exact, if_pos positive]
  omega

theorem exact_le_neg_one {coordinate extent : Int} (other : ¬0 < coordinate) (screen : 0 < extent) :
    exact coordinate extent ≤ -1 := by
  have scaled : 0 ≤ -coordinate * range := Int.mul_nonneg (by omega) (by decide)
  have quotient : 0 ≤ (-coordinate * range).tdiv extent := Int.tdiv_nonneg scaled (by omega)
  rw [Int.neg_mul, Int.neg_tdiv] at quotient
  rw [exact, if_neg other]
  omega

theorem normalize_eq_ok_iff {coordinate extent position : Int32} :
    normalize coordinate extent = .ok position ↔
      0 < extent.toInt ∧ saturate (exact coordinate.toInt extent.toInt) = position := by
  have bad : extent ≤ 0 ↔ ¬0 < extent.toInt := by
    rw [Int32.le_iff_toInt_le, Int.not_lt]
    rfl
  by_cases screen : 0 < extent.toInt
  · simp [normalize, bad, screen]
  · simp [normalize, bad, screen]

theorem normalize_eq_error_iff {coordinate extent : Int32} {e : BadExtent} :
    normalize coordinate extent = .error e ↔ extent ≤ 0 ∧ e.extent = extent := by
  obtain ⟨reported⟩ := e
  unfold normalize
  split
  case isTrue bad => simp [bad, eq_comm]
  case isFalse screen => simp [screen]

theorem normalize_of_pos (coordinate : Int32) {extent : Int32} (screen : 0 < extent) :
    normalize coordinate extent = .ok (saturate (exact coordinate.toInt extent.toInt)) :=
  normalize_eq_ok_iff.mpr ⟨Int32.lt_iff_toInt_lt.mp screen, rfl⟩

theorem normalize_ne_zero {coordinate extent position : Int32}
    (placed : normalize coordinate extent = .ok position) : position ≠ 0 := by
  obtain ⟨screen, rfl⟩ := normalize_eq_ok_iff.mp placed
  intro zero
  have cut := toInt_saturate (exact coordinate.toInt extent.toInt)
  rw [zero, Int32.toInt_zero] at cut
  by_cases positive : 0 < coordinate.toInt
  · have above := one_le_exact positive screen
    omega
  · have below := exact_le_neg_one positive screen
    omega

end Axis

theorem saturate_eq_iff {n : Int} {word : Int32} :
    saturate n = word ↔ word.toInt = max (-2147483648) (min n 2147483647) := by
  rw [← Int32.toInt_inj, toInt_saturate, eq_comm]

theorem toInt_saturate_of_inside {n : Int} (lower : -2147483648 ≤ n) (upper : n ≤ 2147483647) :
    (saturate n).toInt = n := by
  rw [toInt_saturate]
  omega

theorem toInt_saturate_cases (n : Int) :
    (saturate n).toInt = n ∨ saturate n = .minValue ∨ saturate n = .maxValue := by
  have cut := toInt_saturate n
  have low : Int32.minValue.toInt = -2147483648 := rfl
  have high : Int32.maxValue.toInt = 2147483647 := rfl
  rw [← Int32.toInt_inj, ← Int32.toInt_inj, low, high]
  omega

theorem saturate_mono {m n : Int} (le : m ≤ n) : saturate m ≤ saturate n := by
  rw [Int32.le_iff_toInt_le, toInt_saturate, toInt_saturate]
  omega

theorem sign_saturate (n : Int) : (saturate n).toInt.sign = n.sign := by
  have cut := toInt_saturate n
  rcases Int.lt_trichotomy n 0 with negative | rfl | positive
  · rw [Int.sign_eq_neg_one_of_neg negative, Int.sign_eq_neg_one_of_neg (by omega)]
  · rfl
  · rw [Int.sign_eq_one_of_pos positive, Int.sign_eq_one_of_pos (by omega)]

theorem saturate_saturate_mul (n : Int) {k : Int} (positive : 0 < k) :
    saturate ((saturate n).toInt * k) = saturate (n * k) := by
  have cut := toInt_saturate n
  -- past an end, scaling only leads further out
  rcases Int.lt_or_le n (-2147483648) with low | above
  · have ends : (saturate n).toInt = -2147483648 := by omega
    have far : n * k ≤ -2147483648 * k := Int.mul_le_mul_of_nonneg_right (by omega) (by omega)
    rw [ends, ← Int32.toInt_inj, toInt_saturate, toInt_saturate]
    omega
  · rcases Int.lt_or_le 2147483647 n with high | below
    · have ends : (saturate n).toInt = 2147483647 := by omega
      have far : 2147483647 * k ≤ n * k := Int.mul_le_mul_of_nonneg_right (by omega) (by omega)
      rw [ends, ← Int32.toInt_inj, toInt_saturate, toInt_saturate]
      omega
    · have whole : (saturate n).toInt = n := by omega
      rw [whole]

theorem Wheel.distance_cases (amount rotation : Int32) :
    120 ∣ (distance amount rotation).toInt ∨ distance amount rotation = .minValue ∨
      distance amount rotation = .maxValue := by
  have unit : detent.toInt = 120 := rfl
  rw [distance, unit]
  refine (toInt_saturate_cases _).imp_left fun whole => ?_
  rw [whole]
  exact Int.dvd_mul_left _ _

end InputReplay

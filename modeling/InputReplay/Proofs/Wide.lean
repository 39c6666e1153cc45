import InputReplay.Proofs.Pointer

/-! Positions computed in 64-bit words. Such words wrap and leave no sign of it, but a coordinate on the
device scale takes 48 bits at most, so nothing wraps on the way to a position, and the words give what
the integers give. -/

namespace InputReplay.Axis

namespace Wide

def product (coordinate : Int32) : Int64 := coordinate.toInt64 * 65536

def quotient (coordinate extent : Int32) : Int64 := product coordinate / extent.toInt64

def offset (coordinate : Int32) : Int64 := if 0 < coordinate then 1 else -1

def moved (coordinate extent : Int32) : Int64 := quotient coordinate extent + offset coordinate

def cut (word : Int64) : Int64 :=
  if word < Int32.minValue.toInt64 then Int32.minValue.toInt64
  else if Int32.maxValue.toInt64 < word then Int32.maxValue.toInt64
  else word

/-- As `Axis.normalize`, with every step taken in words that wrap at 64 bits. -/
def normalize (coordinate extent : Int32) : Except BadExtent Int32 :=
  if extent ≤ 0 then .error ⟨extent⟩
  else .ok (cut (moved coordinate extent)).toInt32

theorem toInt_product (coordinate : Int32) :
    (product coordinate).toInt = coordinate.toInt * 65536 := by
  have lower := coordinate.le_toInt
  have upper := coordinate.toInt_lt
  have unit : (65536 : Int64).toInt = 65536 := rfl
  rw [product, Int64.toInt_mul, Int32.toInt_toInt64, unit]
  exact Int.bmod_eq_of_le (by omega) (by omega)

theorem toInt_offset (coordinate : Int32) :
    (offset coordinate).toInt = if 0 < coordinate.toInt then 1 else -1 := by
  have side : 0 < coordinate ↔ 0 < coordinate.toInt := Int32.lt_iff_toInt_lt
  simp only [offset, side]
  split <;> rfl

section Screen

variable (coordinate : Int32) {extent : Int32}

theorem toInt_quotient (screen : 0 < extent.toInt) :
    (quotient coordinate extent).toInt = (coordinate.toInt * 65536).tdiv extent.toInt := by
  -- of all quotients only that of the least word by -1 wraps
  have divisor : extent.toInt64 ≠ -1 := by
    intro negative
    have unit : (-1 : Int64).toInt = -1 := rfl
    have value : extent.toInt = -1 := by rw [← Int32.toInt_toInt64, negative, unit]
    omega
  rw [quotient, Int64.toInt_div_of_ne_right _ _ divisor, toInt_product, Int32.toInt_toInt64]

theorem toInt_moved (screen : 0 < extent.toInt) :
    (moved coordinate extent).toInt = exact coordinate.toInt extent.toInt := by
  have lower := coordinate.le_toInt
  have upper := coordinate.toInt_lt
  have small := Int.natAbs_tdiv_le_natAbs (coordinate.toInt * 65536) extent.toInt
  rw [moved, Int64.toInt_add, toInt_quotient coordinate screen, toInt_offset]
  exact Int.bmod_eq_of_le (by split <;> omega) (by split <;> omega)

end Screen

theorem toInt_cut (word : Int64) :
    (cut word).toInt = max (-2147483648) (min word.toInt 2147483647) := by
  have low : Int32.minValue.toInt64.toInt = -2147483648 := rfl
  have high : Int32.maxValue.toInt64.toInt = 2147483647 := rfl
  simp only [cut, Int64.lt_iff_toInt_lt, low, high]
  split
  case isTrue => omega
  case isFalse => split <;> omega

theorem toInt32_cut (word : Int64) : (cut word).toInt32 = saturate word.toInt := by
  rw [← Int32.toInt_inj, Int64.toInt_toInt32, toInt_cut, toInt_saturate]
  exact Int.bmod_eq_of_le (by omega) (by omega)

theorem normalize_eq (coordinate extent : Int32) :
    normalize coordinate extent = Axis.normalize coordinate extent := by
  unfold normalize Axis.normalize
  split
  case isTrue => rfl
  case isFalse screen =>
    rw [Int32.not_le, Int32.lt_iff_toInt_lt] at screen
    rw [toInt32_cut, toInt_moved coordinate screen]

/-- Each step on words is the step on the integers that they hold, and nothing divides by zero. -/
structure Unwrapped (coordinate extent : Int32) : Prop where
  divisor_pos : 0 < extent.toInt64
  product_eq : (product coordinate).toInt = coordinate.toInt * 65536
  quotient_eq : (quotient coordinate extent).toInt = (product coordinate).toInt.tdiv extent.toInt
  moved_eq : (moved coordinate extent).toInt =
    (quotient coordinate extent).toInt + if 0 < coordinate.toInt then 1 else -1
  narrowed_eq : (cut (moved coordinate extent)).toInt32.toInt = (cut (moved coordinate extent)).toInt

theorem unwrapped (coordinate : Int32) {extent : Int32} (screen : 0 < extent) :
    Unwrapped coordinate extent := by
  have positive : 0 < extent.toInt := Int32.lt_iff_toInt_lt.mp screen
  constructor
  · rw [Int64.lt_iff_toInt_lt, Int32.toInt_toInt64]
    exact positive
  · exact toInt_product coordinate
  · rw [toInt_quotient coordinate positive, toInt_product]
  · rw [toInt_moved coordinate positive, toInt_quotient coordinate positive]
    rfl
  · rw [toInt32_cut, toInt_saturate, toInt_cut]

end Wide

/-- A position fails exactly on an extent that is not positive, which it reports. Otherwise it is the
coordinate times 65536 over the extent, toward zero, moved by a unit and cut to 32 bits, all over the
integers; and words that wrap at 64 bits give the same, since none of them wraps. -/
theorem normalize_exact_at_64_bits (coordinate extent : Int32) :
    (∀ e, normalize coordinate extent = .error e ↔ extent ≤ 0 ∧ e.extent = extent) ∧
    (∀ position, normalize coordinate extent = .ok position ↔
      0 < extent ∧ position.toInt =
        max (-2147483648)
          (min ((coordinate.toInt * 65536).tdiv extent.toInt + if 0 < coordinate.toInt then 1 else -1)
            2147483647)) ∧
    Wide.normalize coordinate extent = normalize coordinate extent ∧
    (0 < extent → Wide.Unwrapped coordinate extent) := by
  refine ⟨fun e => normalize_eq_error_iff, fun position => ?_, Wide.normalize_eq coordinate extent,
    Wide.unwrapped coordinate⟩
  rw [normalize_eq_ok_iff, saturate_eq_iff, Int32.lt_iff_toInt_lt]
  rfl

theorem normalize_exact_at_64_bits_least :
    (0 : Int32) < 1 ∧ normalize .minValue 1 = .ok .minValue ∧
      Wide.normalize .minValue 1 = .ok .minValue ∧ Wide.Unwrapped .minValue 1 ∧
      (Wide.moved .minValue 1).toInt = -140737488355329 := by
  have screen : (0 : Int32) < 1 := by decide
  obtain ⟨-, value, words, unwrapped⟩ := normalize_exact_at_64_bits .minValue 1
  have least : normalize .minValue 1 = .ok .minValue := (value .minValue).mpr ⟨screen, by decide⟩
  exact ⟨screen, least, words.trans least, unwrapped screen, by decide⟩

end InputReplay.Axis

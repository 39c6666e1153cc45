import InputReplay.Proofs.Verdict
import Mathlib.Algebra.Order.Floor.Div

/-! Pixels read back from device positions. Scaling rounds toward the origin, so rounding away from it
gives the coordinate back, as long as an axis has no more pixels than the device scale has units. -/

namespace InputReplay

variable {σ : Type}

namespace Axis

/-- A position without the unit by which it is moved away from the origin. -/
def scaled (position : Int) : Int :=
  if 0 < position then position - 1 else position + 1

/-- The coordinate that a position stands for on an axis of `extent` pixels. -/
def pixel (position extent : Int) : Int :=
  (scaled position).sign * ((scaled position).natAbs * extent.toNat ⌈/⌉ 65536 : Nat)

section Exact

variable (coordinate : Int) {extent : Int}

theorem scaled_exact (screen : 0 < extent) :
    scaled (exact coordinate extent) = (coordinate * range).tdiv extent := by
  unfold scaled
  by_cases positive : 0 < coordinate
  · have above := one_le_exact positive screen
    rw [if_pos (by omega), exact, if_pos positive]
    omega
  · have below := exact_le_neg_one positive screen
    rw [if_neg (by omega), exact, if_neg positive]
    omega

theorem natAbs_scaled_exact (screen : 0 < extent) :
    (scaled (exact coordinate extent)).natAbs = coordinate.natAbs * 65536 / extent.toNat := by
  have width : extent.natAbs = extent.toNat := by omega
  rw [scaled_exact coordinate screen, Int.natAbs_tdiv, Int.natAbs_mul, width]
  rfl

theorem scaled_mul_le (screen : 0 < extent) :
    (scaled (exact coordinate extent)).natAbs * extent.toNat ≤ coordinate.natAbs * 65536 := by
  rw [natAbs_scaled_exact coordinate screen]
  exact Nat.div_mul_le_self _ _

theorem lt_scaled_succ_mul (screen : 0 < extent) :
    coordinate.natAbs * 65536 <
      ((scaled (exact coordinate extent)).natAbs + 1) * extent.toNat := by
  rw [natAbs_scaled_exact coordinate screen, Nat.mul_comm (_ + 1)]
  exact Nat.lt_mul_div_succ _ (by omega)

theorem sign_scaled_exact (screen : 0 < extent) (small : extent ≤ 65536) :
    (scaled (exact coordinate extent)).sign = coordinate.sign := by
  have unit : range = 65536 := rfl
  rw [scaled_exact coordinate screen, Int.sign_tdiv, unit]
  split
  -- a quotient is 0 at the origin alone, since every pixel is at least one unit wide
  case isTrue short =>
    have origin : coordinate = 0 := by omega
    rw [origin, Int.sign_zero]
  case isFalse =>
    rw [Int.sign_mul, Int.sign_eq_one_of_pos screen, Int.mul_one]
    exact Int.mul_one _

end Exact

theorem ceilDiv_eq_of_bounds {q s c r : Nat} (lower : q * s ≤ c * r) (upper : c * r < (q + 1) * s)
    (small : s ≤ r) (positive : 0 < r) : q * s ⌈/⌉ r = c := by
  refine Nat.le_antisymm ?_ ?_
  · rw [ceilDiv_le_iff_le_mul positive, Nat.mul_comm r]
    exact lower
  · have covered : q * s ≤ r * (q * s ⌈/⌉ r) := (ceilDiv_le_iff_le_mul positive).mp (Nat.le_refl _)
    have next : c * r < (q * s ⌈/⌉ r + 1) * r := by
      rw [Nat.add_mul, Nat.one_mul] at upper ⊢
      rw [Nat.mul_comm r] at covered
      omega
    exact Nat.le_of_lt_succ (Nat.lt_of_mul_lt_mul_right next)

theorem pixel_exact (coordinate : Int) {extent : Int} (screen : 0 < extent) (small : extent ≤ 65536) :
    pixel (exact coordinate extent) extent = coordinate := by
  have ceiling := ceilDiv_eq_of_bounds (scaled_mul_le coordinate screen)
    (lt_scaled_succ_mul coordinate screen) (by omega) (by decide)
  rw [pixel, sign_scaled_exact coordinate screen small, ceiling, Int.sign_mul_natAbs]

def Uncut (position : Int32) : Prop := .minValue < position ∧ position < .maxValue

instance : DecidablePred Uncut := fun _ => inferInstanceAs (Decidable (_ ∧ _))

/-- What a position on an axis says of its coordinate. -/
structure Locates (position extent coordinate : Int32) : Prop where
  lower : (scaled position.toInt).natAbs * extent.toInt ≤ coordinate.toInt.natAbs * 65536
  upper : coordinate.toInt.natAbs * 65536 < ((scaled position.toInt).natAbs + 1) * extent.toInt
  readBack : extent ≤ 65536 → pixel position.toInt extent.toInt = coordinate.toInt

section Word

variable {coordinate extent position : Int32}

theorem toInt_of_uncut (placed : normalize coordinate extent = .ok position)
    (uncut : Uncut position) : position.toInt = exact coordinate.toInt extent.toInt := by
  obtain ⟨-, rfl⟩ := normalize_eq_ok_iff.mp placed
  rcases toInt_saturate_cases (exact coordinate.toInt extent.toInt) with whole | low | high
  · exact whole
  · exact absurd low.symm (Int32.ne_of_lt uncut.1)
  · exact absurd high (Int32.ne_of_lt uncut.2)

theorem locates_of_uncut (placed : normalize coordinate extent = .ok position)
    (uncut : Uncut position) : Locates position extent coordinate := by
  have screen := (normalize_eq_ok_iff.mp placed).1
  have pixels : (extent.toInt.toNat : Int) = extent.toInt := Int.toNat_of_nonneg (by omega)
  constructor
  · have lower := Int.ofNat_le.mpr (scaled_mul_le coordinate.toInt screen)
    rwa [Int.natCast_mul, Int.natCast_mul, pixels, ← toInt_of_uncut placed uncut] at lower
  · have upper := Int.ofNat_lt.mpr (lt_scaled_succ_mul coordinate.toInt screen)
    rwa [Int.natCast_mul, Int.natCast_mul, pixels, ← toInt_of_uncut placed uncut] at upper
  · intro small
    rw [toInt_of_uncut placed uncut]
    exact pixel_exact _ screen (Int32.le_iff_toInt_le.mp small)

theorem Locates.eq_of_small {other : Int32} (here : Locates position extent coordinate)
    (there : Locates position extent other) (small : extent ≤ 65536) : coordinate = other :=
  Int32.toInt_inj.mp ((here.readBack small).symm.trans (there.readBack small))

end Word
end Axis

namespace Event

/-- A position that is not cut gives its coordinate back: exactly on a screen of at most 65536 pixels,
and on any other to within the pixels that share the position. So on a small screen no two pixels
share one. -/
theorem pointer_positions_read_back (h h' : Host σ) (s s' : Standing σ) {e e' : Event}
    {x y x' y' : Int32} (placed : e.payload.position? = some (x, y))
    (placed' : e'.payload.position? = some (x', y'))
    (same : h'.screen s'.queries = h.screen s.queries)
    (width : 0 < (h.screen s.queries).width) (height : 0 < (h.screen s.queries).height) :
    let screen := h.screen s.queries
    ∃ input input' : MouseInput,
      (e.resolve.run h s).value = .ok (some (.mouse input)) ∧
      (e'.resolve.run h' s').value = .ok (some (.mouse input')) ∧
      (Axis.Uncut input.dx → Axis.Locates input.dx screen.width x) ∧
      (Axis.Uncut input.dy → Axis.Locates input.dy screen.height y) ∧
      (screen.width ≤ 65536 → Axis.Uncut input.dx → input.dx = input'.dx → x = x') ∧
      (screen.height ≤ 65536 → Axis.Uncut input.dy → input.dy = input'.dy → y = y') := by
  intro screen
  obtain ⟨input, found, dx, dy⟩ := value_of_position h s placed width height
  obtain ⟨input', found', dx', dy'⟩ :=
    value_of_position h' s' placed' (same ▸ width) (same ▸ height)
  rw [same] at dx' dy'
  refine ⟨input, input', found, found', Axis.locates_of_uncut dx, Axis.locates_of_uncut dy,
    fun small uncut column => ?_, fun small uncut row => ?_⟩
  · rw [← column] at dx'
    exact (Axis.locates_of_uncut dx uncut).eq_of_small (Axis.locates_of_uncut dx' uncut) small
  · rw [← row] at dy'
    exact (Axis.locates_of_uncut dy uncut).eq_of_small (Axis.locates_of_uncut dy' uncut) small

theorem pointer_positions_read_back_drag :
    let h : Host Nat := ⟨Key.Layout.native, Extent.sequence [⟨1920, 65536⟩], Script.device ⟨[]⟩⟩
    let drag : Event := ⟨.mouseDragged ⟨-1, 65535, 1⟩, ⟨ModifierMask.button1⟩⟩
    let turn : Event := ⟨.mouseWheel ⟨-1, 65535, 1, -1⟩, .empty⟩
    let input : MouseInput := ⟨-35, 65536, 0, .absolute ||| .move⟩
    (drag.payload.position? = some (-1, 65535) ∧ turn.payload.position? = some (-1, 65535)) ∧
    (h.screen 1 = h.screen 0 ∧ 0 < (h.screen 0).width ∧ 0 < (h.screen 0).height) ∧
    (drag.resolve.run h ⟨0, 0⟩).value = .ok (some (.mouse input)) ∧
    (Axis.Uncut input.dx ∧ Axis.Locates input.dx 1920 (-1)) ∧
    (Axis.Uncut input.dy ∧ Axis.Locates input.dy 65536 65535) := by
  intro h drag turn input
  have placed : drag.payload.position? = some (-1, 65535) := rfl
  have placed' : turn.payload.position? = some (-1, 65535) := rfl
  have width : 0 < (h.screen 0).width := by decide
  have height : 0 < (h.screen 0).height := by decide
  have value : (drag.resolve.run h ⟨0, 0⟩).value = .ok (some (.mouse input)) := by decide
  have column : Axis.Uncut input.dx := by decide
  have row : Axis.Uncut input.dy := by decide
  obtain ⟨found, -, resolved, -, located, located', -⟩ :=
    pointer_positions_read_back h h ⟨0, 0⟩ ⟨1, 0⟩ placed placed' rfl width height
  cases resolved.symm.trans value
  exact ⟨⟨placed, placed'⟩, ⟨rfl, width, height⟩, value, ⟨column, located column⟩, row, located' row⟩

end Event
end InputReplay

import InputReplay.Proofs.Pixels

/-! How far positions reach. A position lies on the side of its coordinate, where zero counts with the
negative ones, and its distance from the origin depends on the size of the coordinate alone. On the
screen this is 65537 units at most, and that many at the edges only. -/

namespace InputReplay

variable {σ : Type}

namespace Axis

/-- How far from the origin the position of a coordinate lies, before it is cut. -/
def reach (coordinate extent : Int) : Nat := coordinate.natAbs * 65536 / extent.toNat + 1

section Exact

variable {coordinate extent : Int}

theorem exact_eq_reach (positive : 0 < coordinate) (screen : 0 < extent) :
    exact coordinate extent = reach coordinate extent := by
  have distance := natAbs_scaled_exact coordinate screen
  have side := one_le_exact positive screen
  rw [scaled, if_pos (by omega)] at distance
  rw [reach, ← distance]
  omega

theorem exact_eq_neg_reach (other : ¬0 < coordinate) (screen : 0 < extent) :
    exact coordinate extent = -reach coordinate extent := by
  have distance := natAbs_scaled_exact coordinate screen
  have side := exact_le_neg_one other screen
  rw [scaled, if_neg (by omega)] at distance
  rw [reach, ← distance]
  omega

theorem natAbs_exact (coordinate : Int) (screen : 0 < extent) :
    (exact coordinate extent).natAbs = reach coordinate extent := by
  by_cases positive : 0 < coordinate
  · rw [exact_eq_reach positive screen, Int.natAbs_natCast]
  · rw [exact_eq_neg_reach positive screen, Int.natAbs_neg, Int.natAbs_natCast]

theorem succ_le_reach_iff (coordinate : Int) (n : Nat) (screen : 0 < extent) :
    n + 1 ≤ reach coordinate extent ↔ n * extent.toNat ≤ coordinate.natAbs * 65536 := by
  rw [reach, Nat.add_le_add_iff_right, Nat.le_div_iff_mul_le (by omega)]

theorem reach_le_of_inside (screen : 0 < extent) (inside : coordinate.natAbs ≤ extent) :
    reach coordinate extent ≤ 65537 := by
  have beyond := succ_le_reach_iff coordinate 65537 screen
  omega

theorem reach_eq_iff_of_inside (screen : 0 < extent) (inside : coordinate.natAbs ≤ extent) :
    reach coordinate extent = 65537 ↔ coordinate.natAbs = extent := by
  have most := reach_le_of_inside screen inside
  have edge := succ_le_reach_iff coordinate 65536 screen
  omega

end Exact

/-- A position on the side of its coordinate. No position is 0, and that of 0 is negative. -/
structure Sided (position coordinate : Int32) : Prop where
  right : 0 < coordinate → 1 ≤ position
  left : ¬0 < coordinate → position ≤ -1

structure Within (position extent coordinate : Int32) : Prop where
  whole : position.toInt = exact coordinate.toInt extent.toInt
  lower : -65537 ≤ position
  upper : position ≤ 65537
  edge : position.toInt.natAbs = 65537 ↔ coordinate.toInt.natAbs = extent.toInt

section Word

variable {coordinate extent position : Int32}

theorem sided_of_normalize (placed : normalize coordinate extent = .ok position) :
    Sided position coordinate := by
  obtain ⟨screen, rfl⟩ := normalize_eq_ok_iff.mp placed
  have side : 0 < coordinate ↔ 0 < coordinate.toInt := Int32.lt_iff_toInt_lt
  constructor
  · intro positive
    calc (1 : Int32) = saturate 1 := by decide
      _ ≤ _ := saturate_mono (one_le_exact (side.mp positive) screen)
  · intro other
    calc saturate (exact coordinate.toInt extent.toInt)
      _ ≤ saturate (-1) := saturate_mono (exact_le_neg_one (mt side.mpr other) screen)
      _ = -1 := by decide

theorem within_of_normalize (placed : normalize coordinate extent = .ok position)
    (inside : coordinate.toInt.natAbs ≤ extent.toInt) : Within position extent coordinate := by
  obtain ⟨screen, rfl⟩ := normalize_eq_ok_iff.mp placed
  have distance := natAbs_exact coordinate.toInt screen
  have most := reach_le_of_inside screen inside
  have whole : (saturate (exact coordinate.toInt extent.toInt)).toInt =
      exact coordinate.toInt extent.toInt := toInt_saturate_of_inside (by omega) (by omega)
  refine ⟨whole, ?_, ?_, ?_⟩
  · rw [Int32.le_iff_toInt_le, whole, show (-65537 : Int32).toInt = -65537 from rfl]
    omega
  · rw [Int32.le_iff_toInt_le, whole, show (65537 : Int32).toInt = 65537 from rfl]
    omega
  · rw [whole, distance]
    exact reach_eq_iff_of_inside screen inside

theorem exists_position (coordinate : Int32) (screen : 0 < extent) :
    ∃ position, normalize coordinate extent = .ok position :=
  ⟨_, normalize_of_pos coordinate screen⟩

end Word
end Axis

namespace Event

/-- On every axis with a positive extent a position is on the side of its coordinate, cut or not; and on
the screen it is never cut, at most 65537 units from the origin, and that far at the edges only. So on a
screen with positive extents every pointer event resolves to such positions. -/
theorem positions_stay_in_device_range (h : Host σ) (s : Standing σ) :
    (∀ coordinate extent : Int32, 0 < extent →
      ∃ position, Axis.normalize coordinate extent = .ok position ∧
        Axis.Sided position coordinate ∧
        (coordinate.toInt.natAbs ≤ extent.toInt → Axis.Within position extent coordinate)) ∧
    ∀ (e : Event) x y, e.payload.position? = some (x, y) →
      let screen := h.screen s.queries
      0 < screen.width → 0 < screen.height →
      ∃ input : MouseInput, (e.resolve.run h s).value = .ok (some (.mouse input)) ∧
        Axis.Sided input.dx x ∧ Axis.Sided input.dy y ∧
        (x.toInt.natAbs ≤ screen.width.toInt → Axis.Within input.dx screen.width x) ∧
        (y.toInt.natAbs ≤ screen.height.toInt → Axis.Within input.dy screen.height y) := by
  constructor
  · intro coordinate extent screen
    obtain ⟨position, placed⟩ := Axis.exists_position coordinate screen
    exact ⟨position, placed, Axis.sided_of_normalize placed, Axis.within_of_normalize placed⟩
  · intro e x y placed screen width height
    obtain ⟨input, found, dx, dy⟩ := value_of_position h s placed width height
    exact ⟨input, found, Axis.sided_of_normalize dx, Axis.sided_of_normalize dy,
      Axis.within_of_normalize dx, Axis.within_of_normalize dy⟩

theorem positions_stay_in_device_range_corner :
    let h : Host Nat :=
      ⟨Key.Layout.native, Extent.sequence [⟨1920, 2147483647⟩], Script.device ⟨[]⟩⟩
    let press : Event := mousePressed 1920 (-2147483646) 4
    let input : MouseInput := ⟨65537, -65536, 1, .xDown⟩
    (0 < (h.screen 0).width ∧ 0 < (h.screen 0).height) ∧
    press.payload.position? = some (1920, -2147483646) ∧
    (press.resolve.run h ⟨0, 0⟩).value = .ok (some (.mouse input)) ∧
    (Axis.Sided input.dx 1920 ∧ Axis.Sided input.dy (-2147483646)) ∧
    (Axis.Within input.dx 1920 1920 ∧ Axis.Within input.dy 2147483647 (-2147483646)) ∧
    ∃ position, Axis.normalize (-2147483647) 2147483647 = .ok position ∧
      Axis.Sided position (-2147483647) ∧ Axis.Within position 2147483647 (-2147483647) := by
  intro h press input
  have width : 0 < (h.screen 0).width := by decide
  have height : 0 < (h.screen 0).height := by decide
  have value : (press.resolve.run h ⟨0, 0⟩).value = .ok (some (.mouse input)) := by decide
  obtain ⟨axes, pointers⟩ := positions_stay_in_device_range h ⟨0, 0⟩
  obtain ⟨found, resolved, column, row, across, along⟩ := pointers press _ _ rfl width height
  cases resolved.symm.trans value
  obtain ⟨top, placed, side, inside⟩ := axes (-2147483647) 2147483647 height
  exact ⟨⟨width, height⟩, rfl, value, ⟨column, row⟩, ⟨across (by decide), along (by decide)⟩,
    top, placed, side, inside (by decide)⟩

end Event
end InputReplay

import InputReplay.Proofs.Reach

/-! Positions on scaled and mirrored screens. A position depends on the proportion of coordinate and
extent alone, so a screen with more pixels shows a gesture in the same places. The negative of a
positive coordinate has the negative position, up to the end of the range, which lies one further out
on the negative side. -/

namespace InputReplay

variable {σ : Type}

theorem toInt_neg_of_pos {word : Int32} (positive : 0 < word.toInt) :
    (-word).toInt = -word.toInt := by
  have upper := word.toInt_lt
  rw [Int32.toInt_neg]
  exact Int.bmod_eq_of_le (by omega) (by omega)

theorem saturate_neg {n : Int} (positive : 0 < n) (whole : n ≤ 2147483647) :
    saturate (-n) = -saturate n := by
  have inside : (saturate n).toInt = n := toInt_saturate_of_inside (by omega) whole
  rw [← Int32.toInt_inj, toInt_neg_of_pos (by omega), inside,
    toInt_saturate_of_inside (by omega) (by omega)]

theorem saturate_eq_maxValue {n : Int} (far : 2147483647 ≤ n) : saturate n = .maxValue := by
  have high : Int32.maxValue.toInt = 2147483647 := rfl
  rw [saturate_eq_iff, high]
  omega

theorem saturate_eq_minValue {n : Int} (far : n ≤ -2147483648) : saturate n = .minValue := by
  have low : Int32.minValue.toInt = -2147483648 := rfl
  rw [saturate_eq_iff, low]
  omega

namespace Axis

section Exact

variable {coordinate extent : Int}

theorem exact_mul {factor : Int} (larger : 0 < factor) :
    exact (factor * coordinate) (factor * extent) = exact coordinate extent := by
  have side : 0 < factor * coordinate ↔ 0 < coordinate :=
    ⟨fun product => Int.pos_of_mul_pos_right product larger, Int.mul_pos larger⟩
  rw [exact, exact, Int.mul_assoc, Int.mul_tdiv_mul_of_pos _ _ larger]
  simp only [side]

theorem exact_neg (positive : 0 < coordinate) (screen : 0 < extent) :
    exact (-coordinate) extent = -exact coordinate extent := by
  rw [exact_eq_neg_reach (by omega) screen, exact_eq_reach positive screen, reach, reach,
    Int.natAbs_neg]

end Exact

structure Magnified (factor : Int) (coordinate extent coordinate' extent' : Int32) : Prop where
  one_le : 1 ≤ factor
  coordinate_eq : coordinate'.toInt = factor * coordinate.toInt
  extent_eq : extent'.toInt = factor * extent.toInt

section Word

variable {coordinate extent coordinate' extent' position : Int32}

theorem Magnified.extent_pos {factor : Int}
    (larger : Magnified factor coordinate extent coordinate' extent') (screen : 0 < extent) :
    0 < extent' := by
  rw [Int32.lt_iff_toInt_lt] at screen ⊢
  rw [larger.extent_eq]
  exact Int.mul_pos larger.one_le screen

theorem Magnified.normalize_eq {factor : Int}
    (larger : Magnified factor coordinate extent coordinate' extent')
    (placed : normalize coordinate extent = .ok position) :
    normalize coordinate' extent' = .ok position := by
  obtain ⟨screen, rfl⟩ := normalize_eq_ok_iff.mp placed
  rw [normalize_eq_ok_iff, larger.coordinate_eq, larger.extent_eq, exact_mul larger.one_le]
  exact ⟨Int.mul_pos larger.one_le screen, rfl⟩

theorem normalize_neg (right : 0 < coordinate) (screen : 0 < extent) :
    normalize (-coordinate) extent = .ok (saturate (-exact coordinate.toInt extent.toInt)) := by
  have positive : 0 < coordinate.toInt := Int32.lt_iff_toInt_lt.mp right
  rw [normalize_of_pos _ screen, toInt_neg_of_pos positive,
    exact_neg positive (Int32.lt_iff_toInt_lt.mp screen)]

theorem normalize_mirrored (right : 0 < coordinate) (screen : 0 < extent) :
    (exact coordinate.toInt extent.toInt ≤ 2147483647 →
      ∃ position, normalize coordinate extent = .ok position ∧
        normalize (-coordinate) extent = .ok (-position)) ∧
    (2147483647 < exact coordinate.toInt extent.toInt →
      normalize coordinate extent = .ok .maxValue ∧
        normalize (-coordinate) extent = .ok .minValue) := by
  have positive : 1 ≤ exact coordinate.toInt extent.toInt :=
    one_le_exact (Int32.lt_iff_toInt_lt.mp right) (Int32.lt_iff_toInt_lt.mp screen)
  rw [normalize_neg right screen, normalize_of_pos coordinate screen]
  constructor
  · intro whole
    exact ⟨_, rfl, by rw [saturate_neg positive whole]⟩
  · intro far
    rw [saturate_eq_maxValue (by omega), saturate_eq_minValue (by omega)]
    exact ⟨rfl, rfl⟩

end Word
end Axis

namespace Event

/-- A coordinate and an extent that are both as many times as large give the same position. Opposite
coordinates give opposite positions, or both ends of the range once the positive one passes its end. So
a pointer event on a screen scaled along with it, by one factor for the columns and one for the rows,
is put in the same place. -/
theorem positions_scale_and_mirror (h h' : Host σ) (s s' : Standing σ) :
    (∀ factor coordinate extent coordinate' extent', 0 < extent →
      Axis.Magnified factor coordinate extent coordinate' extent' →
      ∃ position, Axis.normalize coordinate extent = .ok position ∧
        Axis.normalize coordinate' extent' = .ok position) ∧
    (∀ coordinate extent : Int32, 0 < extent → 0 < coordinate →
      ((coordinate.toInt * 65536).tdiv extent.toInt + 1 ≤ 2147483647 →
        ∃ position, Axis.normalize coordinate extent = .ok position ∧
          Axis.normalize (-coordinate) extent = .ok (-position)) ∧
      (2147483647 < (coordinate.toInt * 65536).tdiv extent.toInt + 1 →
        Axis.normalize coordinate extent = .ok .maxValue ∧
          Axis.normalize (-coordinate) extent = .ok .minValue)) ∧
    ∀ (e e' : Event) x y x' y', e.payload.position? = some (x, y) →
      e'.payload.position? = some (x', y') →
      let screen := h.screen s.queries
      let screen' := h'.screen s'.queries
      0 < screen.width → 0 < screen.height →
      ∀ columns rows, Axis.Magnified columns x screen.width x' screen'.width →
      Axis.Magnified rows y screen.height y' screen'.height →
      ∃ input input' : MouseInput,
        (e.resolve.run h s).value = .ok (some (.mouse input)) ∧
        (e'.resolve.run h' s').value = .ok (some (.mouse input')) ∧
        input'.dx = input.dx ∧ input'.dy = input.dy := by
  refine ⟨?_, ?_, ?_⟩
  · intro factor coordinate extent coordinate' extent' screen larger
    obtain ⟨position, placed⟩ := Axis.exists_position coordinate screen
    exact ⟨position, placed, larger.normalize_eq placed⟩
  · intro coordinate extent screen right
    have whole : Axis.exact coordinate.toInt extent.toInt =
        (coordinate.toInt * 65536).tdiv extent.toInt + 1 := by
      have positive : 0 < coordinate.toInt := Int32.lt_iff_toInt_lt.mp right
      rw [Axis.exact, if_pos positive]
      rfl
    rw [← whole]
    exact Axis.normalize_mirrored right screen
  · intro e e' x y x' y' placed placed' screen screen' width height columns rows wide high
    obtain ⟨input, found, dx, dy⟩ := value_of_position h s placed width height
    obtain ⟨input', found', dx', dy'⟩ :=
      value_of_position h' s' placed' (wide.extent_pos width) (high.extent_pos height)
    exact ⟨input, input', found, found',
      Except.ok.inj (dx'.symm.trans (wide.normalize_eq dx)),
      Except.ok.inj (dy'.symm.trans (high.normalize_eq dy))⟩

theorem positions_scale_and_mirror_cut :
    let h : Host Nat :=
      ⟨Key.Layout.native, Extent.sequence [⟨960, 360⟩, ⟨1920, 1080⟩], Script.device ⟨[]⟩⟩
    let drag : Event := ⟨.mouseDragged ⟨7, -5, 1⟩, ⟨ModifierMask.button1⟩⟩
    let drag' : Event := ⟨.mouseDragged ⟨14, -15, 1⟩, ⟨ModifierMask.button1⟩⟩
    (0 < (h.screen 0).width ∧ 0 < (h.screen 0).height) ∧
    (Axis.Magnified 2 7 960 14 1920 ∧ Axis.Magnified 3 (-5) 360 (-15) 1080) ∧
    (∃ input input' : MouseInput, (drag.resolve.run h ⟨0, 0⟩).value = .ok (some (.mouse input)) ∧
      (drag'.resolve.run h ⟨1, 0⟩).value = .ok (some (.mouse input')) ∧
      input'.dx = input.dx ∧ input'.dy = input.dy) ∧
    (∃ position, Axis.normalize (-1073741824) 1 = .ok position ∧
      Axis.normalize (-2147483648) 2 = .ok position) ∧
    (∃ position, Axis.normalize 32767 1 = .ok position ∧
      Axis.normalize (-32767) 1 = .ok (-position)) ∧
    Axis.normalize 32768 1 = .ok .maxValue ∧ Axis.normalize (-32768) 1 = .ok .minValue := by
  intro h drag drag'
  have width : 0 < (h.screen 0).width := by decide
  have height : 0 < (h.screen 0).height := by decide
  have columns : Axis.Magnified 2 7 960 14 1920 := ⟨by decide, by decide, by decide⟩
  have rows : Axis.Magnified 3 (-5) 360 (-15) 1080 := ⟨by decide, by decide, by decide⟩
  obtain ⟨scaled, mirrored, pointers⟩ := positions_scale_and_mirror h h ⟨0, 0⟩ ⟨1, 0⟩
  exact ⟨⟨width, height⟩, ⟨columns, rows⟩,
    pointers drag drag' _ _ _ _ rfl rfl width height 2 3 columns rows,
    scaled 2 (-1073741824) 1 (-2147483648) 2 (by decide) ⟨by decide, by decide, by decide⟩,
    (mirrored 32767 1 (by decide) (by decide)).1 (by decide),
    (mirrored 32768 1 (by decide) (by decide)).2 (by decide)⟩

end Event
end InputReplay

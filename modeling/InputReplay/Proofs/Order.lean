import InputReplay.Proofs.Reach

/-! Positions in order. Along an axis positions follow their coordinates, past the origin, where the
offset changes, and into both ends of the range. A wider screen draws every position to the origin. -/

namespace InputReplay

variable {σ : Type}

namespace Axis

section Exact

variable {coordinate further extent wider : Int}

theorem exact_le_exact (ahead : coordinate ≤ further) (screen : 0 < extent) :
    exact coordinate extent ≤ exact further extent := by
  have multiples : coordinate * range ≤ further * range :=
    Int.mul_le_mul_of_nonneg_right ahead (by decide)
  have quotients := Int.tdiv_le_tdiv screen multiples
  -- from a coordinate to one ahead of it the offset never goes down
  unfold exact
  split <;> split <;> omega

theorem reach_le_reach (screen : 0 < extent) (wide : extent ≤ wider) :
    reach coordinate wider ≤ reach coordinate extent :=
  Nat.succ_le_succ (Nat.div_le_div_left (by omega) (by omega))

end Exact

section Word

variable {coordinate further extent wider position position' : Int32}

theorem position_le_of_le (placed : normalize coordinate extent = .ok position)
    (placed' : normalize further extent = .ok position') (ahead : coordinate ≤ further) :
    position ≤ position' := by
  obtain ⟨screen, rfl⟩ := normalize_eq_ok_iff.mp placed
  obtain ⟨-, rfl⟩ := normalize_eq_ok_iff.mp placed'
  exact saturate_mono (exact_le_exact (Int32.le_iff_toInt_le.mp ahead) screen)

theorem position_le_of_wider (placed : normalize coordinate extent = .ok position)
    (placed' : normalize coordinate wider = .ok position') (wide : extent ≤ wider) :
    (0 < coordinate → position' ≤ position) ∧ (coordinate ≤ 0 → position ≤ position') := by
  obtain ⟨screen, rfl⟩ := normalize_eq_ok_iff.mp placed
  obtain ⟨screen', rfl⟩ := normalize_eq_ok_iff.mp placed'
  have nearer : reach coordinate.toInt wider.toInt ≤ reach coordinate.toInt extent.toInt :=
    reach_le_reach screen (Int32.le_iff_toInt_le.mp wide)
  have side : 0 < coordinate ↔ 0 < coordinate.toInt := Int32.lt_iff_toInt_lt
  constructor
  · intro right
    refine saturate_mono ?_
    rw [exact_eq_reach (side.mp right) screen, exact_eq_reach (side.mp right) screen']
    exact Int.ofNat_le.mpr nearer
  · intro left
    have other : ¬0 < coordinate.toInt := mt side.mpr (Int32.not_lt.mpr left)
    refine saturate_mono ?_
    rw [exact_eq_neg_reach other screen, exact_eq_neg_reach other screen']
    exact Int.neg_le_neg (Int.ofNat_le.mpr nearer)

end Word
end Axis

namespace Event

theorem positions_keep_order (h h' : Host σ) (s s' : Standing σ) :
    (∀ coordinate further extent : Int32, 0 < extent → coordinate ≤ further →
      ∃ position position', Axis.normalize coordinate extent = .ok position ∧
        Axis.normalize further extent = .ok position' ∧ position ≤ position') ∧
    (∀ coordinate extent wider : Int32, 0 < extent → extent ≤ wider →
      ∃ position position', Axis.normalize coordinate extent = .ok position ∧
        Axis.normalize coordinate wider = .ok position' ∧
        (0 < coordinate → position' ≤ position) ∧ (coordinate ≤ 0 → position ≤ position')) ∧
    ∀ (e e' : Event) x y x' y', e.payload.position? = some (x, y) →
      e'.payload.position? = some (x', y') →
      let screen := h.screen s.queries
      h'.screen s'.queries = screen → 0 < screen.width → 0 < screen.height →
      ∃ input input' : MouseInput,
        (e.resolve.run h s).value = .ok (some (.mouse input)) ∧
        (e'.resolve.run h' s').value = .ok (some (.mouse input')) ∧
        (x ≤ x' → input.dx ≤ input'.dx) ∧ (y ≤ y' → input.dy ≤ input'.dy) := by
  refine ⟨?_, ?_, ?_⟩
  · intro coordinate further extent screen ahead
    obtain ⟨position, placed⟩ := Axis.exists_position coordinate screen
    obtain ⟨position', placed'⟩ := Axis.exists_position further screen
    exact ⟨position, position', placed, placed', Axis.position_le_of_le placed placed' ahead⟩
  · intro coordinate extent wider screen wide
    obtain ⟨position, placed⟩ := Axis.exists_position coordinate screen
    obtain ⟨position', placed'⟩ :=
      Axis.exists_position coordinate (Int32.lt_of_lt_of_le screen wide)
    exact ⟨position, position', placed, placed', Axis.position_le_of_wider placed placed' wide⟩
  · intro e e' x y x' y' placed placed' screen same width height
    obtain ⟨input, found, dx, dy⟩ := value_of_position h s placed width height
    obtain ⟨input', found', dx', dy'⟩ :=
      value_of_position h' s' placed' (same ▸ width) (same ▸ height)
    rw [same] at dx' dy'
    exact ⟨input, input', found, found', Axis.position_le_of_le dx dx',
      Axis.position_le_of_le dy dy'⟩

theorem positions_keep_order_past_origin :
    let h : Host Nat := ⟨Key.Layout.native, Extent.sequence [⟨1920, 1⟩], Script.device ⟨[]⟩⟩
    let drag : Event := ⟨.mouseDragged ⟨0, -1, 1⟩, ⟨ModifierMask.button1⟩⟩
    let turn : Event := ⟨.mouseWheel ⟨1, 2147483647, 1, -1⟩, .empty⟩
    (Axis.normalize 0 1 = .ok (-1) ∧ Axis.normalize 1 1 = .ok 65537 ∧ (-1 : Int32) ≤ 65537) ∧
    (Axis.normalize 2147483647 1 = .ok 2147483647 ∧ (65537 : Int32) ≤ 2147483647) ∧
    (Axis.normalize (-2147483648) 1 = .ok (-2147483648) ∧
      Axis.normalize (-2147483648) 131072 = .ok (-1073741825) ∧
      (-2147483648 : Int32) ≤ -1073741825) ∧
    (drag.payload.position? = some (0, -1) ∧ turn.payload.position? = some (1, 2147483647)) ∧
    (h.screen 1 = h.screen 0 ∧ 0 < (h.screen 0).width ∧ 0 < (h.screen 0).height) ∧
    (drag.resolve.run h ⟨0, 0⟩).value =
      .ok (some (.mouse ⟨-1, -65537, 0, .absolute ||| .move⟩)) ∧
    (turn.resolve.run h ⟨1, 0⟩).value = .ok (some (.mouse ⟨35, 2147483647, -120, .wheel⟩)) ∧
    (-1 : Int32) ≤ 35 ∧ (-65537 : Int32) ≤ 2147483647 := by
  intro h drag turn
  have origin : Axis.normalize 0 1 = .ok (-1) := by decide
  have first : Axis.normalize 1 1 = .ok 65537 := by decide
  have last : Axis.normalize 2147483647 1 = .ok 2147483647 := by decide
  have narrow : Axis.normalize (-2147483648) 1 = .ok (-2147483648) := by decide
  have wide : Axis.normalize (-2147483648) 131072 = .ok (-1073741825) := by decide
  have dragged : (drag.resolve.run h ⟨0, 0⟩).value =
      .ok (some (.mouse ⟨-1, -65537, 0, .absolute ||| .move⟩)) := by decide
  have turned : (turn.resolve.run h ⟨1, 0⟩).value =
      .ok (some (.mouse ⟨35, 2147483647, -120, .wheel⟩)) := by decide
  have width : 0 < (h.screen 0).width := by decide
  have height : 0 < (h.screen 0).height := by decide
  obtain ⟨coordinates, extents, pointers⟩ := positions_keep_order h h ⟨0, 0⟩ ⟨1, 0⟩
  have jump := coordinates 0 1 1 (by decide) (by decide)
  have cut := coordinates 1 2147483647 1 (by decide) (by decide)
  have drawn := extents (-2147483648) 1 131072 (by decide) (by decide)
  have ordered := pointers drag turn _ _ _ _ rfl rfl rfl width height
  simp only [origin, first, last, narrow, wide, dragged, turned, Except.ok.injEq, Option.some.injEq,
    Descriptor.mouse.injEq, exists_and_left, exists_eq_left'] at jump cut drawn ordered
  exact ⟨⟨origin, first, jump⟩, ⟨last, cut⟩, ⟨narrow, wide, drawn.2 (by decide)⟩, ⟨rfl, rfl⟩,
    ⟨rfl, width, height⟩, dragged, turned, ordered.1 (by decide), ordered.2 (by decide)⟩

end Event
end InputReplay

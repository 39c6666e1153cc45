import InputReplay.Proofs.Verdict

/-! How far a wheel turn goes. Two products are cut at 32 bits, one after the other, but this comes
to one cut of the whole: a turn that is cut in the first product is cut at the same end in the
second. -/

namespace InputReplay

variable {σ : Type}

namespace Wheel

variable (amount rotation : Int32)

theorem distance_eq_saturate :
    distance amount rotation = saturate (amount.toInt * rotation.toInt * 120) := by
  have unit : detent.toInt = 120 := rfl
  rw [distance, unit]
  exact saturate_saturate_mul _ (by decide)

theorem sign_distance :
    (distance amount rotation).toInt.sign = (amount.toInt * rotation.toInt).sign := by
  rw [distance_eq_saturate, sign_saturate, Int.sign_mul _ 120]
  exact Int.mul_one _

theorem distance_eq_zero_iff : distance amount rotation = 0 ↔ amount = 0 ∨ rotation = 0 := by
  have zero : (0 : Int32).toInt = 0 := rfl
  rw [← Int32.toInt_inj, ← Int32.toInt_inj, ← Int32.toInt_inj, zero, ← Int.sign_eq_zero_iff_zero,
    sign_distance, Int.sign_eq_zero_iff_zero, Int.mul_eq_zero]

theorem distance_comm : distance amount rotation = distance rotation amount := by
  rw [distance, distance, Int.mul_comm amount.toInt]

variable {amount rotation} in
theorem distance_le_distance {further : Int32} (forward : 0 ≤ amount) (le : rotation ≤ further) :
    distance amount rotation ≤ distance amount further := by
  rw [Int32.le_iff_toInt_le] at forward le
  rw [distance_eq_saturate, distance_eq_saturate]
  refine saturate_mono (Int.mul_le_mul_of_nonneg_right ?_ (by decide))
  exact Int.mul_le_mul_of_nonneg_left le forward

end Wheel

namespace Event

/-- On any screen with positive extents a wheel turn resolves, and its data are the product of
amount, rotation and 120, cut once to 32 bits. They have the sign of the product, do not change when
amount and rotation are exchanged, and grow with the rotation if the amount is not negative. -/
theorem wheel_turns_exactly (h : Host σ) (s : Standing σ) (turn : WheelTurn) (mask : ModifierMask)
    (width : 0 < (h.screen s.queries).width) (height : 0 < (h.screen s.queries).height) :
    ∃ input : MouseInput,
      (resolve ⟨.mouseWheel turn, mask⟩ |>.run h s).value = .ok (some (.mouse input)) ∧
      input.flags = .wheel ∧
      input.data.toInt =
        max (-2147483648) (min (turn.amount.toInt * turn.rotation.toInt * 120) 2147483647) ∧
      (input.data = 0 ↔ turn.amount = 0 ∨ turn.rotation = 0) ∧
      input.data.toInt.sign = (turn.amount.toInt * turn.rotation.toInt).sign ∧
      ∀ (h' : Host σ) (s' : Standing σ) (turn' : WheelTurn) (mask' : ModifierMask) input',
        (resolve ⟨.mouseWheel turn', mask'⟩ |>.run h' s').value = .ok (some (.mouse input')) →
        (turn'.amount = turn.rotation → turn'.rotation = turn.amount →
          input'.data = input.data) ∧
        (turn'.amount = turn.amount → 0 ≤ turn.amount → turn.rotation ≤ turn'.rotation →
          input.data ≤ input'.data) := by
  have placed : (⟨.mouseWheel turn, mask⟩ : Event).payload.position? = some (turn.x, turn.y) := rfl
  obtain ⟨input, found, -, -⟩ := value_of_position h s placed width height
  obtain ⟨flags, data⟩ := said_of_resolved rfl ((value_resolve h _ s).symm.trans found)
  refine ⟨input, found, flags, ?_⟩
  rw [data]
  refine ⟨?_, Wheel.distance_eq_zero_iff _ _, Wheel.sign_distance _ _, ?_⟩
  · rw [Wheel.distance_eq_saturate, toInt_saturate]
  · intro h' s' turn' mask' input' found
    rw [value_resolve] at found
    rw [(said_of_resolved rfl found).2]
    constructor
    · intro amount rotation
      rw [amount, rotation, Wheel.distance_comm]
    · intro amount forward further
      rw [amount]
      exact Wheel.distance_le_distance forward further

theorem wheel_turns_exactly_past_range :
    let h : Host Nat :=
      ⟨Key.Layout.native, Extent.sequence [⟨1920, 1080⟩, ⟨1, 1⟩], Script.device ⟨[]⟩⟩
    let turn : Event := ⟨.mouseWheel ⟨0, 0, 2147483647, -2147483648⟩, .empty⟩
    let exchanged : Event := ⟨.mouseWheel ⟨5, 5, -2147483648, 2147483647⟩, .empty⟩
    let further : Event := ⟨.mouseWheel ⟨0, 0, 2147483647, 1⟩, .empty⟩
    let other : MouseInput := ⟨327681, 327681, -2147483648, .wheel⟩
    let ahead : MouseInput := ⟨-1, -1, 2147483647, .wheel⟩
    (0 < (h.screen 0).width ∧ 0 < (h.screen 0).height) ∧
    (exchanged.resolve.run h ⟨1, 0⟩).value = .ok (some (.mouse other)) ∧
    (further.resolve.run h ⟨1, 0⟩).value = .ok (some (.mouse ahead)) ∧
    ∃ input : MouseInput, (turn.resolve.run h ⟨0, 0⟩).value = .ok (some (.mouse input)) ∧
      input.data.toInt = -2147483648 ∧ other.data = input.data ∧ input.data ≤ ahead.data := by
  intro h turn exchanged further other ahead
  have width : 0 < (h.screen 0).width := by decide
  have height : 0 < (h.screen 0).height := by decide
  have found : (exchanged.resolve.run h ⟨1, 0⟩).value = .ok (some (.mouse other)) := by decide
  have found' : (further.resolve.run h ⟨1, 0⟩).value = .ok (some (.mouse ahead)) := by decide
  obtain ⟨input, resolved, -, product, -, -, others⟩ :=
    wheel_turns_exactly h ⟨0, 0⟩ ⟨0, 0, 2147483647, -2147483648⟩ .empty width height
  exact ⟨⟨width, height⟩, found, found', input, resolved, product.trans (by decide),
    (others h ⟨1, 0⟩ _ _ _ found).1 rfl rfl,
    (others h ⟨1, 0⟩ _ _ _ found').2 rfl (by decide) (by decide)⟩

end Event
end InputReplay

import InputReplay.Proofs.Layout
import InputReplay.Proofs.Verdict

/-! Presses and releases as mirrors of each other. The release of a key or a button resolves if its
press does, and to the same descriptor but for the bit that says which of the two it is. -/

namespace InputReplay

variable {σ : Type}

/-- A key release adds its bit to the press and leaves all else. -/
structure KeyInput.Releases (release press : KeyInput) : Prop where
  mirrored : release = { press with flags := press.flags ||| .keyUp }
  pressed : press.flags.isPress = true
  released : release.flags.isPress = false

/-- A button release differs in the flags alone, which are those of the same button and twice the
number of the press. -/
structure MouseInput.Releases (release press : MouseInput) : Prop where
  mirrored : release = { press with flags := release.flags }
  doubled : release.flags.bits.toNat = 2 * press.flags.bits.toNat
  matching : ∃ button : Button.Native,
    press.flags = button.flag .down ∧ release.flags = button.flag .up

namespace KeyInput

variable (code : UInt16) (mask : ModifierMask)

theorem isPress_ofNative (action : Button.Action) :
    (ofNative code mask action.direction).flags.isPress = (action == .down) := by
  unfold KeyFlags.isPress
  cases action with
  | down => rw [Button.Action.direction, (contains_keyUp_ofNative code mask).1]; rfl
  | up => rw [Button.Action.direction, (contains_keyUp_ofNative code mask).2]; rfl

theorem isExtended_ofNative (action : Button.Action) :
    (ofNative code mask action.direction).flags.isExtended =
      (mask.holdsShift && Key.Virtual.isNavigation code) := by
  unfold ofNative
  dsimp only
  split
  case isTrue extended => cases action <;> exact extended.symm
  case isFalse plain => cases action <;> exact (Bool.eq_false_iff.mpr plain).symm

theorem releases_ofNative {mask' : ModifierMask} (shift : mask.holdsShift = mask'.holdsShift) :
    (ofNative code mask' .keyUp).Releases (ofNative code mask .keyDown) where
  mirrored := by
    rw [← ofNative_congr shift]
    unfold ofNative
    dsimp only
    split <;> rfl
  pressed := isPress_ofNative code mask .down
  released := isPress_ofNative code mask' .up

end KeyInput

theorem Button.Native.releases (button : Native) (dx dy data : Int32) :
    MouseInput.Releases ⟨dx, dy, data, button.flag .up⟩ ⟨dx, dy, data, button.flag .down⟩ where
  mirrored := rfl
  doubled := by cases button <;> rfl
  matching := ⟨button, rfl, rfl⟩

namespace Event

theorem resolved_of_button {native : UInt16 → UInt16} {screen : Extent} {e : Event}
    {action : Button.Action} {ordinal : UInt16} {x y : Int32}
    (button : e.button? action = some ordinal) (placed : e.payload.position? = some (x, y)) :
    e.resolved native screen =
      (MouseInput.onScreen screen x y ((Button.Native.ofOrdinal ordinal).flag action)
        (Button.Native.ofOrdinal ordinal).data).map fun input => some (.mouse input) := by
  obtain ⟨x', y', placed', pointer⟩ := gesture_of_button button
  cases placed.symm.trans placed'
  rw [resolved, pointer]

/-- Releases mirror presses. A key release resolves to its press with the release bit, both extended
exactly if Shift is held and the key is one for navigation; on the layout these are the usages from
Insert to the arrow up. A button release fails if its press does, and otherwise says the same of the
same button. -/
theorem release_mirrors_press (h : Host σ) (s : Standing σ) :
    (∀ keycode raw raw' mask mask', mask.holdsShift = mask'.holdsShift →
      ∃ press release : KeyInput,
        (resolve ⟨.keyPressed ⟨keycode, raw⟩, mask⟩ |>.run h s).value =
          .ok (some (.keyboard press)) ∧
        (resolve ⟨.keyReleased ⟨keycode, raw'⟩, mask'⟩ |>.run h s).value =
          .ok (some (.keyboard release)) ∧
        release.Releases press ∧
        ∀ input ∈ [press, release],
          (input.flags.isExtended ↔
            mask.holdsShift ∧ h.native keycode ∈ Key.Virtual.navigation) ∧
          (h.native = Key.Layout.native →
            (input.flags.isExtended ↔ mask.holdsShift ∧ 0x49 ≤ keycode ∧ keycode ≤ 0x52))) ∧
    ∀ point mask mask',
      let pressed := (resolve ⟨.mousePressed point, mask⟩ |>.run h s).value
      let released := (resolve ⟨.mouseReleased point, mask'⟩ |>.run h s).value
      (∃ cause, pressed = .error cause ∧ released = .error cause) ∨
      ∃ press release : MouseInput, pressed = .ok (some (.mouse press)) ∧
        released = .ok (some (.mouse release)) ∧ release.Releases press := by
  constructor
  · intro keycode raw raw' mask mask' shift
    refine ⟨.ofNative (h.native keycode) mask .keyDown, .ofNative (h.native keycode) mask' .keyUp,
      ?_, ?_, KeyInput.releases_ofNative _ _ shift, fun input member => ?_⟩
    · rw [value_resolve]
      rfl
    · rw [value_resolve]
      rfl
    · have extended : input.flags.isExtended =
          (mask.holdsShift && Key.Virtual.isNavigation (h.native keycode)) := by
        rcases List.mem_pair.mp member with rfl | rfl
        · exact KeyInput.isExtended_ofNative _ _ .down
        · rw [shift]
          exact KeyInput.isExtended_ofNative _ _ .up
      refine ⟨by simp [extended, Key.Virtual.isNavigation], fun layout => ?_⟩
      rw [extended, layout, Bool.and_eq_true, Key.Layout.isNavigation_native]
  · intro point mask mask' pressed released
    have down : button? .down ⟨.mousePressed point, mask⟩ = some point.button := rfl
    have up : button? .up ⟨.mouseReleased point, mask'⟩ = some point.button := rfl
    have press : pressed = _ := (value_resolve h _ s).trans (resolved_of_button down rfl)
    have release : released = _ := (value_resolve h _ s).trans (resolved_of_button up rfl)
    unfold MouseInput.onScreen at press release
    cases position : (h.screen s.queries).normalize point.x point.y with
    | error bad =>
      rw [position] at press release
      exact .inl ⟨.position bad, press, release⟩
    | ok place =>
      rw [position] at press release
      exact .inr ⟨_, _, press, release, Button.Native.releases _ place.1 place.2 _⟩

theorem release_mirrors_press_arrow :
    let h : Host Nat := ⟨Key.Layout.native, Extent.sequence [⟨0, 0⟩], Script.device ⟨[]⟩⟩
    let left : ModifierMask := ⟨ModifierMask.shiftLeft⟩
    let right : ModifierMask := ⟨ModifierMask.shiftRight⟩
    left.holdsShift = right.holdsShift ∧
    ∃ press release : KeyInput,
      ((keyPressed Key.Usage.arrowUp left).resolve.run h ⟨0, 0⟩).value =
        .ok (some (.keyboard press)) ∧
      ((keyReleased Key.Usage.arrowUp right).resolve.run h ⟨0, 0⟩).value =
        .ok (some (.keyboard release)) ∧
      release.Releases press ∧ press.flags.isExtended ∧ release.flags.isExtended := by
  intro h left right
  have shift : left.holdsShift = right.holdsShift := by decide
  obtain ⟨press, release, down, up, releases, extended⟩ :=
    (release_mirrors_press h ⟨0, 0⟩).1 Key.Usage.arrowUp none none left right shift
  refine ⟨shift, press, release, down, up, releases, ?_, ?_⟩
  · exact ((extended press (by simp)).2 rfl).mpr (by decide)
  · exact ((extended release (by simp)).2 rfl).mpr (by decide)

end Event
end InputReplay

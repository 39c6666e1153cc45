import InputReplay.Proofs.Books
import InputReplay.Proofs.Mirror

/-! Events told apart by their descriptors. On the key layout a key descriptor with a native code
says which key it is, in which direction, and for a navigation key whether Shift is held. -/

namespace InputReplay

variable {σ : Type}

theorem KeyInput.of_ofNative_eq {code code' : UInt16} {mask mask' : ModifierMask}
    {action action' : Button.Action}
    (same : ofNative code mask action.direction = ofNative code' mask' action'.direction) :
    code = code' ∧ action = action' ∧
      (Key.Virtual.isNavigation code = true → mask.holdsShift = mask'.holdsShift) := by
  have codes : code = code' := congrArg virtualKey same
  have presses := congrArg (fun input => input.flags.isPress) same
  have extended := congrArg (fun input => input.flags.isExtended) same
  rw [isPress_ofNative, isPress_ofNative] at presses
  rw [isExtended_ofNative, isExtended_ofNative, ← codes] at extended
  refine ⟨codes, ?_, fun navigation => ?_⟩
  · cases action <;> cases action' <;> first | rfl | cases presses
  · simpa only [navigation, Bool.and_true] using extended

namespace Event

theorem levels_of_key {native : UInt16 → UInt16} {screen : Extent} {e : Event}
    {action : Button.Action} {keycode : UInt16} (key : e.key? action = some keycode) :
    levels (e.consultation native screen) = if native keycode = 0 then [.warn] else [] := by
  simp only [consultation, gesture_of_key key]
  split <;> rfl

/-- On the key layout, events with one descriptor come from one key, or from the two Enter keys, in
one direction, under one state of Shift if it is a navigation key. This holds of descriptors with a
native code. A key without one still has a descriptor, and one warning is left. -/
theorem keys_stay_distinct (screen : Nat → Extent) (device : Device σ) (s s' : Standing σ)
    {e e' : Event} {action action' : Button.Action} {keycode keycode' : UInt16}
    (key : e.key? action = some keycode) (key' : e'.key? action' = some keycode') :
    let h : Host σ := ⟨Key.Layout.native, screen, device⟩
    let run := e.resolve.run h s
    (∀ input, run.value = .ok (some (.keyboard input)) →
      (e'.resolve.run h s').value = .ok (some (.keyboard input)) → input.virtualKey ≠ 0 →
      action = action' ∧
      (keycode = keycode' ∨ keycode = Key.Usage.enter ∧ keycode' = Key.Usage.numpadEnter ∨
        keycode = Key.Usage.numpadEnter ∧ keycode' = Key.Usage.enter) ∧
      (0x49 ≤ keycode ∧ keycode ≤ 0x52 → e.mask.holdsShift = e'.mask.holdsShift)) ∧
    ∃ input, run.value = .ok (some (.keyboard input)) ∧
      (input.virtualKey = 0 ↔ ¬Key.Layout.IsLaidOut keycode) ∧
      levels run.steps = (if Key.Layout.IsLaidOut keycode then [] else [.warn]) ∧
      (256 ≤ keycode → input.virtualKey = 0) := by
  intro h run
  have value : run.value = _ := (e.value_resolve h s).trans (resolved_of_key key)
  have value' := (e'.value_resolve h s').trans (resolved_of_key key')
  constructor
  · intro input found found' mapped
    rw [value, Except.ok.injEq, Option.some.injEq, Descriptor.keyboard.injEq] at found
    rw [value', Except.ok.injEq, Option.some.injEq, Descriptor.keyboard.injEq] at found'
    obtain ⟨codes, actions, shift⟩ := KeyInput.of_ofNative_eq (found.trans found'.symm)
    rw [← found] at mapped
    refine ⟨actions, Key.Layout.eq_or_enter_of_native_eq mapped codes, fun range => shift ?_⟩
    exact (Key.Layout.isNavigation_native keycode).mpr range
  · have unmapped : Key.Layout.native keycode = 0 ↔ ¬Key.Layout.IsLaidOut keycode := by
      rw [← Key.Layout.native_ne_zero_iff, not_not]
    refine ⟨_, value, unmapped, ?_, fun beyond => unmapped.mpr fun laidOut => ?_⟩
    · rw [show run = _ from e.run_resolve h s]
      simp only [levels_of_key key, h, unmapped, ite_not]
    · exact absurd laidOut.lt (Nat.not_lt.mpr beyond)

theorem keys_stay_distinct_enter :
    let screen := Extent.sequence [⟨0, 0⟩]
    let h : Host Nat := ⟨Key.Layout.native, screen, Script.device ⟨[]⟩⟩
    let main := keyReleased Key.Usage.enter .empty
    let pad := keyReleased Key.Usage.numpadEnter ⟨ModifierMask.shiftLeft⟩
    let gap := keyPressed 0x32 .empty
    let input : KeyInput := ⟨Key.Virtual.enter, 0, .keyUp⟩
    (main.key? .up = some Key.Usage.enter ∧ pad.key? .up = some Key.Usage.numpadEnter ∧
      gap.key? .down = some 0x32) ∧
    ((main.resolve.run h ⟨0, 0⟩).value = .ok (some (.keyboard input)) ∧
      (pad.resolve.run h ⟨0, 0⟩).value = .ok (some (.keyboard input)) ∧ input.virtualKey ≠ 0) ∧
    (Key.Usage.enter = Key.Usage.numpadEnter ∨
      Key.Usage.enter = Key.Usage.enter ∧ Key.Usage.numpadEnter = Key.Usage.numpadEnter ∨
      Key.Usage.enter = Key.Usage.numpadEnter ∧ Key.Usage.numpadEnter = Key.Usage.enter) ∧
    levels (gap.resolve.run h ⟨0, 0⟩).steps = [.warn] := by
  intro screen h main pad gap input
  have enter : main.key? .up = some Key.Usage.enter := rfl
  have other : pad.key? .up = some Key.Usage.numpadEnter := rfl
  have unused : gap.key? .down = some 0x32 := rfl
  have found : (main.resolve.run h ⟨0, 0⟩).value = .ok (some (.keyboard input)) := by decide
  have found' : (pad.resolve.run h ⟨0, 0⟩).value = .ok (some (.keyboard input)) := by decide
  have mapped : input.virtualKey ≠ 0 := by decide
  have one := (keys_stay_distinct screen h.device ⟨0, 0⟩ ⟨0, 0⟩ enter other).1
  obtain ⟨-, -, -, -, warned, -⟩ := keys_stay_distinct screen h.device ⟨0, 0⟩ ⟨0, 0⟩ unused unused
  exact ⟨⟨enter, other, unused⟩, ⟨found, found', mapped⟩, (one input found found' mapped).2.1,
    warned.trans (if_neg (by decide))⟩

end Event
end InputReplay

import InputReplay.Proofs.Resolved

/-! Presses and releases, of the keys and buttons that events name and of those that descriptors
name. What an event does, its descriptor does to the native key or button it stands for. -/

namespace InputReplay

inductive Button.Native
  | left
  | right
  | middle
  | extended (index : Int32)
  deriving DecidableEq

namespace Button.Native

def ofOrdinal : UInt16 → Native
  | 1 => left
  | 2 => right
  | 3 => middle
  | ordinal => extended (index ordinal)

def flag : Native → Action → MouseFlags
  | left, .down => .leftDown
  | left, .up => .leftUp
  | right, .down => .rightDown
  | right, .up => .rightUp
  | middle, .down => .middleDown
  | middle, .up => .middleUp
  | extended _, .down => .xDown
  | extended _, .up => .xUp

def data : Native → Int32
  | extended index => index
  | _ => 0

end Button.Native

theorem Button.encode_eq (ordinal : UInt16) (action : Action) :
    encode ordinal action =
      ((Native.ofOrdinal ordinal).flag action, (Native.ofOrdinal ordinal).data) := by
  unfold Native.ofOrdinal
  split
  case h_4 => cases action <;> simp [encode, Native.flag, Native.data]
  all_goals cases action <;> rfl

namespace Descriptor

def actsOnKey (action : Button.Action) (code : UInt16) : Descriptor → Bool
  | keyboard k =>
    k.virtualKey == code &&
      match action with
      | .down => !k.flags.contains .keyUp
      | .up => k.flags.contains .keyUp
  | mouse _ => false

def actsOnButton (action : Button.Action) (button : Button.Native) : Descriptor → Bool
  | keyboard _ => false
  | mouse m =>
    m.flags.contains (button.flag action) &&
      match button with
      | .extended index => m.data == index
      | _ => true

theorem actsOnButton_mouse (button named : Button.Native) (action done : Button.Action)
    (dx dy : Int32) :
    actsOnButton action named (.mouse ⟨dx, dy, button.data, button.flag done⟩) = true ↔
      done = action ∧ button = named := by
  cases button <;> cases named <;> cases action <;> cases done <;>
    simp +decide [actsOnButton, Button.Native.flag, Button.Native.data]

theorem actsOnButton_move_wheel (action : Button.Action) (button : Button.Native)
    {input : MouseInput} (flags : input.flags = .absolute ||| .move ∨ input.flags = .wheel) :
    actsOnButton action button (.mouse input) = false := by
  have absent : input.flags.contains (button.flag action) = false := by
    rcases flags with flags | flags
    all_goals
      rw [flags]
      cases button <;> cases action <;> simp only [Button.Native.flag] <;> decide
  simp [actsOnButton, absent]

end Descriptor

namespace KeyInput

@[simp] theorem virtualKey_ofNative (code : UInt16) (mask : ModifierMask) (direction : KeyFlags) :
    (ofNative code mask direction).virtualKey = code := rfl

theorem contains_keyUp_ofNative (code : UInt16) (mask : ModifierMask) :
    (ofNative code mask .keyDown).flags.contains .keyUp = false ∧
      (ofNative code mask .keyUp).flags.contains .keyUp = true := by
  unfold ofNative
  dsimp only
  split <;> decide

end KeyInput

namespace Event

def key? (action : Button.Action) (e : Event) : Option UInt16 :=
  match action, e.payload with
  | .down, .keyPressed k => some k.keycode
  | .up, .keyReleased k => some k.keycode
  | _, _ => none

def button? (action : Button.Action) (e : Event) : Option UInt16 :=
  match action, e.payload with
  | .down, .mousePressed p => some p.button
  | .up, .mouseReleased p => some p.button
  | _, _ => none

def actsOnKey (action : Button.Action) (keycode : UInt16) (e : Event) : Bool :=
  e.key? action == some keycode

def actsOnButton (action : Button.Action) (ordinal : UInt16) (e : Event) : Bool :=
  e.button? action == some ordinal

variable {native : UInt16 → UInt16} {screen : Extent} {e : Event} {d : Option Descriptor}

theorem actsOnKey_descriptor (resolved : e.resolved native screen = .ok d)
    (action : Button.Action) (code : UInt16) :
    (d.map (Descriptor.actsOnKey action code)).getD false =
      ((e.key? action).map native == some code) := by
  have shape := descriptor_of_resolved resolved
  obtain ⟨payload, mask⟩ := e
  cases payload with
  | keyPressed k =>
    change d = some (.keyboard (.ofNative (native k.keycode) mask .keyDown)) at shape
    have flags := (KeyInput.contains_keyUp_ofNative (native k.keycode) mask).1
    cases action <;> simp [shape, Descriptor.actsOnKey, key?, flags]
  | keyReleased k =>
    change d = some (.keyboard (.ofNative (native k.keycode) mask .keyUp)) at shape
    have flags := (KeyInput.contains_keyUp_ofNative (native k.keycode) mask).2
    cases action <;> simp [shape, Descriptor.actsOnKey, key?, flags]
  | hookEnabled | hookDisabled | keyTyped _ | mouseClicked _ | unrecognized _ =>
    change d = none at shape
    cases action <;> simp [shape, key?]
  | mousePressed _ | mouseReleased _ | mouseMoved _ | mouseDragged _ | mouseWheel _ =>
    obtain ⟨dx, dy, shape⟩ := shape
    cases action <;> simp [shape, Descriptor.actsOnKey, key?]

theorem actsOnButton_descriptor (resolved : e.resolved native screen = .ok d)
    (action : Button.Action) (button : Button.Native) :
    (d.map (Descriptor.actsOnButton action button)).getD false =
      ((e.button? action).map Button.Native.ofOrdinal == some button) := by
  have shape := descriptor_of_resolved resolved
  obtain ⟨payload, mask⟩ := e
  cases payload with
  | mousePressed p | mouseReleased p =>
    obtain ⟨dx, dy, shape⟩ := shape
    rw [Button.encode_eq] at shape
    rw [shape, Option.map_some, Option.getD_some, Bool.eq_iff_iff,
      Descriptor.actsOnButton_mouse]
    cases action <;> simp [button?]
  | mouseMoved _ | mouseDragged _ | mouseWheel _ =>
    obtain ⟨dx, dy, shape⟩ := shape
    rw [shape]
    cases action <;> simp [button?, Descriptor.actsOnButton_move_wheel]
  | hookEnabled | hookDisabled | keyTyped _ | mouseClicked _ | unrecognized _ =>
    change d = none at shape
    cases action <;> simp [shape, button?]
  | keyPressed _ | keyReleased _ =>
    change d = some (.keyboard _) at shape
    cases action <;> simp [shape, Descriptor.actsOnButton, button?]

end Event
end InputReplay

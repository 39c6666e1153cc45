import InputReplay.Native.Descriptor
import InputReplay.Value.Decode

/-! Values of native descriptors. -/

namespace InputReplay

def KeyFlags.toValue (f : KeyFlags) : Value := .int f.bits.toNat

def KeyFlags.read : Decoder KeyFlags := fun f v => (Decoder.u32 f v).map KeyFlags.mk

def MouseFlags.toValue (f : MouseFlags) : Value := .int f.bits.toNat

def MouseFlags.read : Decoder MouseFlags := fun f v => (Decoder.u32 f v).map MouseFlags.mk

namespace KeyInput

def blank : KeyInput := ⟨0, 0, .keyDown⟩

def layout : RecordLayout KeyInput where
  name := "KeyboardInput"
  blank := blank
  fields :=
    [.make "virtual_key" .required .u16 fun v k => { k with virtualKey := v },
     .make "scan_code" .required .u16 fun v k => { k with scanCode := v },
     .make "flags" .required KeyFlags.read fun v k => { k with flags := v }]

def read : Decoder KeyInput := layout.read

def toValue (k : KeyInput) : Value :=
  .map
    [("virtual_key", .int k.virtualKey.toNat), ("scan_code", .int k.scanCode.toNat),
     ("flags", k.flags.toValue)]

end KeyInput

namespace MouseInput

def blank : MouseInput := ⟨0, 0, 0, .empty⟩

def layout : RecordLayout MouseInput where
  name := "MouseInput"
  blank := blank
  fields :=
    [.make "dx" .required .i32 fun v m => { m with dx := v },
     .make "dy" .required .i32 fun v m => { m with dy := v },
     .make "mouse_data" .required .i32 fun v m => { m with data := v },
     .make "flags" .required MouseFlags.read fun v m => { m with flags := v }]

def read : Decoder MouseInput := layout.read

def toValue (m : MouseInput) : Value :=
  .map
    [("dx", .int m.dx.toInt), ("dy", .int m.dy.toInt), ("mouse_data", .int m.data.toInt),
     ("flags", m.flags.toValue)]

end MouseInput

namespace Descriptor

def choice : Choice Descriptor where
  alternatives :=
    [("Keyboard", .payload fun f v => (KeyInput.read f v).map keyboard),
     ("Mouse", .payload fun f v => (MouseInput.read f v).map mouse)]

def read : Decoder Descriptor := choice.read

def toValue : Descriptor → Value
  | keyboard k => .map [("Keyboard", k.toValue)]
  | mouse m => .map [("Mouse", m.toValue)]

end Descriptor
end InputReplay

import InputReplay.Text.Basic

/-! Native input descriptors: one record, for a key or for the mouse, as an input device takes it. Each
has a set of flags. A key press has no bit of its own: a key descriptor is a press when its release
bit is clear. -/

namespace InputReplay

structure KeyFlags where
  bits : UInt32
  deriving DecidableEq, Inhabited

namespace KeyFlags

def keyDown : KeyFlags := ⟨0x0000⟩
def extendedKey : KeyFlags := ⟨0x0001⟩
def keyUp : KeyFlags := ⟨0x0002⟩

def named : List (String × KeyFlags) :=
  [("KEYDOWN", keyDown), ("EXTENDEDKEY", extendedKey), ("KEYUP", keyUp)]

instance : OrOp KeyFlags := ⟨fun a b => ⟨a.bits ||| b.bits⟩⟩

/-- Adds the flags of `b` to a set in place. -/
def raise (b : KeyFlags) : StateM KeyFlags Unit := modify fun a => ⟨a.bits ||| b.bits⟩

/-- Whether every flag of `b` is in `a`. -/
def contains (a b : KeyFlags) : Bool := a.bits &&& b.bits == b.bits

def isPress (a : KeyFlags) : Bool := !a.contains keyUp

def isExtended (a : KeyFlags) : Bool := a.contains extendedKey

end KeyFlags

structure MouseFlags where
  bits : UInt32
  deriving DecidableEq, Inhabited

namespace MouseFlags

def move : MouseFlags := ⟨0x0001⟩
def leftDown : MouseFlags := ⟨0x0002⟩
def leftUp : MouseFlags := ⟨0x0004⟩
def rightDown : MouseFlags := ⟨0x0008⟩
def rightUp : MouseFlags := ⟨0x0010⟩
def middleDown : MouseFlags := ⟨0x0020⟩
def middleUp : MouseFlags := ⟨0x0040⟩
def xDown : MouseFlags := ⟨0x0080⟩
def xUp : MouseFlags := ⟨0x0100⟩
def wheel : MouseFlags := ⟨0x0800⟩
def absolute : MouseFlags := ⟨0x8000⟩
def empty : MouseFlags := ⟨0⟩

def named : List (String × MouseFlags) :=
  [("MOVE", move), ("LEFTDOWN", leftDown), ("LEFTUP", leftUp), ("RIGHTDOWN", rightDown),
   ("RIGHTUP", rightUp), ("MIDDLEDOWN", middleDown), ("MIDDLEUP", middleUp), ("XDOWN", xDown),
   ("XUP", xUp), ("WHEEL", wheel), ("ABSOLUTE", absolute)]

instance : OrOp MouseFlags := ⟨fun a b => ⟨a.bits ||| b.bits⟩⟩

def raise (b : MouseFlags) : StateM MouseFlags Unit := modify fun a => ⟨a.bits ||| b.bits⟩

/-- Whether every flag of `b` is in `a`. -/
def contains (a b : MouseFlags) : Bool := a.bits &&& b.bits == b.bits

def intersects (a b : MouseFlags) : Bool := a.bits &&& b.bits != 0

end MouseFlags

/-- A virtual key with its direction. The scan code stays 0: keys are injected by virtual key. -/
structure KeyInput where
  virtualKey : UInt16
  scanCode : UInt16
  flags : KeyFlags
  deriving DecidableEq, Inhabited

/-- A pointer position in device units with what happens there. `data` is the wheel distance or
the index of an extended button, as the flags say, and otherwise 0. -/
structure MouseInput where
  dx : Int32
  dy : Int32
  data : Int32
  flags : MouseFlags
  deriving DecidableEq, Inhabited

inductive Descriptor
  | keyboard (input : KeyInput)
  | mouse (input : MouseInput)
  deriving DecidableEq, Inhabited

namespace Descriptor

def keyboard? : Descriptor → Option KeyInput
  | keyboard k => some k
  | mouse _ => none

def mouse? : Descriptor → Option MouseInput
  | mouse m => some m
  | keyboard _ => none

end Descriptor

def KeyFlags.text (f : KeyFlags) : String :=
  Text.applied "KeyFlags" (toString f.bits.toNat)

def MouseFlags.text (f : MouseFlags) : String :=
  Text.applied "MouseFlags" (toString f.bits.toNat)

def KeyInput.text (k : KeyInput) : String :=
  Text.group "KeyboardInput"
    [("virtual_key", toString k.virtualKey.toNat), ("scan_code", toString k.scanCode.toNat),
     ("flags", k.flags.text)]

def MouseInput.text (m : MouseInput) : String :=
  Text.group "MouseInput"
    [("dx", toString m.dx.toInt), ("dy", toString m.dy.toInt),
     ("mouse_data", toString m.data.toInt), ("flags", m.flags.text)]

def Descriptor.text : Descriptor → String
  | keyboard k => Text.applied "Keyboard" k.text
  | mouse m => Text.applied "Mouse" m.text

end InputReplay

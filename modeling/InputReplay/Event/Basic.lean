import InputReplay.Text.Basic

/-! Abstract input events: what happened, in platform-independent terms, and the modifier state it
happened under. Kinds are numbered 1 to 11 on the capture wire; any other number is an
unrecognized payload that keeps its number. Left and right modifier keys have bits of their own; a
modifier counts as held when either side is. -/

namespace InputReplay

structure ModifierMask where
  bits : UInt16
  deriving DecidableEq, Inhabited

namespace ModifierMask

def shiftLeft : UInt16 := 0x0001
def ctrlLeft : UInt16 := 0x0002
def metaLeft : UInt16 := 0x0004
def altLeft : UInt16 := 0x0008
def shiftRight : UInt16 := 0x0010
def ctrlRight : UInt16 := 0x0020
def metaRight : UInt16 := 0x0040
def altRight : UInt16 := 0x0080
def shiftBits : UInt16 := shiftLeft ||| shiftRight
def ctrlBits : UInt16 := ctrlLeft ||| ctrlRight
def metaBits : UInt16 := metaLeft ||| metaRight
def altBits : UInt16 := altLeft ||| altRight
def button1 : UInt16 := 0x0100
def button2 : UInt16 := 0x0200
def button3 : UInt16 := 0x0400
def button4 : UInt16 := 0x0800
def button5 : UInt16 := 0x1000
def numLock : UInt16 := 0x2000
def capsLock : UInt16 := 0x4000
def scrollLock : UInt16 := 0x8000

/-- The published name of every bit and of every pair of sides. -/
def named : List (String × UInt16) :=
  [("SHIFT_L", shiftLeft), ("CTRL_L", ctrlLeft), ("META_L", metaLeft), ("ALT_L", altLeft),
   ("SHIFT_R", shiftRight), ("CTRL_R", ctrlRight), ("META_R", metaRight), ("ALT_R", altRight),
   ("SHIFT", shiftBits), ("CTRL", ctrlBits), ("META", metaBits), ("ALT", altBits),
   ("BUTTON1", button1), ("BUTTON2", button2), ("BUTTON3", button3), ("BUTTON4", button4),
   ("BUTTON5", button5), ("NUM_LOCK", numLock), ("CAPS_LOCK", capsLock),
   ("SCROLL_LOCK", scrollLock)]

def empty : ModifierMask := ⟨0⟩

def add (m : ModifierMask) (bits : UInt16) : ModifierMask := ⟨m.bits ||| bits⟩

def intersects (m : ModifierMask) (bits : UInt16) : Bool := m.bits &&& bits != 0

def holdsShift (m : ModifierMask) : Bool := m.intersects shiftBits
def holdsCtrl (m : ModifierMask) : Bool := m.intersects ctrlBits
def holdsAlt (m : ModifierMask) : Bool := m.intersects altBits
def holdsMeta (m : ModifierMask) : Bool := m.intersects metaBits

end ModifierMask

/-- A key, named by its logical code. The raw code is what the hardware sent, if known. -/
structure KeyStroke where
  keycode : UInt16
  rawcode : Option UInt16
  deriving DecidableEq, Inhabited

/-- A pixel position, and the ordinal of a button (1 left, 2 right, 3 middle, 4 up extended).
Motion carries button 0. -/
structure PointerPoint where
  x : Int32
  y : Int32
  button : UInt16
  deriving DecidableEq, Inhabited

/-- A wheel turned by `amount` detents at a pixel position, `rotation` giving the direction. -/
structure WheelTurn where
  x : Int32
  y : Int32
  amount : Int32
  rotation : Int32
  deriving DecidableEq, Inhabited

inductive Kind
  | hookEnabled
  | hookDisabled
  | keyTyped
  | keyPressed
  | keyReleased
  | mouseClicked
  | mousePressed
  | mouseReleased
  | mouseMoved
  | mouseDragged
  | mouseWheel
  deriving DecidableEq, Inhabited

namespace Kind

def all : List Kind :=
  [hookEnabled, hookDisabled, keyTyped, keyPressed, keyReleased, mouseClicked, mousePressed,
   mouseReleased, mouseMoved, mouseDragged, mouseWheel]

def name : Kind → String
  | hookEnabled => "HookEnabled"
  | hookDisabled => "HookDisabled"
  | keyTyped => "KeyTyped"
  | keyPressed => "KeyPressed"
  | keyReleased => "KeyReleased"
  | mouseClicked => "MouseClicked"
  | mousePressed => "MousePressed"
  | mouseReleased => "MouseReleased"
  | mouseMoved => "MouseMoved"
  | mouseDragged => "MouseDragged"
  | mouseWheel => "MouseWheel"

/-- The number of a kind on the capture wire. -/
def number : Kind → UInt32
  | hookEnabled => 1
  | hookDisabled => 2
  | keyTyped => 3
  | keyPressed => 4
  | keyReleased => 5
  | mouseClicked => 6
  | mousePressed => 7
  | mouseReleased => 8
  | mouseMoved => 9
  | mouseDragged => 10
  | mouseWheel => 11

def ofNumber? : UInt32 → Option Kind
  | 1 => some hookEnabled
  | 2 => some hookDisabled
  | 3 => some keyTyped
  | 4 => some keyPressed
  | 5 => some keyReleased
  | 6 => some mouseClicked
  | 7 => some mousePressed
  | 8 => some mouseReleased
  | 9 => some mouseMoved
  | 10 => some mouseDragged
  | 11 => some mouseWheel
  | _ => none

theorem ofNumber?_number (k : Kind) : ofNumber? k.number = some k := by
  cases k <;> rfl

theorem ofNumber?_eq_some_iff {n : UInt32} {k : Kind} : ofNumber? n = some k ↔ k.number = n := by
  constructor
  · intro known
    unfold ofNumber? at known
    split at known <;> cases known <;> rfl
  · rintro rfl
    exact ofNumber?_number k

end Kind

/-- What happened, with the data its kind carries. -/
inductive Payload
  | hookEnabled
  | hookDisabled
  | keyTyped (key : KeyStroke)
  | keyPressed (key : KeyStroke)
  | keyReleased (key : KeyStroke)
  | mouseClicked (point : PointerPoint)
  | mousePressed (point : PointerPoint)
  | mouseReleased (point : PointerPoint)
  | mouseMoved (point : PointerPoint)
  | mouseDragged (point : PointerPoint)
  | mouseWheel (turn : WheelTurn)
  | unrecognized (number : UInt32)
  deriving DecidableEq, Inhabited

namespace Payload

def kind? : Payload → Option Kind
  | hookEnabled => some .hookEnabled
  | hookDisabled => some .hookDisabled
  | keyTyped _ => some .keyTyped
  | keyPressed _ => some .keyPressed
  | keyReleased _ => some .keyReleased
  | mouseClicked _ => some .mouseClicked
  | mousePressed _ => some .mousePressed
  | mouseReleased _ => some .mouseReleased
  | mouseMoved _ => some .mouseMoved
  | mouseDragged _ => some .mouseDragged
  | mouseWheel _ => some .mouseWheel
  | unrecognized _ => none

def number : Payload → UInt32
  | unrecognized n => n
  | known => (known.kind?.map Kind.number).getD 0

end Payload

structure Event where
  payload : Payload
  mask : ModifierMask
  deriving DecidableEq, Inhabited

namespace Event

def keyPressed (keycode : UInt16) (mask : ModifierMask) : Event :=
  ⟨.keyPressed ⟨keycode, none⟩, mask⟩

def keyReleased (keycode : UInt16) (mask : ModifierMask) : Event :=
  ⟨.keyReleased ⟨keycode, none⟩, mask⟩

def mousePressed (x y : Int32) (button : UInt16) : Event :=
  ⟨.mousePressed ⟨x, y, button⟩, .empty⟩

def mouseReleased (x y : Int32) (button : UInt16) : Event :=
  ⟨.mouseReleased ⟨x, y, button⟩, .empty⟩

def mouseMoved (x y : Int32) : Event :=
  ⟨.mouseMoved ⟨x, y, 0⟩, .empty⟩

/-- A wheel turn at the origin. -/
def mouseWheel (amount rotation : Int32) : Event :=
  ⟨.mouseWheel ⟨0, 0, amount, rotation⟩, .empty⟩

def number (e : Event) : UInt32 := e.payload.number

end Event

end InputReplay

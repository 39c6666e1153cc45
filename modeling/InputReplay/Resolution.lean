import InputReplay.Event.Record
import InputReplay.Host.Run
import InputReplay.Key
import InputReplay.Pointer

/-! Resolving an event: at most one native descriptor for it. Keys go by the host's key mapping and
never touch the screen; pointer events ask for the screen size once each, so that a change of
resolution takes effect at once; notifications resolve to nothing. -/

namespace InputReplay

/-- What a payload asks of the native side. -/
inductive Gesture
  | none
  | unknown (number : UInt32)
  | key (direction : KeyFlags) (keycode : UInt16)
  | pointer (x y : Int32) (flags : MouseFlags) (data : Int32)
  deriving DecidableEq

namespace Gesture

def button (point : PointerPoint) (action : Button.Action) : Gesture :=
  pointer point.x point.y (Button.encode point.button action).1
    (Button.encode point.button action).2

/-- Motion to an absolute position. A drag is plain motion: its buttons are in the mask. -/
def motion (point : PointerPoint) : Gesture :=
  pointer point.x point.y (.absolute ||| .move) 0

def wheel (turn : WheelTurn) : Gesture :=
  pointer turn.x turn.y .wheel (Wheel.distance turn.amount turn.rotation)

end Gesture

def Payload.gesture : Payload → Gesture
  | hookEnabled | hookDisabled | keyTyped _ | mouseClicked _ => .none
  | keyPressed k => .key .keyDown k.keycode
  | keyReleased k => .key .keyUp k.keycode
  | mousePressed p => .button p .down
  | mouseReleased p => .button p .up
  | mouseMoved p | mouseDragged p => .motion p
  | mouseWheel w => .wheel w
  | unrecognized n => .unknown n

/-- A key descriptor. Navigation keys under Shift carry the extended flag. -/
def KeyInput.ofNative (code : UInt16) (mask : ModifierMask) (direction : KeyFlags) : KeyInput :=
  ⟨code, 0,
    if mask.holdsShift && Key.Virtual.isNavigation code then direction ||| .extendedKey
    else direction⟩

def MouseInput.onScreen (screen : Extent) (x y : Int32) (flags : MouseFlags) (data : Int32) :
    Except ResolveError MouseInput :=
  match screen.normalize x y with
  | .error e => .error (.position e)
  | .ok (dx, dy) => .ok ⟨dx, dy, data, flags⟩

namespace Event

/-- The descriptor of an event, if it has one. A key without a native code still has one, with
code 0, and leaves a warning. -/
def resolve (e : Event) : Dialogue (Except ResolveError (Option Descriptor)) :=
  match e.payload.gesture with
  | .none => return .ok none
  | .unknown number => do
    .leave (.unrecognized number)
    return .ok none
  | .key direction keycode => do
    let code ← .askNative keycode
    if code = 0 then .leave (.unmapped keycode)
    return .ok (some (.keyboard (.ofNative code e.mask direction)))
  | .pointer x y flags data => do
    let screen ← .askExtent
    return (MouseInput.onScreen screen x y flags data).map fun input => some (.mouse input)

/-- As `resolve`, but an event that cannot be resolved is noted and dropped. -/
def resolveOrDrop (e : Event) : Dialogue (Option Descriptor) := do
  match ← e.resolve with
  | .ok descriptor => return descriptor
  | .error cause =>
    .leave (.dropped .resolution e.number cause)
    return none

end Event
end InputReplay

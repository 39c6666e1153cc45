import InputReplay.Event.Record

/-! One-line text of events and records. -/

namespace InputReplay

def ModifierMask.text (m : ModifierMask) : String :=
  Text.applied "ModifierMask" (toString m.bits.toNat)

def KeyStroke.text (k : KeyStroke) : String :=
  Text.group "KeyboardData"
    [("keycode", toString k.keycode.toNat),
     ("rawcode", Text.optional (k.rawcode.map fun c => toString c.toNat))]

def PointerPoint.text (p : PointerPoint) : String :=
  Text.group "MouseData"
    [("x", toString p.x.toInt), ("y", toString p.y.toInt), ("button", toString p.button.toNat)]

def WheelTurn.text (w : WheelTurn) : String :=
  Text.group "WheelData"
    [("x", toString w.x.toInt), ("y", toString w.y.toInt),
     ("amount", toString w.amount.toInt), ("rotation", toString w.rotation.toInt)]

def Payload.text : Payload → String
  | hookEnabled => "HookEnabled"
  | hookDisabled => "HookDisabled"
  | keyTyped k => Text.applied "KeyTyped" k.text
  | keyPressed k => Text.applied "KeyPressed" k.text
  | keyReleased k => Text.applied "KeyReleased" k.text
  | mouseClicked p => Text.applied "MouseClicked" p.text
  | mousePressed p => Text.applied "MousePressed" p.text
  | mouseReleased p => Text.applied "MouseReleased" p.text
  | mouseMoved p => Text.applied "MouseMoved" p.text
  | mouseDragged p => Text.applied "MouseDragged" p.text
  | mouseWheel w => Text.applied "MouseWheel" w.text
  | unrecognized n => Text.group "Unrecognized" [("kind", toString n.toNat)]

def Event.text (e : Event) : String :=
  Text.group "AbstractInputEvent" [("payload", e.payload.text), ("mask", e.mask.text)]

def DataBlock.text (d : DataBlock) : String :=
  Text.group "WireData"
    [("keycode", toString d.keycode.toNat),
     ("rawcode", Text.optional (d.rawcode.map fun c => toString c.toNat)),
     ("x", toString d.x.toInt), ("y", toString d.y.toInt), ("button", toString d.button.toNat),
     ("amount", toString d.amount.toInt), ("rotation", toString d.rotation.toInt)]

def Record.text (r : Record) : String :=
  Text.group "WireEvent"
    [("kind", toString r.kind.toNat), ("mask", r.mask.text), ("data", r.data.text)]

end InputReplay

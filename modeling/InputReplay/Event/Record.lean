import InputReplay.Event.Basic

/-! Capture records: a kind number, a modifier mask and one data block shared by every kind. A kind
reads only the fields it uses, and a record made from an event leaves the other fields zero. -/

namespace InputReplay

/-- The fields that any kind of record may use. -/
structure DataBlock where
  keycode : UInt16
  rawcode : Option UInt16
  x : Int32
  y : Int32
  button : UInt16
  amount : Int32
  rotation : Int32
  deriving DecidableEq, Inhabited

namespace DataBlock

def blank : DataBlock := ⟨0, none, 0, 0, 0, 0, 0⟩

def key (d : DataBlock) : KeyStroke := ⟨d.keycode, d.rawcode⟩

def point (d : DataBlock) : PointerPoint := ⟨d.x, d.y, d.button⟩

def turn (d : DataBlock) : WheelTurn := ⟨d.x, d.y, d.amount, d.rotation⟩

def ofKey (k : KeyStroke) : DataBlock :=
  { blank with keycode := k.keycode, rawcode := k.rawcode }

def ofPoint (p : PointerPoint) : DataBlock :=
  { blank with x := p.x, y := p.y, button := p.button }

def ofTurn (w : WheelTurn) : DataBlock :=
  { blank with x := w.x, y := w.y, amount := w.amount, rotation := w.rotation }

end DataBlock

structure Record where
  kind : UInt32
  mask : ModifierMask
  data : DataBlock
  deriving DecidableEq, Inhabited

def Kind.payload (d : DataBlock) : Kind → Payload
  | hookEnabled => .hookEnabled
  | hookDisabled => .hookDisabled
  | keyTyped => .keyTyped d.key
  | keyPressed => .keyPressed d.key
  | keyReleased => .keyReleased d.key
  | mouseClicked => .mouseClicked d.point
  | mousePressed => .mousePressed d.point
  | mouseReleased => .mouseReleased d.point
  | mouseMoved => .mouseMoved d.point
  | mouseDragged => .mouseDragged d.point
  | mouseWheel => .mouseWheel d.turn

namespace Payload

def ofNumber (n : UInt32) (d : DataBlock) : Payload :=
  match Kind.ofNumber? n with
  | some k => k.payload d
  | none => .unrecognized n

/-- The data block that holds just the fields this payload uses. -/
def data : Payload → DataBlock
  | keyTyped k | keyPressed k | keyReleased k => .ofKey k
  | mouseClicked p | mousePressed p | mouseReleased p | mouseMoved p | mouseDragged p => .ofPoint p
  | mouseWheel w => .ofTurn w
  | hookEnabled | hookDisabled | unrecognized _ => .blank

end Payload

namespace Event

def ofRecord (r : Record) : Event :=
  ⟨.ofNumber r.kind r.data, r.mask⟩

def toRecord (e : Event) : Record :=
  ⟨e.number, e.mask, e.payload.data⟩

end Event
end InputReplay

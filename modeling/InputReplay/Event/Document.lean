import InputReplay.Event.Record
import InputReplay.Toml.Document
import InputReplay.Value.Decode

/-! Values of events and records, and their TOML documents: kind and mask, then a table with the data
block. An event is written as its record, so an event of an unrecognized kind is still read. -/

namespace InputReplay

def ModifierMask.toValue (m : ModifierMask) : Value := .int m.bits.toNat

def ModifierMask.read : Decoder ModifierMask := fun f v => (Decoder.u16 f v).map ModifierMask.mk

namespace DataBlock

def layout : RecordLayout DataBlock where
  name := "WireData"
  blank := .blank
  fields :=
    [.make "keycode" .optional .u16 fun v d => { d with keycode := v },
     .make "rawcode" .optional (.nullable .u16) fun v d => { d with rawcode := v },
     .make "x" .optional .i32 fun v d => { d with x := v },
     .make "y" .optional .i32 fun v d => { d with y := v },
     .make "button" .optional .u16 fun v d => { d with button := v },
     .make "amount" .optional .i32 fun v d => { d with amount := v },
     .make "rotation" .optional .i32 fun v d => { d with rotation := v }]

def read : Decoder DataBlock := layout.read

def toValue (d : DataBlock) : Value :=
  .map
    [("keycode", .int d.keycode.toNat),
     ("rawcode", .optional (d.rawcode.map fun c => c.toNat)),
     ("x", .int d.x.toInt), ("y", .int d.y.toInt), ("button", .int d.button.toNat),
     ("amount", .int d.amount.toInt), ("rotation", .int d.rotation.toInt)]

end DataBlock

namespace Record

def layout : RecordLayout Record where
  name := "WireEvent"
  blank := ⟨0, .empty, .blank⟩
  fields :=
    [.make "kind" .required .u32 fun v r => { r with kind := v },
     .make "mask" .optional ModifierMask.read fun v r => { r with mask := v },
     .make "data" .optional DataBlock.read fun v r => { r with data := v }]

def read : Decoder Record := layout.read

def toValue (r : Record) : Value :=
  .map [("kind", .int r.kind.toNat), ("mask", r.mask.toValue), ("data", r.data.toValue)]

end Record

namespace Event

def read : Decoder Event := fun f v => (Record.read f v).map ofRecord

def toValue (e : Event) : Value := e.toRecord.toValue

end Event

namespace KeyStroke

def layout : RecordLayout KeyStroke where
  name := "KeyboardData"
  blank := ⟨0, none⟩
  fields :=
    [.make "keycode" .required .u16 fun v k => { k with keycode := v },
     .make "rawcode" .optionalByName (.nullable .u16) fun v k => { k with rawcode := v }]

def read : Decoder KeyStroke := layout.read

def toValue (k : KeyStroke) : Value :=
  .map
    [("keycode", .int k.keycode.toNat), ("rawcode", .optional (k.rawcode.map fun c => c.toNat))]

end KeyStroke

namespace PointerPoint

def layout : RecordLayout PointerPoint where
  name := "MouseData"
  blank := ⟨0, 0, 0⟩
  fields :=
    [.make "x" .required .i32 fun v p => { p with x := v },
     .make "y" .required .i32 fun v p => { p with y := v },
     .make "button" .required .u16 fun v p => { p with button := v }]

def read : Decoder PointerPoint := layout.read

def toValue (p : PointerPoint) : Value :=
  .map [("x", .int p.x.toInt), ("y", .int p.y.toInt), ("button", .int p.button.toNat)]

end PointerPoint

namespace WheelTurn

def layout : RecordLayout WheelTurn where
  name := "WheelData"
  blank := ⟨0, 0, 0, 0⟩
  fields :=
    [.make "x" .required .i32 fun v w => { w with x := v },
     .make "y" .required .i32 fun v w => { w with y := v },
     .make "amount" .required .i32 fun v w => { w with amount := v },
     .make "rotation" .required .i32 fun v w => { w with rotation := v }]

def read : Decoder WheelTurn := layout.read

def toValue (w : WheelTurn) : Value :=
  .map
    [("x", .int w.x.toInt), ("y", .int w.y.toInt), ("amount", .int w.amount.toInt),
     ("rotation", .int w.rotation.toInt)]

end WheelTurn

namespace Kind

def choice : Choice Kind := ⟨all.map fun k => (k.name, .bare k)⟩

def read : Decoder Kind := choice.read

def toValue (k : Kind) : Value := .string k.name

end Kind

namespace Payload

def unrecognizedLayout : RecordLayout UInt32 where
  name := "Unrecognized"
  blank := 0
  fields := [.make "kind" .required .u32 fun v _ => v]

def choice : Choice Payload where
  alternatives :=
    [("HookEnabled", .bare .hookEnabled),
     ("HookDisabled", .bare .hookDisabled),
     ("KeyTyped", .payload fun f v => (KeyStroke.read f v).map keyTyped),
     ("KeyPressed", .payload fun f v => (KeyStroke.read f v).map keyPressed),
     ("KeyReleased", .payload fun f v => (KeyStroke.read f v).map keyReleased),
     ("MouseClicked", .payload fun f v => (PointerPoint.read f v).map mouseClicked),
     ("MousePressed", .payload fun f v => (PointerPoint.read f v).map mousePressed),
     ("MouseReleased", .payload fun f v => (PointerPoint.read f v).map mouseReleased),
     ("MouseMoved", .payload fun f v => (PointerPoint.read f v).map mouseMoved),
     ("MouseDragged", .payload fun f v => (PointerPoint.read f v).map mouseDragged),
     ("MouseWheel", .payload fun f v => (WheelTurn.read f v).map mouseWheel),
     ("Unrecognized", .labelled fun f v => (unrecognizedLayout.read f v).map unrecognized)]

def read : Decoder Payload := choice.read

def toValue : Payload → Value
  | hookEnabled => .string "HookEnabled"
  | hookDisabled => .string "HookDisabled"
  | keyTyped k => .map [("KeyTyped", k.toValue)]
  | keyPressed k => .map [("KeyPressed", k.toValue)]
  | keyReleased k => .map [("KeyReleased", k.toValue)]
  | mouseClicked p => .map [("MouseClicked", p.toValue)]
  | mousePressed p => .map [("MousePressed", p.toValue)]
  | mouseReleased p => .map [("MouseReleased", p.toValue)]
  | mouseMoved p => .map [("MouseMoved", p.toValue)]
  | mouseDragged p => .map [("MouseDragged", p.toValue)]
  | mouseWheel w => .map [("MouseWheel", w.toValue)]
  | unrecognized n => .map [("Unrecognized", .map [("kind", .int n.toNat)])]

end Payload

/-- An absent raw code is left out. -/
def DataBlock.toTable (d : DataBlock) : Toml.Table :=
  ⟨"data",
    [("keycode", .int d.keycode.toNat)] ++
    (d.rawcode.map fun c => ("rawcode", Toml.Plain.int c.toNat)).toList ++
    [("x", .int d.x.toInt), ("y", .int d.y.toInt), ("button", .int d.button.toNat),
     ("amount", .int d.amount.toInt), ("rotation", .int d.rotation.toInt)]⟩

def Record.toDocument (r : Record) : Toml.Document :=
  ⟨[("kind", .int r.kind.toNat), ("mask", .int r.mask.bits.toNat)], [r.data.toTable]⟩

namespace Event

def toToml (e : Event) : String := e.toRecord.toDocument.text

def ofToml (text : String) : Except ParseError Event := Event.read.ofToml text

end Event

end InputReplay

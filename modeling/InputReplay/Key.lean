/-! The layout that takes logical key codes to native ones. Letters, digits, function keys and the
number pad go by ranges, all other keys one by one; a code with no native key goes to 0. -/

namespace InputReplay

namespace Key.Usage

def keyA : UInt16 := 0x04
def keyZ : UInt16 := 0x1D
def digit1 : UInt16 := 0x1E
def digit0 : UInt16 := 0x27
def enter : UInt16 := 0x28
def escape : UInt16 := 0x29
def backspace : UInt16 := 0x2A
def tab : UInt16 := 0x2B
def space : UInt16 := 0x2C
def minus : UInt16 := 0x2D
def equal : UInt16 := 0x2E
def bracketLeft : UInt16 := 0x2F
def bracketRight : UInt16 := 0x30
def backslash : UInt16 := 0x31
def semicolon : UInt16 := 0x33
def quote : UInt16 := 0x34
def backquote : UInt16 := 0x35
def comma : UInt16 := 0x36
def period : UInt16 := 0x37
def slash : UInt16 := 0x38
def capsLock : UInt16 := 0x39
def f1 : UInt16 := 0x3A
def f12 : UInt16 := 0x45
def printScreen : UInt16 := 0x46
def scrollLock : UInt16 := 0x47
def pause : UInt16 := 0x48
def insert : UInt16 := 0x49
def home : UInt16 := 0x4A
def pageUp : UInt16 := 0x4B
def delete : UInt16 := 0x4C
def endKey : UInt16 := 0x4D
def pageDown : UInt16 := 0x4E
def arrowRight : UInt16 := 0x4F
def arrowLeft : UInt16 := 0x50
def arrowDown : UInt16 := 0x51
def arrowUp : UInt16 := 0x52
def numLock : UInt16 := 0x53
def numpadDivide : UInt16 := 0x54
def numpadMultiply : UInt16 := 0x55
def numpadSubtract : UInt16 := 0x56
def numpadAdd : UInt16 := 0x57
def numpadEnter : UInt16 := 0x58
def numpad1 : UInt16 := 0x59
def numpad0 : UInt16 := 0x62
def numpadDecimal : UInt16 := 0x63
def contextMenu : UInt16 := 0x65
def controlLeft : UInt16 := 0xE0
def shiftLeft : UInt16 := 0xE1
def altLeft : UInt16 := 0xE2
def metaLeft : UInt16 := 0xE3
def controlRight : UInt16 := 0xE4
def shiftRight : UInt16 := 0xE5
def altRight : UInt16 := 0xE6
def metaRight : UInt16 := 0xE7

def named : List (String × UInt16) :=
  [("KEY_A", keyA), ("KEY_Z", keyZ), ("DIGIT_1", digit1), ("DIGIT_0", digit0), ("ENTER", enter),
   ("ESCAPE", escape), ("BACKSPACE", backspace), ("TAB", tab), ("SPACE", space),
   ("MINUS", minus), ("EQUAL", equal), ("BRACKET_LEFT", bracketLeft),
   ("BRACKET_RIGHT", bracketRight), ("BACKSLASH", backslash), ("SEMICOLON", semicolon),
   ("QUOTE", quote), ("BACKQUOTE", backquote), ("COMMA", comma), ("PERIOD", period),
   ("SLASH", slash), ("CAPS_LOCK", capsLock), ("F1", f1), ("F12", f12),
   ("PRINT_SCREEN", printScreen), ("SCROLL_LOCK", scrollLock), ("PAUSE", pause),
   ("INSERT", insert), ("HOME", home), ("PAGE_UP", pageUp), ("DELETE", delete), ("END", endKey),
   ("PAGE_DOWN", pageDown), ("ARROW_RIGHT", arrowRight), ("ARROW_LEFT", arrowLeft),
   ("ARROW_DOWN", arrowDown), ("ARROW_UP", arrowUp), ("NUM_LOCK", numLock),
   ("NUMPAD_DIVIDE", numpadDivide), ("NUMPAD_MULTIPLY", numpadMultiply),
   ("NUMPAD_SUBTRACT", numpadSubtract), ("NUMPAD_ADD", numpadAdd), ("NUMPAD_ENTER", numpadEnter),
   ("NUMPAD_1", numpad1), ("NUMPAD_0", numpad0), ("NUMPAD_DECIMAL", numpadDecimal),
   ("CONTEXT_MENU", contextMenu), ("CONTROL_LEFT", controlLeft), ("SHIFT_LEFT", shiftLeft),
   ("ALT_LEFT", altLeft), ("META_LEFT", metaLeft), ("CONTROL_RIGHT", controlRight),
   ("SHIFT_RIGHT", shiftRight), ("ALT_RIGHT", altRight), ("META_RIGHT", metaRight)]

end Key.Usage

namespace Key.Virtual

def back : UInt16 := 0x08
def tab : UInt16 := 0x09
def enter : UInt16 := 0x0D
def pause : UInt16 := 0x13
def capital : UInt16 := 0x14
def escape : UInt16 := 0x1B
def space : UInt16 := 0x20
def prior : UInt16 := 0x21
def next : UInt16 := 0x22
def endKey : UInt16 := 0x23
def home : UInt16 := 0x24
def left : UInt16 := 0x25
def up : UInt16 := 0x26
def right : UInt16 := 0x27
def down : UInt16 := 0x28
def snapshot : UInt16 := 0x2C
def insert : UInt16 := 0x2D
def delete : UInt16 := 0x2E
def key0 : UInt16 := 0x30
def key1 : UInt16 := 0x31
def keyA : UInt16 := 0x41
def lwin : UInt16 := 0x5B
def rwin : UInt16 := 0x5C
def apps : UInt16 := 0x5D
def numpad0 : UInt16 := 0x60
def numpad1 : UInt16 := 0x61
def multiply : UInt16 := 0x6A
def add : UInt16 := 0x6B
def subtract : UInt16 := 0x6D
def decimal : UInt16 := 0x6E
def divide : UInt16 := 0x6F
def f1 : UInt16 := 0x70
def numlock : UInt16 := 0x90
def scroll : UInt16 := 0x91
def lshift : UInt16 := 0xA0
def rshift : UInt16 := 0xA1
def lcontrol : UInt16 := 0xA2
def rcontrol : UInt16 := 0xA3
def lmenu : UInt16 := 0xA4
def rmenu : UInt16 := 0xA5
def oem1 : UInt16 := 0xBA
def oemPlus : UInt16 := 0xBB
def oemComma : UInt16 := 0xBC
def oemMinus : UInt16 := 0xBD
def oemPeriod : UInt16 := 0xBE
def oem2 : UInt16 := 0xBF
def oem3 : UInt16 := 0xC0
def oem4 : UInt16 := 0xDB
def oem5 : UInt16 := 0xDC
def oem6 : UInt16 := 0xDD
def oem7 : UInt16 := 0xDE

def named : List (String × UInt16) :=
  [("BACK", back), ("TAB", tab), ("RETURN", enter), ("PAUSE", pause), ("CAPITAL", capital),
   ("ESCAPE", escape), ("SPACE", space), ("PRIOR", prior), ("NEXT", next), ("END", endKey),
   ("HOME", home), ("LEFT", left), ("UP", up), ("RIGHT", right), ("DOWN", down),
   ("SNAPSHOT", snapshot), ("INSERT", insert), ("DELETE", delete), ("KEY_0", key0),
   ("KEY_1", key1), ("KEY_A", keyA), ("LWIN", lwin), ("RWIN", rwin), ("APPS", apps),
   ("NUMPAD0", numpad0), ("NUMPAD1", numpad1), ("MULTIPLY", multiply), ("ADD", add),
   ("SUBTRACT", subtract), ("DECIMAL", decimal), ("DIVIDE", divide), ("F1", f1),
   ("NUMLOCK", numlock), ("SCROLL", scroll), ("LSHIFT", lshift), ("RSHIFT", rshift),
   ("LCONTROL", lcontrol), ("RCONTROL", rcontrol), ("LMENU", lmenu), ("RMENU", rmenu),
   ("OEM_1", oem1), ("OEM_PLUS", oemPlus), ("OEM_COMMA", oemComma), ("OEM_MINUS", oemMinus),
   ("OEM_PERIOD", oemPeriod), ("OEM_2", oem2), ("OEM_3", oem3), ("OEM_4", oem4), ("OEM_5", oem5),
   ("OEM_6", oem6), ("OEM_7", oem7)]

/-- Navigation and editing keys. Under Shift they need the extended flag, without which they act
as their twins on the number pad. -/
def navigation : List UInt16 :=
  [up, down, left, right, home, endKey, prior, next, insert, delete]

def isNavigation (code : UInt16) : Bool :=
  navigation.contains code

end Key.Virtual

namespace Key.Layout

/-- A run of `count` consecutive usages with consecutive native codes. -/
structure Run where
  usage : UInt16
  count : UInt16
  native : UInt16

def Run.native? (r : Run) (usage : UInt16) : Option UInt16 :=
  if r.usage ≤ usage ∧ usage - r.usage < r.count then some (r.native + (usage - r.usage)) else none

def runs : List Run :=
  [⟨Usage.keyA, 26, Virtual.keyA⟩, ⟨Usage.digit1, 9, Virtual.key1⟩, ⟨Usage.f1, 12, Virtual.f1⟩,
   ⟨Usage.numpad1, 9, Virtual.numpad1⟩]

/-- Both Enter keys share a native code. -/
def singles : List (UInt16 × UInt16) :=
  [(Usage.digit0, Virtual.key0), (Usage.numpad0, Virtual.numpad0),
   (Usage.enter, Virtual.enter), (Usage.escape, Virtual.escape),
   (Usage.backspace, Virtual.back), (Usage.tab, Virtual.tab), (Usage.space, Virtual.space),
   (Usage.capsLock, Virtual.capital), (Usage.printScreen, Virtual.snapshot),
   (Usage.scrollLock, Virtual.scroll), (Usage.pause, Virtual.pause),
   (Usage.contextMenu, Virtual.apps),
   (Usage.insert, Virtual.insert), (Usage.home, Virtual.home), (Usage.pageUp, Virtual.prior),
   (Usage.delete, Virtual.delete), (Usage.endKey, Virtual.endKey),
   (Usage.pageDown, Virtual.next), (Usage.arrowRight, Virtual.right),
   (Usage.arrowLeft, Virtual.left), (Usage.arrowDown, Virtual.down), (Usage.arrowUp, Virtual.up),
   (Usage.numLock, Virtual.numlock), (Usage.numpadDivide, Virtual.divide),
   (Usage.numpadMultiply, Virtual.multiply), (Usage.numpadSubtract, Virtual.subtract),
   (Usage.numpadAdd, Virtual.add), (Usage.numpadEnter, Virtual.enter),
   (Usage.numpadDecimal, Virtual.decimal),
   (Usage.minus, Virtual.oemMinus), (Usage.equal, Virtual.oemPlus),
   (Usage.bracketLeft, Virtual.oem4), (Usage.bracketRight, Virtual.oem6),
   (Usage.backslash, Virtual.oem5), (Usage.semicolon, Virtual.oem1), (Usage.quote, Virtual.oem7),
   (Usage.backquote, Virtual.oem3), (Usage.comma, Virtual.oemComma),
   (Usage.period, Virtual.oemPeriod), (Usage.slash, Virtual.oem2),
   (Usage.controlLeft, Virtual.lcontrol), (Usage.shiftLeft, Virtual.lshift),
   (Usage.altLeft, Virtual.lmenu), (Usage.metaLeft, Virtual.lwin),
   (Usage.controlRight, Virtual.rcontrol), (Usage.shiftRight, Virtual.rshift),
   (Usage.altRight, Virtual.rmenu), (Usage.metaRight, Virtual.rwin)]

/-- The native code of a usage, 0 if it has none. -/
def native (usage : UInt16) : UInt16 :=
  ((runs.findSome? (·.native? usage)).or (singles.lookup usage)).getD 0

end Key.Layout

end InputReplay

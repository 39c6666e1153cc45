import InputReplay.Native.Descriptor
import InputReplay.Pointer
import InputReplay.Text.Basic

/-! What can go wrong between an event and the device, each cause with its one wording, and log records.
A notice is what happened; its level, origin, message and fields follow from it. -/

namespace InputReplay

inductive ResolveError
  | position (cause : BadExtent)
  deriving DecidableEq, Inhabited

namespace ResolveError

def message : ResolveError → String
  | position cause => "cannot normalize pointer position: " ++ cause.message

/-- Messages of the underlying causes, outermost first. -/
def sources : ResolveError → List String
  | position cause => [cause.message]

end ResolveError

/-- The device injected nothing and gave this code as the reason. -/
structure Rejection where
  code : UInt32
  deriving DecidableEq, Inhabited

def Rejection.message (r : Rejection) : String :=
  "input primitive rejected the event (platform error " ++ Text.hex r.code.toNat ++ ")"

inductive PostError
  | resolve (cause : ResolveError)
  | inject (cause : Rejection)
  deriving DecidableEq, Inhabited

namespace PostError

def message : PostError → String
  | resolve cause => "could not translate event: " ++ cause.message
  | inject cause => "could not inject event: " ++ cause.message

def sources : PostError → List String
  | resolve cause => cause.message :: cause.sources
  | inject cause => [cause.message]

end PostError

inductive Level
  | error
  | warn
  | info
  | debug
  deriving DecidableEq, Inhabited

def Level.name : Level → String
  | error => "ERROR"
  | warn => "WARN"
  | info => "INFO"
  | debug => "DEBUG"

/-- The part of the program that speaks. -/
inductive Origin
  | resolution
  | injection
  | posting
  | screen
  deriving DecidableEq, Inhabited

/-- The path under which filters address an origin. -/
def Origin.path : Origin → String
  | resolution => "synth_core::translate"
  | injection => "synth_inject::application::inject"
  | posting => "synth_inject::application::post_event"
  | screen => "synth_inject::infrastructure::screen_metrics"

inductive Notice
  | unrecognized (number : UInt32)
  | unmapped (keycode : UInt16)
  | dropped (origin : Origin) (number : UInt32) (cause : ResolveError)
  | rejected (descriptor : Descriptor) (code : UInt32)
  | injected (descriptor : Descriptor)
  | fixedScreen (extent : Extent)
  deriving DecidableEq, Inhabited

namespace Notice

def level : Notice → Level
  | unrecognized _ | unmapped _ => .warn
  | dropped .. | rejected .. => .error
  | injected _ => .debug
  | fixedScreen _ => .info

def origin : Notice → Origin
  | unrecognized _ | unmapped _ => .resolution
  | dropped origin _ _ => origin
  | rejected .. | injected _ => .injection
  | fixedScreen _ => .screen

def message : Notice → String
  | unrecognized number => "ignoring post event of unrecognized type " ++ Text.hex number.toNat
  | unmapped keycode =>
    "unable to map logical key code " ++ Text.hexPadded 4 keycode.toNat ++ " to a native key code"
  | dropped _ _ cause => "dropping event, descriptor construction failed: " ++ cause.message
  | rejected d code =>
    "input primitive failed to inject " ++ d.text ++ " (" ++ Text.hex code.toNat ++ ")"
  | injected _ => "injected"
  | fixedScreen _ => "using fixed screen size from config"

def fields : Notice → List (String × String)
  | dropped _ number _ => [("kind", toString number.toNat)]
  | injected d => [("descriptor", d.text)]
  | fixedScreen e =>
    [("width", toString e.width.toInt), ("height", toString e.height.toInt)]
  | unrecognized _ | unmapped _ | rejected .. => []

end Notice

end InputReplay

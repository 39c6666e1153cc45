import InputReplay.Notice
import InputReplay.Toml.Document

/-! Configuration: the filter of the log, and a fixed screen size for hosts whose own screen is
missing or not the one that events were recorded on. Everything has a default. In values and documents
each section reads from its own table alone, and unknown names are ignored. -/

namespace InputReplay

structure LoggingConfig where
  filter : String
  deriving DecidableEq

structure ScreenConfig where
  fixedWidth : Option Int32
  fixedHeight : Option Int32
  deriving DecidableEq

structure Config where
  logging : LoggingConfig
  screen : ScreenConfig
  deriving DecidableEq

def LoggingConfig.initial : LoggingConfig := ⟨"info"⟩

/-- A screen that answers every query with the same size. -/
def Extent.fixed (size : Extent) (_query : Nat) : Extent := size

namespace ScreenConfig

def live : ScreenConfig := ⟨none, none⟩

/-- The fixed size, if both dimensions are given. -/
def fixed? (c : ScreenConfig) : Option Extent := do
  return ⟨← c.fixedWidth, ← c.fixedHeight⟩

/-- The screen that a host without a screen of its own takes. -/
def select? (c : ScreenConfig) : Option Extent := c.fixed?

def selectNotices (c : ScreenConfig) : List Notice :=
  (c.select?.map .fixedScreen).toList

end ScreenConfig

def Config.initial : Config := ⟨.initial, .live⟩

namespace LoggingConfig

def layout : RecordLayout LoggingConfig where
  name := "LoggingConfig"
  blank := .initial
  fields := [.make "filter" .optional .string fun v _ => ⟨v⟩]

def read : Decoder LoggingConfig := layout.read

def toValue (c : LoggingConfig) : Value := .map [("filter", .string c.filter)]

end LoggingConfig

namespace ScreenConfig

def layout : RecordLayout ScreenConfig where
  name := "ScreenConfig"
  blank := .live
  fields :=
    [.make "fixed_width" .optional (.nullable .i32) fun v c => { c with fixedWidth := v },
     .make "fixed_height" .optional (.nullable .i32) fun v c => { c with fixedHeight := v }]

def read : Decoder ScreenConfig := layout.read

def toValue (c : ScreenConfig) : Value :=
  .map
    [("fixed_width", .optional (c.fixedWidth.map fun n => n.toInt)),
     ("fixed_height", .optional (c.fixedHeight.map fun n => n.toInt))]

end ScreenConfig

namespace Config

def layout : RecordLayout Config where
  name := "SynthConfig"
  blank := .initial
  fields :=
    [.make "logging" .optional LoggingConfig.read fun v c => { c with logging := v },
     .make "screen" .optional ScreenConfig.read fun v c => { c with screen := v }]

def read : Decoder Config := layout.read

def toValue (c : Config) : Value :=
  .map [("logging", c.logging.toValue), ("screen", c.screen.toValue)]

def ofToml (text : String) : Except ParseError Config := read.ofToml text

/-- Absent sizes are left out. -/
def toDocument (c : Config) : Toml.Document where
  entries := []
  tables :=
    [⟨"logging", [("filter", .string c.logging.filter)]⟩,
     ⟨"screen",
      (c.screen.fixedWidth.map fun n => ("fixed_width", Toml.Plain.int n.toInt)).toList ++
      (c.screen.fixedHeight.map fun n => ("fixed_height", Toml.Plain.int n.toInt)).toList⟩]

def toToml (c : Config) : String := c.toDocument.text

end Config

end InputReplay

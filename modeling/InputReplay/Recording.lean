import InputReplay.Event.Document
import InputReplay.Host.Run
import InputReplay.Resolution

/-! Recordings: documents with a list of events, and what the events resolve to in turn. -/

namespace InputReplay

structure Recording where
  events : List Event
  deriving DecidableEq

namespace Recording

def layout : RecordLayout Recording where
  name := "Recording"
  blank := ⟨[]⟩
  fields := [.make "events" .required (.list Event.read) fun v _ => ⟨v⟩]

def ofToml (text : String) : Except ParseError Recording := layout.read.ofToml text

def runs {σ : Type} (h : Host σ) :
    List Event → Standing σ → List (Event × Run σ (Option Descriptor))
  | [], _ => []
  | e :: events, s =>
    let run := e.resolveOrDrop.run h s
    (e, run) :: runs h events run.standing

end Recording
end InputReplay

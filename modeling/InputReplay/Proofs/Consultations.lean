import InputReplay.Proofs.Turns

/-! When the key mapping and the screen are consulted. Over any calls on one translator and its
poster, a pointer event is placed on the screen size whose number is the count of pointer events
before it, a key asks the mapping once, and nothing else asks for anything. -/

namespace InputReplay

variable {σ : Type}

def Step.isConsultation : Step → Bool
  | native .. | extent _ => true
  | sent .. | lastError _ | noted _ => false

/-- The questions to the key mapping and the screen among some steps, each with its answer. -/
def consultations (steps : List Step) : List Step := steps.filter Step.isConsultation

theorem consultations_append (first second : List Step) :
    consultations (first ++ second) = consultations first ++ consultations second :=
  List.filter_append ..

def Notice.cause? : Notice → Option ResolveError
  | dropped _ _ cause => some cause
  | _ => none

def Payload.isPointer : Payload → Bool
  | mousePressed _ | mouseReleased _ | mouseMoved _ | mouseDragged _ | mouseWheel _ => true
  | hookEnabled | hookDisabled | keyTyped _ | keyPressed _ | keyReleased _ | mouseClicked _
  | unrecognized _ => false

/-- Both axes of a position are normalized against one screen size, and of two bad extents the
width is reported. -/
def PlacedOn (screen : Extent) (x y : Int32) : Except ResolveError (Option Descriptor) → Prop
  | .ok (some (.mouse input)) =>
    Axis.normalize x screen.width = .ok input.dx ∧ Axis.normalize y screen.height = .ok input.dy
  | .ok _ => False
  | .error (.position bad) =>
    Axis.normalize x screen.width = .error bad ∨
      (∃ dx, Axis.normalize x screen.width = .ok dx) ∧ Axis.normalize y screen.height = .error bad

theorem placedOn_onScreen (screen : Extent) (x y : Int32) (flags : MouseFlags) (data : Int32) :
    PlacedOn screen x y
      ((MouseInput.onScreen screen x y flags data).map fun input => some (.mouse input)) := by
  unfold MouseInput.onScreen Extent.normalize
  cases width : Axis.normalize x screen.width with
  | error bad => exact .inl width
  | ok dx =>
    cases height : Axis.normalize y screen.height with
    | error bad => exact .inr ⟨⟨dx, width⟩, height⟩
    | ok dy => exact ⟨width, height⟩

namespace Event

variable (native : UInt16 → UInt16) (screen : Extent) (e : Event)

theorem queries_eq : e.queries = if e.payload.isPointer then 1 else 0 := by
  unfold queries
  cases e.payload <;> rfl

theorem causes_consultation :
    ((e.consultation native screen).filterMap Step.notice?).findSome? Notice.cause? = none := by
  unfold consultation
  split
  case h_3 => split <;> rfl
  all_goals rfl

theorem consultations_consultation :
    consultations (e.consultation native screen) =
      match e.payload with
      | .keyPressed key | .keyReleased key => [.native key.keycode (native key.keycode)]
      | .mousePressed _ | .mouseReleased _ | .mouseMoved _ | .mouseDragged _ | .mouseWheel _ =>
        [.extent screen]
      | .hookEnabled | .hookDisabled | .keyTyped _ | .mouseClicked _ | .unrecognized _ => [] := by
  unfold consultation
  cases e.payload with
  | keyPressed key | keyReleased key =>
    simp only [Payload.gesture]
    split <;> rfl
  | _ => rfl

end Event

theorem Ending.consultations_eq_nil {number : UInt32}
    {resolved : Except ResolveError (Option Descriptor)} {value : Except PostError Unit}
    {steps : List Step} (ending : Ending number resolved value steps) :
    consultations steps = [] := by
  cases ending <;> rfl

/-- The ways in which an event is processed. -/
inductive Manner
  | resolve
  | resolveOrDrop
  | post

/-- An event processed in some manner, with the standing where that begins. -/
structure Visit (σ : Type) where
  manner : Manner
  turn : Turn σ

namespace Visit

def isPointer (v : Visit σ) : Bool := v.turn.event.payload.isPointer

def steps (h : Host σ) (v : Visit σ) : List Step :=
  match v.manner with
  | .resolve => (v.turn.event.resolve.run h v.turn.start).steps
  | .resolveOrDrop => (v.turn.event.resolveOrDrop.run h v.turn.start).steps
  | .post => (v.turn.run h).steps

/-- What became of the event, by what is returned, noted and submitted: the descriptor that it was
resolved to, or the cause for which it was dropped. -/
def outcome (h : Host σ) (v : Visit σ) : Except ResolveError (Option Descriptor) :=
  match v.manner with
  | .resolve => (v.turn.event.resolve.run h v.turn.start).value
  | .resolveOrDrop =>
    let run := v.turn.event.resolveOrDrop.run h v.turn.start
    match run.notices.findSome? Notice.cause? with
    | some cause => .error cause
    | none => .ok run.value
  | .post =>
    let run := v.turn.run h
    match run.value with
    | .error (.resolve cause) => .error cause
    | .error (.inject _) | .ok () => .ok run.sent.head?

theorem consultations_steps (h : Host σ) (v : Visit σ) :
    consultations (v.steps h) =
      consultations (v.turn.event.consultation h.native (h.screen v.turn.start.queries)) := by
  obtain ⟨manner, e, s⟩ := v
  cases manner with
  | resolve => rw [steps, Event.run_resolve]
  | resolveOrDrop =>
    have noted : consultations (e.loss (e.resolved h.native (h.screen s.queries))) = [] := by
      cases e.resolved h.native (h.screen s.queries) <;> rfl
    rw [steps, Event.run_resolveOrDrop, consultations_append, noted, List.append_nil]
  | post =>
    obtain ⟨rest, ending, eq⟩ := Turn.ending h ⟨e, s⟩
    rw [steps, eq, consultations_append, ending.consultations_eq_nil, List.append_nil]

theorem outcome_eq_resolved (h : Host σ) (v : Visit σ) : v.outcome h = v.turn.resolved h := by
  obtain ⟨manner, e, s⟩ := v
  cases manner with
  | resolve => rw [outcome, Event.run_resolve, Turn.resolved]
  | resolveOrDrop =>
    simp only [outcome, Run.notices, Event.run_resolveOrDrop, List.filterMap_append,
      List.findSome?_append, Event.causes_consultation, Turn.resolved]
    cases e.resolved h.native (h.screen s.queries) <;> rfl
  | post =>
    obtain ⟨rest, ending, eq⟩ := Turn.ending h ⟨e, s⟩
    simp only [outcome, Turn.sent_run, Turn.descriptor?]
    generalize Turn.resolved h ⟨e, s⟩ = resolved at ending ⊢
    generalize (Turn.run h ⟨e, s⟩).value = value at ending ⊢
    cases ending <;> rfl

/-- A pointer event asks for the screen size and is placed on it, a key asks for its native code,
and any other event asks for nothing. -/
def Consults (h : Host σ) (screen : Extent) (v : Visit σ) : Prop :=
  match v.turn.event.payload with
  | .keyPressed key | .keyReleased key =>
    consultations (v.steps h) = [.native key.keycode (h.native key.keycode)]
  | .mousePressed point | .mouseReleased point | .mouseMoved point | .mouseDragged point =>
    consultations (v.steps h) = [.extent screen] ∧ PlacedOn screen point.x point.y (v.outcome h)
  | .mouseWheel turn =>
    consultations (v.steps h) = [.extent screen] ∧ PlacedOn screen turn.x turn.y (v.outcome h)
  | .hookEnabled | .hookDisabled | .keyTyped _ | .mouseClicked _ | .unrecognized _ =>
    consultations (v.steps h) = []

theorem consults (h : Host σ) (v : Visit σ) : v.Consults h (h.screen v.turn.start.queries) := by
  unfold Consults
  rw [consultations_steps, outcome_eq_resolved, Event.consultations_consultation, Turn.resolved,
    Event.resolved]
  obtain ⟨manner, ⟨payload, mask⟩, s⟩ := v
  cases payload with
  | mousePressed point | mouseReleased point | mouseMoved point | mouseDragged point
  | mouseWheel turn => exact ⟨rfl, placedOn_onScreen ..⟩
  | _ => rfl

end Visit

/-- Turns ask in order for the screen sizes numbered from `first` up to `last`, one for each pointer
event. -/
def Asks : List (Turn σ) → (first last : Nat) → Prop
  | [], first, last => first = last
  | t :: ts, first, last => t.start.queries = first ∧ Asks ts (first + t.event.queries) last

namespace Asks

variable {ts us : List (Turn σ)} {first mid last : Nat}

theorem append (earlier : Asks ts first mid) (later : Asks us mid last) :
    Asks (ts ++ us) first last := by
  induction ts generalizing first with
  | nil =>
    obtain rfl : first = mid := earlier
    exact later
  | cons t ts ih => exact ⟨earlier.1, ih earlier.2⟩

theorem of_append (asks : Asks (ts ++ us) first last) :
    ∃ mid, Asks ts first mid ∧ Asks us mid last := by
  induction ts generalizing first with
  | nil => exact ⟨first, rfl, asks⟩
  | cons t ts ih =>
    obtain ⟨mid, earlier, later⟩ := ih asks.2
    exact ⟨mid, ⟨asks.1, earlier⟩, later⟩

theorem last_eq (asks : Asks ts first last) :
    last = first + ts.countP fun t => t.event.payload.isPointer := by
  induction ts generalizing first with
  | nil => exact asks.symm
  | cons t ts ih =>
    rw [ih asks.2, List.countP_cons, Event.queries_eq]
    omega

end Asks

theorem asks_postFrom (h : Host σ) (events : List Event) (index : Nat) (s : Standing σ) :
    Asks (throughFailure h (turns h events s)) s.queries
      ((Event.postFrom index events).run h s).standing.queries := by
  induction events generalizing index s with
  | nil => rfl
  | cons e events ih =>
    obtain ⟨-, -, -, queries⟩ := e.post_ending h s
    rw [turns, throughFailure, Turn.run, Event.postFrom, Dialogue.run_bind]
    cases (e.post.run h s).value with
    | error cause => exact ⟨rfl, queries.symm⟩
    | ok _ =>
      refine ⟨rfl, ?_⟩
      rw [← queries]
      exact ih (index + 1) _

theorem Call.asks_processed (h : Host σ) (call : Call) (s : Standing σ) :
    Asks (call.processed h s) s.queries (call.dialogue.run h s).standing.queries := by
  cases call with
  | post e =>
    obtain ⟨-, -, -, queries⟩ := e.post_ending h s
    rw [dialogue, Dialogue.run_return]
    exact ⟨rfl, queries.symm⟩
  | postQuietly e =>
    obtain ⟨-, -, -, queries⟩ := e.post_ending h s
    rw [dialogue, Dialogue.run_return, Event.run_postQuietly]
    exact ⟨rfl, queries.symm⟩
  | postAll events =>
    rw [dialogue, Dialogue.run_return]
    exact asks_postFrom h events 0 s

inductive Task
  | resolve (event : Event)
  | resolveOrDrop (event : Event)
  | call (call : Call)

inductive Answer
  | resolve (result : Except ResolveError (Option Descriptor))
  | resolveOrDrop (descriptor : Option Descriptor)
  | call (reply : Reply)

namespace Task

def dialogue : Task → Dialogue Answer
  | resolve e => return .resolve (← e.resolve)
  | resolveOrDrop e => return .resolveOrDrop (← e.resolveOrDrop)
  | call c => return .call (← c.dialogue)

def visits (h : Host σ) (s : Standing σ) : Task → List (Visit σ)
  | resolve e => [⟨.resolve, e, s⟩]
  | resolveOrDrop e => [⟨.resolveOrDrop, e, s⟩]
  | call c => (c.processed h s).map (Visit.mk .post)

theorem steps_dialogue (h : Host σ) (task : Task) (s : Standing σ) :
    (task.dialogue.run h s).steps = (task.visits h s).flatMap (Visit.steps h) := by
  cases task with
  | resolve e => rw [dialogue, Dialogue.run_return, visits, List.flatMap_singleton, Visit.steps]
  | resolveOrDrop e =>
    rw [dialogue, Dialogue.run_return, visits, List.flatMap_singleton, Visit.steps]
  | call c =>
    rw [dialogue, Dialogue.run_return, c.steps_dialogue, visits, List.flatMap_map]
    rfl

theorem asks_visits (h : Host σ) (task : Task) (s : Standing σ) :
    Asks ((task.visits h s).map Visit.turn) s.queries
      (task.dialogue.run h s).standing.queries := by
  cases task with
  | resolve e =>
    rw [dialogue, Dialogue.run_return, Event.run_resolve]
    exact ⟨rfl, rfl⟩
  | resolveOrDrop e =>
    rw [dialogue, Dialogue.run_return, Event.run_resolveOrDrop]
    exact ⟨rfl, rfl⟩
  | call c =>
    rw [dialogue, Dialogue.run_return, visits, List.map_map, Function.comp_def, List.map_id']
    exact c.asks_processed h s

end Task

def perform (tasks : List Task) : Dialogue (List Answer) := tasks.mapM Task.dialogue

def visits (h : Host σ) (tasks : List Task) (s : Standing σ) : List (Visit σ) :=
  (Dialogue.stages h Task.dialogue tasks s).flatMap fun stage => stage.1.visits h stage.2

theorem steps_perform (h : Host σ) (tasks : List Task) (s : Standing σ) :
    ((perform tasks).run h s).steps = (visits h tasks s).flatMap (Visit.steps h) := by
  rw [perform, Dialogue.steps_mapM, visits, List.flatMap_assoc]
  simp only [Task.steps_dialogue]

theorem asks_perform (h : Host σ) (tasks : List Task) (s : Standing σ) :
    Asks ((visits h tasks s).map Visit.turn) s.queries
      ((perform tasks).run h s).standing.queries := by
  unfold perform visits
  induction tasks generalizing s with
  | nil => rfl
  | cons task tasks ih =>
    rw [Dialogue.run_mapM_cons, Dialogue.stages, List.flatMap_cons, List.map_append]
    exact (task.asks_visits h s).append (ih _)

/-- Over any tasks the screen sizes go to the pointer events in order, each to one. A pointer event
is placed on both axes by the screen size whose number is the count of pointer events before it,
whatever became of those; a key asks the mapping for its own code, once, and never the screen; all
other events ask for nothing. -/
theorem screen_fresh_for_each_pointer_event (h : Host σ) (tasks : List Task) (s : Standing σ) :
    let run := (perform tasks).run h s
    let visited := visits h tasks s
    run.value = (Dialogue.stages h Task.dialogue tasks s).map
      (fun stage => (stage.1.dialogue.run h stage.2).value) ∧
    run.steps = visited.flatMap (Visit.steps h) ∧
    run.standing.queries = s.queries + visited.countP Visit.isPointer ∧
    ∀ before v after, visited = before ++ v :: after →
      v.Consults h (h.screen (s.queries + before.countP Visit.isPointer)) := by
  intro run visited
  have asks : Asks (visited.map Visit.turn) s.queries run.standing.queries :=
    asks_perform h tasks s
  have count (vs : List (Visit σ)) : (vs.map Visit.turn).countP (·.event.payload.isPointer) =
      vs.countP Visit.isPointer := List.countP_map
  refine ⟨Dialogue.value_mapM h _ tasks s, steps_perform h tasks s, ?_,
    fun before v after split => ?_⟩
  · rw [asks.last_eq, count]
  · rw [split, List.map_append, List.map_cons] at asks
    obtain ⟨mid, earlier, start, -⟩ := asks.of_append
    have number : v.turn.start.queries = s.queries + before.countP Visit.isPointer := by
      rw [start, earlier.last_eq, count]
    exact number ▸ v.consults h

/-- A pointer event that fails on its screen size uses this one up. -/
example :
    let h : Host Nat := ⟨id, Extent.sequence [⟨0, 0⟩, ⟨1920, 1080⟩], Script.device ⟨[]⟩⟩
    let tasks : List Task := [.resolveOrDrop (.mouseMoved 5 5), .resolve (.keyPressed 4 .empty),
      .call (.postAll [.mouseMoved 5 5])]
    consultations ((perform tasks).run h ⟨0, 0⟩).steps =
      [.extent ⟨0, 0⟩, .native 4 4, .extent ⟨1920, 1080⟩] := by
  decide

end InputReplay

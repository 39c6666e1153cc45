import InputReplay.Proofs.Actions
import InputReplay.Proofs.Pointer
import InputReplay.Proofs.Silence

/-! What an event comes to. Its payload says whether it is dropped, always resolves, or resolves on
a screen whose extents are positive. The result depends on few fields: a key counts by its code and
by whether Shift is held, a pointer event by its position and what it does there. -/

namespace InputReplay

variable {σ : Type}

theorem MouseInput.map_onScreen_eq_error_iff {β : Type} {screen : Extent} {x y data : Int32}
    {flags : MouseFlags} {f : MouseInput → β} {cause : ResolveError} :
    (onScreen screen x y flags data).map f = .error cause ↔
      (screen.width ≤ 0 ∨ screen.height ≤ 0) ∧
        cause = .position ⟨if screen.width ≤ 0 then screen.width else screen.height⟩ := by
  unfold onScreen Extent.normalize Axis.normalize
  by_cases width : screen.width ≤ 0
  · simp [width, Except.map, bind, Except.bind, eq_comm]
  · by_cases height : screen.height ≤ 0 <;>
      simp [width, height, Except.map, bind, Except.bind, pure, Except.pure, eq_comm]

/-- Where a pointer payload puts the pointer, in pixels. -/
def Payload.position? : Payload → Option (Int32 × Int32)
  | mousePressed p | mouseReleased p | mouseMoved p | mouseDragged p => some (p.x, p.y)
  | mouseWheel w => some (w.x, w.y)
  | hookEnabled | hookDisabled | keyTyped _ | keyPressed _ | keyReleased _ | mouseClicked _
  | unrecognized _ => none

def Button.Action.direction : Button.Action → KeyFlags
  | down => .keyDown
  | up => .keyUp

theorem KeyInput.ofNative_congr {mask mask' : ModifierMask}
    (shift : mask.holdsShift = mask'.holdsShift) (code : UInt16) (direction : KeyFlags) :
    ofNative code mask direction = ofNative code mask' direction := by
  rw [ofNative, ofNative, shift]

namespace Event

theorem value_resolve (h : Host σ) (e : Event) (s : Standing σ) :
    (e.resolve.run h s).value = e.resolved h.native (h.screen s.queries) := by
  rw [run_resolve]

section Resolved

variable {native : UInt16 → UInt16} {screen : Extent} {e : Event}

theorem gesture_of_key {action : Button.Action} {keycode : UInt16}
    (key : e.key? action = some keycode) : e.payload.gesture = .key action.direction keycode := by
  obtain ⟨payload, mask⟩ := e
  cases action with
  | down =>
    cases payload with
    | keyPressed k =>
      cases key
      rfl
    | _ => cases key
  | up =>
    cases payload with
    | keyReleased k =>
      cases key
      rfl
    | _ => cases key

theorem gesture_of_button {action : Button.Action} {ordinal : UInt16}
    (button : e.button? action = some ordinal) :
    ∃ x y, e.payload.position? = some (x, y) ∧
      e.payload.gesture = .pointer x y ((Button.Native.ofOrdinal ordinal).flag action)
        (Button.Native.ofOrdinal ordinal).data := by
  obtain ⟨payload, mask⟩ := e
  -- only a press and a release have a button
  cases payload <;> cases action <;> cases button
  all_goals
    refine ⟨_, _, rfl, ?_⟩
    rw [Payload.gesture, Gesture.button, Button.encode_eq]

theorem resolved_of_key {action : Button.Action} {keycode : UInt16}
    (key : e.key? action = some keycode) :
    e.resolved native screen =
      .ok (some (.keyboard (.ofNative (native keycode) e.mask action.direction))) := by
  rw [resolved, gesture_of_key key]

theorem placedOn_resolved {x y : Int32} (placed : e.payload.position? = some (x, y)) :
    PlacedOn screen x y (e.resolved native screen) := by
  obtain ⟨payload, mask⟩ := e
  cases payload with
  | mousePressed p | mouseReleased p | mouseMoved p | mouseDragged p | mouseWheel w =>
    cases placed
    exact placedOn_onScreen ..
  | _ => cases placed

theorem resolved_eq_none_iff : e.resolved native screen = .ok none ↔ e.payload.isSilent := by
  obtain ⟨payload, mask⟩ := e
  cases payload with
  | hookEnabled | hookDisabled | keyTyped k | mouseClicked p | unrecognized n =>
    exact iff_of_true rfl rfl
  | keyPressed k | keyReleased k => exact iff_of_false nofun nofun
  | mousePressed p | mouseReleased p | mouseMoved p | mouseDragged p | mouseWheel w =>
    refine iff_of_false (fun resolved => ?_) nofun
    exact (descriptor_of_resolved resolved).elim fun _ ⟨_, absent⟩ => nomatch absent

theorem resolved_eq_error_iff {cause : ResolveError} :
    e.resolved native screen = .error cause ↔
      e.payload.isPointer ∧ (screen.width ≤ 0 ∨ screen.height ≤ 0) ∧
        cause = .position ⟨if screen.width ≤ 0 then screen.width else screen.height⟩ := by
  obtain ⟨payload, mask⟩ := e
  cases payload with
  | mousePressed p | mouseReleased p | mouseMoved p | mouseDragged p | mouseWheel w =>
    exact MouseInput.map_onScreen_eq_error_iff.trans (and_iff_right rfl).symm
  | _ => exact iff_of_false nofun nofun

theorem resolved_of_position {x y : Int32} (placed : e.payload.position? = some (x, y))
    (width : 0 < screen.width) (height : 0 < screen.height) :
    ∃ input, e.resolved native screen = .ok (some (.mouse input)) ∧
      Axis.normalize x screen.width = .ok input.dx ∧
      Axis.normalize y screen.height = .ok input.dy := by
  have position : PlacedOn screen x y (e.resolved native screen) := placedOn_resolved placed
  cases resolved : e.resolved native screen with
  | error cause =>
    obtain ⟨-, bad, -⟩ := resolved_eq_error_iff.mp resolved
    exact absurd bad (not_or.mpr ⟨Int32.not_le.mpr width, Int32.not_le.mpr height⟩)
  | ok d =>
    rw [resolved] at position
    match d, position with
    | some (.mouse input), onScreen => exact ⟨input, rfl, onScreen⟩

theorem onScreen_of_resolved {x y : Int32} {input : MouseInput}
    (placed : e.payload.position? = some (x, y))
    (resolved : e.resolved native screen = .ok (some (.mouse input))) :
    Axis.normalize x screen.width = .ok input.dx ∧
      Axis.normalize y screen.height = .ok input.dy := by
  have position : PlacedOn screen x y (e.resolved native screen) := placedOn_resolved placed
  rw [resolved] at position
  exact position

end Resolved

theorem value_of_position (h : Host σ) (s : Standing σ) {e : Event} {x y : Int32}
    (placed : e.payload.position? = some (x, y)) (width : 0 < (h.screen s.queries).width)
    (height : 0 < (h.screen s.queries).height) :
    ∃ input, (e.resolve.run h s).value = .ok (some (.mouse input)) ∧
      Axis.normalize x (h.screen s.queries).width = .ok input.dx ∧
      Axis.normalize y (h.screen s.queries).height = .ok input.dy := by
  rw [value_resolve]
  exact resolved_of_position placed width height

/-- Every event is dropped, fails or resolves, by its payload and the screen. Notifications and
unrecognized events are dropped on any screen, keys resolve on any screen, and pointer events fail
exactly if an extent is not positive, the width before the height. -/
theorem resolve_drops_fails_or_produces (h : Host σ) (e : Event) (s : Standing σ) :
    let result := (e.resolve.run h s).value
    let screen := h.screen s.queries
    (result = .ok none ↔ e.payload.isSilent) ∧
    (∀ cause, result = .error cause ↔
      e.payload.isPointer ∧ (screen.width ≤ 0 ∨ screen.height ≤ 0) ∧
        cause = .position ⟨if screen.width ≤ 0 then screen.width else screen.height⟩) ∧
    (∀ action keycode, e.key? action = some keycode →
      ∃ input, result = .ok (some (.keyboard input)) ∧ input.virtualKey = h.native keycode) ∧
    (∀ x y, e.payload.position? = some (x, y) → 0 < screen.width → 0 < screen.height →
      ∃ input, result = .ok (some (.mouse input)) ∧
        Axis.normalize x screen.width = .ok input.dx ∧
        Axis.normalize y screen.height = .ok input.dy) := by
  intro result screen
  rw [show result = _ from e.value_resolve h s]
  refine ⟨resolved_eq_none_iff, fun cause => resolved_eq_error_iff, fun action keycode key => ?_,
    fun x y placed width height => resolved_of_position placed width height⟩
  exact ⟨_, resolved_of_key key, rfl⟩

theorem resolve_drops_fails_or_produces_corner :
    let h : Host Nat :=
      ⟨Key.Layout.native, Extent.sequence [⟨0, -1⟩, ⟨800, 600⟩], Script.device ⟨[]⟩⟩
    let drag : Event := ⟨.mouseDragged ⟨800, -600, 1⟩, ⟨ModifierMask.button1⟩⟩
    (∃ input, ((keyPressed 0x32 .empty).resolve.run h ⟨0, 0⟩).value =
      .ok (some (.keyboard input)) ∧ input.virtualKey = 0) ∧
    ∃ input, (drag.resolve.run h ⟨1, 0⟩).value = .ok (some (.mouse input)) ∧
      Axis.normalize 800 800 = .ok input.dx ∧ Axis.normalize (-600) 600 = .ok input.dy := by
  intro h drag
  obtain ⟨-, -, keys, -⟩ := resolve_drops_fails_or_produces h (keyPressed 0x32 .empty) ⟨0, 0⟩
  obtain ⟨-, -, -, pointers⟩ := resolve_drops_fails_or_produces h drag ⟨1, 0⟩
  exact ⟨keys .down 0x32 rfl, pointers 800 (-600) rfl (by decide) (by decide)⟩

/-- Two events of one kind that agree on all that drives it. A drag counts as motion. -/
def DrivenLike (e e' : Event) : Prop :=
  match e.payload, e'.payload with
  | .keyPressed k, .keyPressed k' | .keyReleased k, .keyReleased k' =>
    k.keycode = k'.keycode ∧ e.mask.holdsShift = e'.mask.holdsShift
  | .mousePressed p, .mousePressed p' | .mouseReleased p, .mouseReleased p' =>
    p.x = p'.x ∧ p.y = p'.y ∧ p.button = p'.button
  | .mouseMoved p, .mouseMoved p' | .mouseMoved p, .mouseDragged p'
  | .mouseDragged p, .mouseMoved p' | .mouseDragged p, .mouseDragged p' =>
    p.x = p'.x ∧ p.y = p'.y
  | .mouseWheel w, .mouseWheel w' =>
    w.x = w'.x ∧ w.y = w'.y ∧ w.amount = w'.amount ∧ w.rotation = w'.rotation
  | .unrecognized n, .unrecognized n' => n = n'
  | .keyTyped _, .keyTyped _ | .mouseClicked _, .mouseClicked _ | .hookEnabled, .hookEnabled
  | .hookDisabled, .hookDisabled => True
  | _, _ => False

theorem resolve_congr {e e' : Event} (gesture : e.payload.gesture = e'.payload.gesture)
    (shift : ∀ direction keycode, e.payload.gesture = .key direction keycode →
      e.mask.holdsShift = e'.mask.holdsShift) : e.resolve = e'.resolve := by
  unfold resolve
  rw [← gesture]
  cases asked : e.payload.gesture with
  | key direction keycode =>
    simp only [KeyInput.ofNative_congr (shift direction keycode asked)]
  | _ => rfl

theorem DrivenLike.resolve_eq {e e' : Event} (alike : e.DrivenLike e') :
    e.resolve = e'.resolve := by
  obtain ⟨payload, mask⟩ := e
  obtain ⟨payload', mask'⟩ := e'
  cases payload with
  | keyPressed k =>
    cases payload' with
    | keyPressed k' =>
      obtain ⟨keycode, shift⟩ := alike
      exact resolve_congr (congrArg (Gesture.key .keyDown) keycode) fun _ _ _ => shift
    | _ => exact alike.elim
  | keyReleased k =>
    cases payload' with
    | keyReleased k' =>
      obtain ⟨keycode, shift⟩ := alike
      exact resolve_congr (congrArg (Gesture.key .keyUp) keycode) fun _ _ _ => shift
    | _ => exact alike.elim
  -- nothing below asks for a native code, so that the masks may differ
  | mousePressed p =>
    cases payload' with
    | mousePressed p' =>
      obtain ⟨x, y, button⟩ := alike
      refine resolve_congr ?_ (by rintro _ _ ⟨⟩)
      simp only [Payload.gesture, Gesture.button, x, y, button]
    | _ => exact alike.elim
  | mouseReleased p =>
    cases payload' with
    | mouseReleased p' =>
      obtain ⟨x, y, button⟩ := alike
      refine resolve_congr ?_ (by rintro _ _ ⟨⟩)
      simp only [Payload.gesture, Gesture.button, x, y, button]
    | _ => exact alike.elim
  | mouseMoved p | mouseDragged p =>
    cases payload' with
    | mouseMoved p' | mouseDragged p' =>
      obtain ⟨x, y⟩ := alike
      refine resolve_congr ?_ (by rintro _ _ ⟨⟩)
      simp only [Payload.gesture, Gesture.motion, x, y]
    | _ => exact alike.elim
  | mouseWheel w =>
    cases payload' with
    | mouseWheel w' =>
      obtain ⟨x, y, amount, rotation⟩ := alike
      refine resolve_congr ?_ (by rintro _ _ ⟨⟩)
      simp only [Payload.gesture, Gesture.wheel, x, y, amount, rotation]
    | _ => exact alike.elim
  | unrecognized n =>
    cases payload' with
    | unrecognized n' =>
      exact resolve_congr (congrArg Gesture.unknown alike) (by rintro _ _ ⟨⟩)
    | _ => exact alike.elim
  | keyTyped k | mouseClicked p | hookEnabled | hookDisabled =>
    cases payload' <;> first | exact resolve_congr rfl (by rintro _ _ ⟨⟩) | exact alike.elim

/-- Resolving reads no field but those that drive an event, so events which agree on these resolve
alike, with the same log records. The place of a pointer on one axis depends on the coordinate and
the extent of this axis alone, whatever else the events and the screens are. -/
theorem resolve_depends_on_driving_fields (h h' : Host σ) (s s' : Standing σ) (e e' : Event) :
    (e.DrivenLike e' → e.resolve.run h s = e'.resolve.run h s) ∧
    ∀ x y x' y' input input',
      e.payload.position? = some (x, y) → e'.payload.position? = some (x', y') →
      (e.resolve.run h s).value = .ok (some (.mouse input)) →
      (e'.resolve.run h' s').value = .ok (some (.mouse input')) →
      (x = x' → (h.screen s.queries).width = (h'.screen s'.queries).width →
        input.dx = input'.dx) ∧
      (y = y' → (h.screen s.queries).height = (h'.screen s'.queries).height →
        input.dy = input'.dy) := by
  refine ⟨fun alike => by rw [alike.resolve_eq], ?_⟩
  intro x y x' y' input input' placed placed' found found'
  rw [value_resolve] at found found'
  obtain ⟨dx, dy⟩ := onScreen_of_resolved placed found
  obtain ⟨dx', dy'⟩ := onScreen_of_resolved placed' found'
  constructor
  · intro column width
    rw [column, width, dx'] at dx
    exact (Except.ok.inj dx).symm
  · intro row height
    rw [row, height, dy'] at dy
    exact (Except.ok.inj dy).symm

theorem resolve_depends_on_driving_fields_column :
    let h : Host Nat :=
      ⟨Key.Layout.native, Extent.sequence [⟨1920, 1080⟩, ⟨1920, 1200⟩], Script.device ⟨[]⟩⟩
    let left : Event := ⟨.keyPressed ⟨Key.Usage.home, none⟩, ⟨ModifierMask.shiftLeft⟩⟩
    let right : Event := ⟨.keyPressed ⟨Key.Usage.home, some 0x47⟩,
      ⟨ModifierMask.shiftRight ||| ModifierMask.ctrlLeft ||| ModifierMask.numLock⟩⟩
    let press : Event := mousePressed 960 5 1
    let turn : Event := ⟨.mouseWheel ⟨960, 7, 1, -1⟩, .empty⟩
    let pressed : MouseInput := ⟨32769, 304, 0, .leftDown⟩
    let turned : MouseInput := ⟨32769, 383, -120, .wheel⟩
    (left.DrivenLike right ∧ left.resolve.run h ⟨0, 0⟩ = right.resolve.run h ⟨0, 0⟩) ∧
    ((press.resolve.run h ⟨0, 0⟩).value = .ok (some (.mouse pressed)) ∧
      (turn.resolve.run h ⟨1, 0⟩).value = .ok (some (.mouse turned))) ∧
    pressed.dx = turned.dx := by
  intro h left right press turn pressed turned
  have alike : left.DrivenLike right := ⟨rfl, by decide⟩
  have down : (press.resolve.run h ⟨0, 0⟩).value = .ok (some (.mouse pressed)) := by decide
  have round : (turn.resolve.run h ⟨1, 0⟩).value = .ok (some (.mouse turned)) := by decide
  have keys := (resolve_depends_on_driving_fields h h ⟨0, 0⟩ ⟨0, 0⟩ left right).1
  have pointers := (resolve_depends_on_driving_fields h h ⟨0, 0⟩ ⟨1, 0⟩ press turn).2
  exact ⟨⟨alike, keys alike⟩, ⟨down, round⟩,
    (pointers 960 5 960 7 pressed turned rfl rfl down round).1 rfl rfl⟩

end Event
end InputReplay

import InputReplay.Proofs.Actions
import InputReplay.Proofs.Consultations
import InputReplay.Proofs.Pointer
import InputReplay.Proofs.Submissions

/-! Descriptors that a device can make sense of. Whatever a session posts, each descriptor that it
submits says one thing: a key by its virtual key, an action on one button, a turn of the wheel or a
motion, with data only where the flags give it a meaning. -/

namespace InputReplay

variable {σ : Type}

def MouseFlags.buttonActions : List MouseFlags :=
  [.leftDown, .leftUp, .rightDown, .rightUp, .middleDown, .middleUp, .xDown, .xUp]

/-- A key is given by its virtual key alone. No flags are set but release and extension, and only
navigation keys are extended. -/
structure KeyInput.WellFormed (k : KeyInput) : Prop where
  scanCode : k.scanCode = 0
  flags : (KeyFlags.extendedKey ||| .keyUp).contains k.flags = true
  extended : k.flags.isExtended = true → k.virtualKey ∈ Key.Virtual.navigation

/-- The flags name one action, the data belong to it, and neither coordinate is at the origin. -/
structure MouseInput.WellFormed (m : MouseInput) : Prop where
  flags : m.flags ∈ MouseFlags.buttonActions ∨ m.flags = .wheel ∨ m.flags = .absolute ||| .move
  data : m.data ≠ 0 → m.flags = .wheel ∨ m.flags = .xDown ∨ m.flags = .xUp
  distance : m.flags = .wheel → 120 ∣ m.data.toInt ∨ m.data = .minValue ∨ m.data = .maxValue
  horizontal : m.dx ≠ 0
  vertical : m.dy ≠ 0

def Descriptor.WellFormed : Descriptor → Prop
  | keyboard k => k.WellFormed
  | mouse m => m.WellFormed

theorem KeyInput.wellFormed_ofNative (code : UInt16) (mask : ModifierMask) {direction : KeyFlags}
    (plain : direction = .keyDown ∨ direction = .keyUp) :
    (ofNative code mask direction).WellFormed := by
  have unextended : direction.isExtended = false := by rcases plain with rfl | rfl <;> rfl
  unfold ofNative
  constructor
  · rfl
  · dsimp only
    rcases plain with rfl | rfl <;> split <;> rfl
  · dsimp only
    split
    case isTrue held =>
      intro _
      simp only [Bool.and_eq_true, Key.Virtual.isNavigation, List.contains_iff_mem] at held
      exact held.2
    case isFalse => simp [unextended]

namespace MouseInput

variable {dx dy : Int32}

theorem wellFormed_button (ordinal : UInt16) (action : Button.Action) (horizontal : dx ≠ 0)
    (vertical : dy ≠ 0) :
    WellFormed ⟨dx, dy, (Button.encode ordinal action).2, (Button.encode ordinal action).1⟩ := by
  rw [Button.encode_eq]
  generalize Button.Native.ofOrdinal ordinal = button
  constructor
  · left
    cases button <;> cases action <;> simp [Button.Native.flag, MouseFlags.buttonActions]
  · cases button <;> cases action <;> simp [Button.Native.flag, Button.Native.data]
  · intro wheel
    cases button <;> cases action <;> cases wheel
  · exact horizontal
  · exact vertical

theorem wellFormed_motion (horizontal : dx ≠ 0) (vertical : dy ≠ 0) :
    WellFormed ⟨dx, dy, 0, .absolute ||| .move⟩ where
  flags := .inr (.inr rfl)
  data moved := absurd rfl moved
  distance wheel := by cases wheel
  horizontal := horizontal
  vertical := vertical

theorem wellFormed_wheel (amount rotation : Int32) (horizontal : dx ≠ 0) (vertical : dy ≠ 0) :
    WellFormed ⟨dx, dy, Wheel.distance amount rotation, .wheel⟩ where
  flags := .inr (.inl rfl)
  data _ := .inl rfl
  distance _ := Wheel.distance_cases amount rotation
  horizontal := horizontal
  vertical := vertical

end MouseInput

namespace Event

variable {native : UInt16 → UInt16} {screen : Extent} {e : Event} {d : Descriptor}

theorem placed_of_resolved {x y data : Int32} {flags : MouseFlags}
    (pointer : e.payload.gesture = .pointer x y flags data)
    (resolved : e.resolved native screen = .ok (some d)) :
    ∃ dx dy, d = .mouse ⟨dx, dy, data, flags⟩ ∧ dx ≠ 0 ∧ dy ≠ 0 := by
  have shape := descriptor_of_resolved resolved
  rw [pointer] at shape
  obtain ⟨dx, dy, same⟩ := shape
  obtain rfl := Option.some.inj same
  have placed : PlacedOn screen x y (e.resolved native screen) := by
    rw [Event.resolved, pointer]
    exact placedOn_onScreen screen x y flags data
  rw [resolved] at placed
  exact ⟨dx, dy, rfl, Axis.normalize_ne_zero placed.1, Axis.normalize_ne_zero placed.2⟩

theorem wellFormed_of_resolved (resolved : e.resolved native screen = .ok (some d)) :
    d.WellFormed := by
  have shape := descriptor_of_resolved resolved
  obtain ⟨payload, mask⟩ := e
  cases payload with
  | hookEnabled | hookDisabled | keyTyped _ | mouseClicked _ | unrecognized _ => cases shape
  | keyPressed key =>
    obtain rfl := Option.some.inj shape
    exact KeyInput.wellFormed_ofNative _ mask (.inl rfl)
  | keyReleased key =>
    obtain rfl := Option.some.inj shape
    exact KeyInput.wellFormed_ofNative _ mask (.inr rfl)
  | mousePressed point | mouseReleased point =>
    obtain ⟨dx, dy, rfl, horizontal, vertical⟩ := placed_of_resolved rfl resolved
    exact MouseInput.wellFormed_button point.button _ horizontal vertical
  | mouseMoved point | mouseDragged point =>
    obtain ⟨dx, dy, rfl, horizontal, vertical⟩ := placed_of_resolved rfl resolved
    exact MouseInput.wellFormed_motion horizontal vertical
  | mouseWheel turn =>
    obtain ⟨dx, dy, rfl, horizontal, vertical⟩ := placed_of_resolved rfl resolved
    exact MouseInput.wellFormed_wheel turn.amount turn.rotation horizontal vertical

end Event

theorem wellFormed_of_mem_sent (h : Host σ) (calls : List Call) (s : Standing σ) {d : Descriptor}
    (member : d ∈ ((session calls).run h s).sent) : d.WellFormed := by
  rw [Run.sent, steps_session, sent_stepsOf] at member
  obtain ⟨t, -, found⟩ := List.mem_filterMap.mp member
  exact Event.wellFormed_of_resolved (Event.toOption_join_eq_some_iff.mp found)

theorem descriptors_deviceCalls (steps : List Step) :
    (deviceCalls steps).filterMap Step.descriptor? = steps.filterMap Step.descriptor? := by
  rw [deviceCalls, List.filterMap_filter]
  refine List.filterMap_congr fun step _ => ?_
  cases step <;> rfl

namespace Recorder

variable {r : Recorder}

theorem kept_of_answers {calls : List Step} {first last : List Descriptor}
    (answers : r.device.Answers calls first last) :
    last = first ++ calls.filterMap Step.descriptor? := by
  induction calls generalizing first with
  | nil => exact answers.symm.trans (List.append_nil first).symm
  | cons call calls ih =>
    cases call with
    | sent d count =>
      rw [ih answers.2]
      simp [device, Step.descriptor?]
    | lastError code => exact ih answers.2
    | native _ _ | extent _ | noted _ => exact answers.elim

theorem kept_wellFormed (r : Recorder) (native : UInt16 → UInt16) (screen : Nat → Extent)
    (calls : List Call) (query : Nat) :
    let run := (session calls).run ⟨native, screen, r.device⟩ ⟨query, []⟩
    run.standing.device = run.sent ∧ ∀ d ∈ run.standing.device, d.WellFormed := by
  intro run
  have answers := (session calls).run_answers ⟨native, screen, r.device⟩ ⟨query, []⟩
  have kept : run.standing.device = run.sent := by
    rw [show run.standing.device = _ from kept_of_answers answers, descriptors_deviceCalls]
    rfl
  refine ⟨kept, fun d member => ?_⟩
  rw [kept] at member
  exact wellFormed_of_mem_sent _ calls _ member

theorem kept_wellFormed_mixed :
    let calls : List Call :=
      [.post (.keyReleased 0x52 ⟨0x10⟩), .postQuietly ⟨.mouseWheel ⟨0, 0, 2147483647, -2⟩, .empty⟩,
       .postAll [.mousePressed 3 4 9, .mouseMoved 1 1]]
    let screen := Extent.sequence [⟨1920, 1080⟩, ⟨800, 600⟩]
    let run := (session calls).run ⟨Key.Layout.native, screen, (Recorder.rejecting 5).device⟩ ⟨0, []⟩
    run.standing.device =
        [.keyboard ⟨0x26, 0, ⟨3⟩⟩, .mouse ⟨-1, -1, -2147483648, .wheel⟩,
          .mouse ⟨246, 437, 6, .xDown⟩] ∧
      (Descriptor.mouse ⟨246, 437, 6, .xDown⟩).WellFormed := by
  intro calls screen run
  have kept : run.standing.device = [.keyboard ⟨0x26, 0, ⟨3⟩⟩,
      .mouse ⟨-1, -1, -2147483648, .wheel⟩, .mouse ⟨246, 437, 6, .xDown⟩] := by decide
  have sound := (kept_wellFormed (Recorder.rejecting 5) Key.Layout.native screen calls 0).2
  exact ⟨kept, sound _ (kept ▸ List.mem_of_getLast? rfl)⟩

end Recorder
end InputReplay

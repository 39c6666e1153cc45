import InputReplay.Event.Record
import InputReplay.Proofs.Verdict

/-! What a pointer event does, read back from its descriptor. The flags name the act and, together
with the data, the button. Every extended button follows one rule, ordinal 0 included: a record that
names no button is taken for it, and its index lies below the first. -/

namespace InputReplay

variable {σ : Type}

/-- What a pointer event does at its position. A drag is motion. -/
inductive Act
  | button (action : Button.Action) (ordinal : UInt16)
  | wheel
  | motion
  deriving DecidableEq

def Payload.act? : Payload → Option Act
  | mousePressed p => some (.button .down p.button)
  | mouseReleased p => some (.button .up p.button)
  | mouseWheel _ => some .wheel
  | mouseMoved _ | mouseDragged _ => some .motion
  | hookEnabled | hookDisabled | keyTyped _ | keyPressed _ | keyReleased _ | mouseClicked _
  | unrecognized _ => none

namespace Button

theorem toInt_index (ordinal : UInt16) : (index ordinal).toInt = ordinal.toNat - 3 := by
  unfold index
  split
  case h_3 =>
    have below : ordinal.toNat < 65536 := ordinal.toNat_lt
    exact Int32.toInt_ofInt_of_le (by omega) (by omega)
  all_goals rfl

/-- All ordinals but those of the three buttons that have flags of their own. -/
def IsExtended (ordinal : UInt16) : Prop := ordinal = 0 ∨ 3 < ordinal

instance : DecidablePred IsExtended := fun _ => inferInstanceAs (Decidable (_ ∨ _))

namespace Native

theorem ofOrdinal_of_isExtended {o : UInt16} (other : IsExtended o) :
    ofOrdinal o = extended (index o) := by
  unfold ofOrdinal
  split
  case h_4 => rfl
  all_goals exact absurd other (by decide)

theorem isExtended_of_flag {o : UInt16} {action : Action}
    (flags : (ofOrdinal o).flag action = .xDown ∨ (ofOrdinal o).flag action = .xUp) :
    IsExtended o := by
  unfold ofOrdinal at flags
  split at flags
  case h_4 =>
    unfold IsExtended
    grind
  all_goals cases action <;> exact absurd flags (by decide)

def ordinal : Native → UInt16
  | left => 1
  | right => 2
  | middle => 3
  | extended index => .ofNat (index.toInt + 3).toNat

theorem ordinal_ofOrdinal (o : UInt16) : (ofOrdinal o).ordinal = o := by
  unfold ofOrdinal
  split
  case h_4 =>
    have counted : (index o).toInt + 3 = o.toNat := by
      rw [toInt_index]
      omega
    rw [ordinal, counted, Int.toNat_natCast]
    exact UInt16.ofNat_toNat
  all_goals rfl

end Native
end Button

namespace MouseInput

def acts (data : Int32) : List (MouseFlags × Act) :=
  (.wheel, .wheel) :: (.absolute ||| .move, .motion) ::
    [.left, .right, .middle, .extended data].flatMap fun button : Button.Native =>
      [(button.flag .down, .button .down button.ordinal),
        (button.flag .up, .button .up button.ordinal)]

def act? (m : MouseInput) : Option Act := (acts m.data).lookup m.flags

theorem act?_button (button : Button.Native) (action : Button.Action) (dx dy : Int32) :
    act? ⟨dx, dy, button.data, button.flag action⟩ = some (.button action button.ordinal) := by
  cases button <;> cases action <;> rfl

end MouseInput

namespace Event

variable {native : UInt16 → UInt16} {screen : Extent} {e : Event} {input : MouseInput}

theorem said_of_button {action : Button.Action} {ordinal : UInt16}
    (button : e.button? action = some ordinal)
    (resolved : e.resolved native screen = .ok (some (.mouse input))) :
    input.flags = (Button.Native.ofOrdinal ordinal).flag action ∧
      input.data = (Button.Native.ofOrdinal ordinal).data := by
  obtain ⟨x, y, -, pointer⟩ := gesture_of_button button
  exact said_of_resolved pointer resolved

theorem act?_eq_button_iff {action : Button.Action} {ordinal : UInt16} :
    e.payload.act? = some (.button action ordinal) ↔ e.button? action = some ordinal := by
  obtain ⟨payload, mask⟩ := e
  cases payload <;> cases action <;> simp [Payload.act?, button?]

theorem act?_of_resolved (resolved : e.resolved native screen = .ok (some (.mouse input))) :
    ∃ act, e.payload.act? = some act ∧ input.act? = some act := by
  have shape := descriptor_of_resolved resolved
  obtain ⟨payload, mask⟩ := e
  cases payload with
  | mousePressed p | mouseReleased p =>
    obtain ⟨dx, dy, same⟩ := shape
    rw [Button.encode_eq] at same
    cases same
    refine ⟨_, rfl, ?_⟩
    rw [MouseInput.act?_button, Button.Native.ordinal_ofOrdinal]
  | mouseMoved p | mouseDragged p | mouseWheel w =>
    obtain ⟨dx, dy, same⟩ := shape
    cases same
    exact ⟨_, rfl, rfl⟩
  | hookEnabled | hookDisabled | keyTyped k | keyPressed k | keyReleased k | mouseClicked p
  | unrecognized n => cases shape

theorem button?_of_extended (resolved : e.resolved native screen = .ok (some (.mouse input)))
    (extended : input.flags = .xDown ∨ input.flags = .xUp) :
    ∃ action ordinal, e.button? action = some ordinal := by
  obtain ⟨act, does, told⟩ := act?_of_resolved resolved
  obtain ⟨dx, dy, data, flags⟩ := input
  rcases extended with rfl | rfl
  · have press := MouseInput.act?_button (.extended data) .down dx dy
    exact ⟨.down, _, act?_eq_button_iff.mp (does.trans (told.symm.trans press))⟩
  · have release := MouseInput.act?_button (.extended data) .up dx dy
    exact ⟨.up, _, act?_eq_button_iff.mp (does.trans (told.symm.trans release))⟩

/-- Pointer events whose descriptors agree on flags and data do the same, with the same button if
they act on one. The ordinal of an extended button is three above the data. -/
theorem pointer_acts_stay_distinct (h h' : Host σ) (s s' : Standing σ) {e e' : Event}
    {input input' : MouseInput} (found : (e.resolve.run h s).value = .ok (some (.mouse input)))
    (found' : (e'.resolve.run h' s').value = .ok (some (.mouse input')))
    (flags : input.flags = input'.flags) (data : input.data = input'.data) :
    ∃ act, e.payload.act? = some act ∧ e'.payload.act? = some act ∧
      ∀ action ordinal, act = .button action ordinal → 3 < ordinal →
        ordinal.toNat = input.data.toInt + 3 := by
  rw [value_resolve] at found found'
  obtain ⟨act, does, told⟩ := act?_of_resolved found
  obtain ⟨act', does', told'⟩ := act?_of_resolved found'
  have same : act = act' := by
    rw [MouseInput.act?, flags, data] at told
    exact Option.some.inj (told.symm.trans told')
  refine ⟨act, does, same ▸ does', fun action ordinal named beyond => ?_⟩
  rw [named, act?_eq_button_iff] at does
  have index := (said_of_button does found).2
  rw [Button.Native.ofOrdinal_of_isExtended (.inr beyond)] at index
  rw [index, Button.Native.data, Button.toInt_index]
  omega

theorem pointer_acts_stay_distinct_last :
    let h : Host Nat :=
      ⟨Key.Layout.native, Extent.sequence [⟨1920, 1080⟩, ⟨1, 1⟩], Script.device ⟨[]⟩⟩
    let e := mouseReleased 960 5 65535
    let e' := mouseReleased (-1) 0 65535
    let input : MouseInput := ⟨32769, 304, 65532, .xUp⟩
    let input' : MouseInput := ⟨-65537, -1, 65532, .xUp⟩
    ((e.resolve.run h ⟨0, 0⟩).value = .ok (some (.mouse input)) ∧
      (e'.resolve.run h ⟨1, 0⟩).value = .ok (some (.mouse input')) ∧
      input.flags = input'.flags ∧ input.data = input'.data) ∧
    e'.payload.act? = some (.button .up 65535) ∧ 65535 = input.data.toInt + 3 := by
  intro h e e' input input'
  have found : (e.resolve.run h ⟨0, 0⟩).value = .ok (some (.mouse input)) := by decide
  have found' : (e'.resolve.run h ⟨1, 0⟩).value = .ok (some (.mouse input')) := by decide
  obtain ⟨act, does, does', recovered⟩ :=
    pointer_acts_stay_distinct h h ⟨0, 0⟩ ⟨1, 0⟩ found found' rfl rfl
  cases does
  exact ⟨⟨found, found', rfl, rfl⟩, does', recovered .up 65535 rfl (by decide)⟩

theorem button?_ofRecord {r : Record} {action : Button.Action} {ordinal : UInt16}
    (button : (ofRecord r).button? action = some ordinal) : ordinal = r.data.button := by
  cases known : Kind.ofNumber? r.kind with
  | none =>
    rw [ofRecord, Payload.ofNumber, known] at button
    cases action <;> cases button
  | some kind =>
    rw [ofRecord, Payload.ofNumber, known] at button
    cases kind <;> cases action <;> cases button <;> rfl

/-- The index of an extended button is three below the ordinal of the record. So it counts from 1,
unless the record names button 0 or none at all. -/
theorem extended_index_of_record (h : Host σ) (s : Standing σ) (r : Record) {input : MouseInput}
    (found : ((ofRecord r).resolve.run h s).value = .ok (some (.mouse input)))
    (extended : input.flags = .xDown ∨ input.flags = .xUp) :
    input.data.toInt = r.data.button.toNat - 3 ∧ (1 ≤ input.data ↔ r.data.button ≠ 0) := by
  rw [value_resolve] at found
  obtain ⟨action, ordinal, button⟩ := button?_of_extended found extended
  obtain ⟨flags, data⟩ := said_of_button button found
  rw [flags] at extended
  have other : Button.IsExtended ordinal := Button.Native.isExtended_of_flag extended
  rw [Button.Native.ofOrdinal_of_isExtended other] at data
  obtain rfl := button?_ofRecord button
  have index : input.data.toInt = r.data.button.toNat - 3 := by
    rw [data]
    exact Button.toInt_index _
  refine ⟨index, ?_⟩
  rw [Int32.le_iff_toInt_le, index, show (1 : Int32).toInt = 1 from rfl]
  rcases other with default | beyond
  · exact iff_of_false (by rw [default]; decide) (not_not.mpr default)
  · have above : 3 < r.data.button.toNat := beyond
    refine iff_of_true (by omega) fun default => ?_
    exact absurd above (by rw [default]; decide)

theorem extended_index_of_record_third :
    let h : Host Nat := ⟨Key.Layout.native, Extent.sequence [⟨1920, 1080⟩], Script.device ⟨[]⟩⟩
    let r : Record := ⟨8, .empty, { DataBlock.blank with button := 6 }⟩
    let input : MouseInput := ⟨-1, -1, 3, .xUp⟩
    ((ofRecord r).resolve.run h ⟨0, 0⟩).value = .ok (some (.mouse input)) ∧ input.flags = .xUp ∧
      input.data.toInt = r.data.button.toNat - 3 ∧ 1 ≤ input.data := by
  intro h r input
  have found : ((ofRecord r).resolve.run h ⟨0, 0⟩).value = .ok (some (.mouse input)) := by decide
  obtain ⟨index, counted⟩ := extended_index_of_record h ⟨0, 0⟩ r found (.inr rfl)
  exact ⟨found, rfl, index, counted.mpr (by decide)⟩

theorem blank_press_below_first_index :
    let h : Host Nat := ⟨Key.Layout.native, Extent.sequence [⟨1920, 1080⟩], Script.device ⟨[]⟩⟩
    let r : Record := ⟨7, .empty, .blank⟩
    let input : MouseInput := ⟨-1, -1, -3, .xDown⟩
    ((ofRecord r).resolve.run h ⟨0, 0⟩).value = .ok (some (.mouse input)) ∧
      input.flags = .xDown ∧ ¬1 ≤ input.data := by
  decide

end Event
end InputReplay

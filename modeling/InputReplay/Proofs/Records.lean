import InputReplay.Event.Record
import Mathlib.Tactic.IntervalCases

/-! Events and their capture records. Reading a record keeps just the fields its kind uses; writing
an event and reading it back gives the event, unless an unrecognized payload bears the number of a
known kind. -/

namespace InputReplay

namespace Kind

theorem ofNumber?_isSome_iff (n : UInt32) : (ofNumber? n).isSome = true ↔ 1 ≤ n ∧ n ≤ 11 := by
  constructor
  · intro known
    obtain ⟨k, found⟩ := Option.isSome_iff_exists.mp known
    rw [← ofNumber?_eq_some_iff.mp found]
    cases k <;> decide
  · rintro ⟨low, high⟩
    have lower : 1 ≤ n.toNat := UInt32.le_iff_toNat_le.mp low
    have upper : n.toNat ≤ 11 := UInt32.le_iff_toNat_le.mp high
    obtain ⟨m, eq⟩ : ∃ m, n.toNat = m := ⟨_, rfl⟩
    rw [eq] at lower upper
    rw [← UInt32.ofNat_toNat (x := n), eq]
    interval_cases m <;> rfl

theorem ofNumber?_eq_none_iff (n : UInt32) : ofNumber? n = none ↔ ¬(1 ≤ n ∧ n ≤ 11) := by
  rw [← ofNumber?_isSome_iff, Option.not_isSome_iff_eq_none]

end Kind

namespace DataBlock

/-- The data block with all fields cleared but those that records of a number use. -/
def usedBy (n : UInt32) (d : DataBlock) : DataBlock where
  keycode := if 3 ≤ n ∧ n ≤ 5 then d.keycode else 0
  rawcode := if 3 ≤ n ∧ n ≤ 5 then d.rawcode else none
  x := if 6 ≤ n ∧ n ≤ 11 then d.x else 0
  y := if 6 ≤ n ∧ n ≤ 11 then d.y else 0
  button := if 6 ≤ n ∧ n ≤ 10 then d.button else 0
  amount := if n = 11 then d.amount else 0
  rotation := if n = 11 then d.rotation else 0

structure AgreesOn (n : UInt32) (a b : DataBlock) : Prop where
  key : 3 ≤ n ∧ n ≤ 5 → a.keycode = b.keycode ∧ a.rawcode = b.rawcode
  position : 6 ≤ n ∧ n ≤ 11 → a.x = b.x ∧ a.y = b.y
  button : 6 ≤ n ∧ n ≤ 10 → a.button = b.button
  wheel : n = 11 → a.amount = b.amount ∧ a.rotation = b.rotation

theorem usedBy_eq_iff {n : UInt32} {a b : DataBlock} :
    a.usedBy n = b.usedBy n ↔ AgreesOn n a b := by
  constructor
  · intro same
    simp only [usedBy, mk.injEq] at same
    obtain ⟨keycode, rawcode, x, y, button, amount, rotation⟩ := same
    refine ⟨fun used => ?_, fun used => ?_, fun used => ?_, fun used => ?_⟩
    · simpa only [used, and_self, if_true] using And.intro keycode rawcode
    · simpa only [used, and_self, if_true] using And.intro x y
    · simpa only [used, and_self, if_true] using button
    · simpa only [used, if_true] using And.intro amount rotation
  · rintro ⟨key, position, button, wheel⟩
    simp only [usedBy, mk.injEq]
    refine ⟨?_, ?_, ?_, ?_, ?_, ?_, ?_⟩ <;> split
    all_goals simp_all

theorem usedBy_eq_blank {n : UInt32} (unknown : ¬(1 ≤ n ∧ n ≤ 11)) (d : DataBlock) :
    d.usedBy n = blank := by
  have unused {low high : UInt32} (within : 1 ≤ low ∧ high ≤ 11) : ¬(low ≤ n ∧ n ≤ high) :=
    fun used =>
      unknown ⟨UInt32.le_trans within.1 used.1, UInt32.le_trans used.2 within.2⟩
  have noKey : ¬(3 ≤ n ∧ n ≤ 5) := unused (by decide)
  have noPosition : ¬(6 ≤ n ∧ n ≤ 11) := unused (by decide)
  have noButton : ¬(6 ≤ n ∧ n ≤ 10) := unused (by decide)
  have noWheel : n ≠ 11 := by
    rintro rfl
    exact unknown (by decide)
  simp only [usedBy, noKey, noPosition, noButton, noWheel, if_false, blank]

end DataBlock

namespace Payload

theorem number_payload (k : Kind) (d : DataBlock) : (k.payload d).number = k.number := by
  cases k <;> rfl

theorem data_payload (k : Kind) (d : DataBlock) : (k.payload d).data = d.usedBy k.number := by
  cases k <;> rfl

theorem payload_usedBy (k : Kind) (d : DataBlock) :
    k.payload (d.usedBy k.number) = k.payload d := by
  cases k <;> rfl

theorem payload_of_kind? {p : Payload} {k : Kind} (known : p.kind? = some k) :
    p.number = k.number ∧ k.payload p.data = p := by
  cases p <;> cases known <;> exact ⟨rfl, rfl⟩

theorem kind?_eq_none_iff {p : Payload} : p.kind? = none ↔ ∃ n, p = unrecognized n := by
  cases p <;> simp [kind?]

theorem number_ofNumber (n : UInt32) (d : DataBlock) : (ofNumber n d).number = n := by
  unfold ofNumber
  cases known : Kind.ofNumber? n with
  | none => rfl
  | some k => rw [number_payload, Kind.ofNumber?_eq_some_iff.mp known]

theorem data_ofNumber (n : UInt32) (d : DataBlock) : (ofNumber n d).data = d.usedBy n := by
  unfold ofNumber
  cases known : Kind.ofNumber? n with
  | none =>
    rw [DataBlock.usedBy_eq_blank ((Kind.ofNumber?_eq_none_iff n).mp known)]
    rfl
  | some k => rw [data_payload, Kind.ofNumber?_eq_some_iff.mp known]

theorem ofNumber_usedBy (n : UInt32) (d : DataBlock) :
    ofNumber n (d.usedBy n) = ofNumber n d := by
  unfold ofNumber
  cases known : Kind.ofNumber? n with
  | none => rfl
  | some k =>
    rw [← Kind.ofNumber?_eq_some_iff.mp known]
    exact payload_usedBy k d

/-- An unrecognized payload with the number of a known kind. -/
def Mislabelled : Payload → Prop
  | unrecognized n => 1 ≤ n ∧ n ≤ 11
  | _ => False

theorem not_mislabelled_of_kind? {p : Payload} {k : Kind} (known : p.kind? = some k) :
    ¬p.Mislabelled := by
  cases p <;> cases known <;> exact id

theorem not_mislabelled_ofNumber (n : UInt32) (d : DataBlock) : ¬(ofNumber n d).Mislabelled := by
  unfold ofNumber
  cases known : Kind.ofNumber? n with
  | none => exact (Kind.ofNumber?_eq_none_iff n).mp known
  | some k => cases k <;> exact id

theorem kind?_eq_ofNumber?_iff (p : Payload) :
    p.kind? = Kind.ofNumber? p.number ↔ ¬p.Mislabelled := by
  cases kind : p.kind? with
  | some k =>
    have number := (payload_of_kind? kind).1
    have faithful := not_mislabelled_of_kind? kind
    simp only [number, Kind.ofNumber?_number, faithful, not_false_iff]
  | none =>
    obtain ⟨n, rfl⟩ := kind?_eq_none_iff.mp kind
    rw [eq_comm]
    exact Kind.ofNumber?_eq_none_iff n

theorem number_eq_zero_iff (p : Payload) : p.number = 0 ↔ p = unrecognized 0 := by
  cases p <;> simp [number, kind?, Kind.number]

end Payload

namespace Event

theorem toRecord_ofRecord (r : Record) :
    (ofRecord r).toRecord = ⟨r.kind, r.mask, r.data.usedBy r.kind⟩ := by
  simp only [toRecord, ofRecord, number, Payload.number_ofNumber, Payload.data_ofNumber]

theorem ofRecord_usedBy (r : Record) :
    ofRecord ⟨r.kind, r.mask, r.data.usedBy r.kind⟩ = ofRecord r := by
  simp only [ofRecord, Payload.ofNumber_usedBy]

/-- A record keeps exactly the fields its kind uses: the event has its mask, is written with its kind
and mask and the fields of that kind, and reads back the same; and another record reads as the same
event exactly if it has the same kind and mask and the same values in those fields. -/
theorem ofRecord_keeps_used_fields (r : Record) :
    let e := ofRecord r
    e.mask = r.mask ∧
    e.toRecord = ⟨r.kind, r.mask, r.data.usedBy r.kind⟩ ∧
    ofRecord e.toRecord = e ∧
    ∀ other : Record, ofRecord other = e ↔
      other.kind = r.kind ∧ other.mask = r.mask ∧ other.data.AgreesOn r.kind r.data := by
  intro e
  have written : e.toRecord = ⟨r.kind, r.mask, r.data.usedBy r.kind⟩ := toRecord_ofRecord r
  refine ⟨rfl, written, ?_, fun other => ⟨fun same => ?_, ?_⟩⟩
  · rw [written]
    exact ofRecord_usedBy r
  · have records := congrArg toRecord same
    rw [written, toRecord_ofRecord, Record.mk.injEq] at records
    obtain ⟨kind, mask, data⟩ := records
    rw [kind] at data
    exact ⟨kind, mask, DataBlock.usedBy_eq_iff.mp data⟩
  · rintro ⟨kind, mask, data⟩
    rw [← ofRecord_usedBy other, kind, mask, DataBlock.usedBy_eq_iff.mpr data]
    exact ofRecord_usedBy r

theorem ofRecord_toRecord {e : Event} (faithful : ¬e.payload.Mislabelled) :
    ofRecord e.toRecord = e := by
  obtain ⟨payload, mask⟩ := e
  have reads : Payload.ofNumber payload.number payload.data = payload := by
    unfold Payload.ofNumber
    cases kind : payload.kind? with
    | some k =>
      obtain ⟨number, read⟩ := Payload.payload_of_kind? kind
      rw [number, Kind.ofNumber?_number]
      exact read
    | none =>
      obtain ⟨n, rfl⟩ := Payload.kind?_eq_none_iff.mp kind
      have unknown : Kind.ofNumber? n = none := (Kind.ofNumber?_eq_none_iff n).mpr faithful
      simp only [Payload.number, unknown]
  simp only [ofRecord, toRecord, number, reads]

theorem ofRecord_toRecord_iff {e : Event} :
    ofRecord e.toRecord = e ↔ ¬e.payload.Mislabelled := by
  constructor
  -- whatever is read from a record is labelled rightly, so no other event comes back
  · intro same
    rw [← same]
    exact Payload.not_mislabelled_ofNumber _ _
  · exact ofRecord_toRecord

theorem ofRecord_toRecord_mislabelled {e : Event} (wrong : e.payload.Mislabelled) :
    ∃ k : Kind, k.number = e.number ∧ ofRecord e.toRecord = ⟨k.payload .blank, e.mask⟩ := by
  obtain ⟨payload, mask⟩ := e
  cases payload with
  | unrecognized n =>
    obtain ⟨k, known⟩ := Option.isSome_iff_exists.mp ((Kind.ofNumber?_isSome_iff n).mpr wrong)
    refine ⟨k, Kind.ofNumber?_eq_some_iff.mp known, ?_⟩
    simp only [ofRecord, toRecord, number, Payload.number, Payload.data, Payload.ofNumber, known]
  | _ => exact wrong.elim

/-- An event that is written and read back is itself again, unless it is mislabelled: then it becomes
the event of the known kind with blank data. The same events are those whose kind can be told from
their number. Only an unrecognized payload has no kind, and only the one numbered 0 has that
number. -/
theorem ofRecord_toRecord_eq_iff (e : Event) :
    (ofRecord e.toRecord = e ↔ ¬e.payload.Mislabelled) ∧
    (e.payload.Mislabelled → ∃ k : Kind, k.number = e.number ∧
      ofRecord e.toRecord = ⟨k.payload .blank, e.mask⟩) ∧
    (e.payload.kind? = Kind.ofNumber? e.number ↔ ¬e.payload.Mislabelled) ∧
    (e.payload.kind? = none ↔ ∃ n, e.payload = .unrecognized n) ∧
    (e.number = 0 ↔ e.payload = .unrecognized 0) :=
  ⟨ofRecord_toRecord_iff, ofRecord_toRecord_mislabelled, e.payload.kind?_eq_ofNumber?_iff,
    Payload.kind?_eq_none_iff, e.payload.number_eq_zero_iff⟩

/-- A payload that bears the number of button presses becomes a press of no button at the origin. -/
example (mask : ModifierMask) :
    ofRecord (toRecord ⟨.unrecognized 7, mask⟩) = ⟨.mousePressed ⟨0, 0, 0⟩, mask⟩ := rfl

end Event
end InputReplay

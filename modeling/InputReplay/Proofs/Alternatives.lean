import InputReplay.Native.Codec
import InputReplay.Proofs.Replay

/-! Payloads and native descriptors come back from their values. The data of an alternative may come
back in any order of its entries, and an alternative without data may also come as an entry with
null. -/

namespace InputReplay

/-- A value whose alternative is the same as that of another and whose data differ from its data in
the order of the entries only. -/
inductive Value.Rearranged : Value → Value → Prop
  | bare (name : String) : Rearranged (.string name) (.string name)
  | tagged (name : String) {data other : Value} (same : data.Reordered other) :
    Rearranged (.map [(name, data)]) (.map [(name, other)])

/-- Values that a reader takes back to what they were written from, in any order of the entries. No
value is written from two things. -/
structure Faithful {α : Type} (read : Decoder α) (toValue : α → Value) : Prop where
  value : ∀ f a, read f (toValue a) = .ok a
  rearranged : ∀ f a v, v.Rearranged (toValue a) → read f v = .ok a
  injective : ∀ a b, toValue a = toValue b → a = b

/-- Records whose values are maps with an entry for each field of a layout, in its order. -/
structure RecordLayout.Writes {α : Type} (l : RecordLayout α) (toValue : α → Value) : Prop where
  distinct : (l.fields.map Field.name).Nodup
  named : ∀ a, ∃ entries, toValue a = .map entries ∧ entries.map Prod.fst = l.fields.map Field.name
  reads : ∀ f a, l.read f (toValue a) = .ok a

theorem RecordLayout.writes_of_fields {α : Type} {l : RecordLayout α}
    {entries : α → List (String × Value)} (distinct : (l.fields.map Field.name).Nodup)
    (named : ∀ a, (entries a).map Prod.fst = l.fields.map Field.name)
    (fields : ∀ f a, (∀ field ∈ l.fields, field.Accepts f (entries a)) ∧
      l.fields.foldl (fun b field => field.change f (entries a) b) l.blank = a) :
    l.Writes fun a => .map (entries a) where
  distinct := distinct
  named a := ⟨entries a, rfl, named a⟩
  reads f a := (ofEntries_eq_ok_iff distinct).mpr (fields f a)

theorem RecordLayout.Writes.read_reordered {α : Type} {l : RecordLayout α} {toValue : α → Value}
    (writes : l.Writes toValue) {f : Format} {a : α} {v : Value} (same : v.Reordered (toValue a)) :
    l.read f v = .ok a := by
  obtain ⟨entries, written, names⟩ := writes.named a
  refine RecordLayout.read_reordered writes.distinct same ?_ (writes.reads f a)
  intro others other
  obtain rfl := Value.map.inj (written.symm.trans other)
  rw [names]
  exact writes.distinct

def Alternative.RefusesNull {α : Type} : Alternative α → Prop
  | payload read => ∀ f a, read f .null ≠ .ok a
  | bare _ | labelled _ => True

namespace Choice

variable {α : Type} {c : Choice α} {f : Format} {name : String}

/-- How an alternative is written: by its name, or as an entry of its name with data that read back
in any order. -/
inductive Writes (c : Choice α) (a : α) : Value → Prop
  | bare {name : String} (listed : c.alternatives.lookup name = some (.bare a)) :
    Writes c a (.string name)
  | payload {name : String} {read : Decoder α} {entries : List (String × Value)}
    (listed : c.alternatives.lookup name = some (.payload read))
    (reads : ∀ f v, v.Reordered (.map entries) → read f v = .ok a) :
    Writes c a (.map [(name, .map entries)])
  | labelled {name : String} {read : Decoder α} {entries : List (String × Value)}
    (listed : c.alternatives.lookup name = some (.labelled read))
    (reads : ∀ f v, v.Reordered (.map entries) → read f v = .ok a) :
    Writes c a (.map [(name, .map entries)])

theorem Writes.rearranged_self {a : α} {v : Value} (writes : c.Writes a v) : v.Rearranged v := by
  cases writes with
  | bare _ => exact .bare _
  | payload _ _ | labelled _ _ => exact .tagged _ (.refl _)

theorem Writes.read_rearranged {a : α} {v w : Value} (writes : c.Writes a w)
    (same : v.Rearranged w) : c.read f v = .ok a := by
  cases writes with
  | bare listed =>
    cases same
    simp only [read, ofName, listed]
  | payload listed reads =>
    cases same with
    | tagged _ same => simp only [read, ofEntry, listed, reads f _ same]
  | labelled listed reads =>
    cases same with
    | tagged _ same =>
      -- what differs in the order of its entries only is a map, as labels require
      obtain ⟨entries, _, rfl, _, _⟩ := id same
      simp only [read, ofEntry, listed, reads f _ same]

theorem faithful {toValue : α → Value} (writes : ∀ a, c.Writes a (toValue a)) :
    Faithful c.read toValue := by
  have value (f : Format) (a : α) : c.read f (toValue a) = .ok a :=
    (writes a).read_rearranged (writes a).rearranged_self
  refine ⟨value, fun f a v same => (writes a).read_rearranged same, fun a b same => ?_⟩
  have read := value .json a
  rw [same, value .json b] at read
  exact (Except.ok.inj read).symm

theorem ofName_eq_ok_iff {toValue : α → Value} (writes : ∀ a, c.Writes a (toValue a))
    (bare : ∀ e ∈ c.alternatives, ∀ a, e.2 = .bare a → toValue a = .string e.1) {a : α} :
    c.ofName name = .ok a ↔ toValue a = .string name := by
  constructor
  · intro reads
    unfold ofName at reads
    split at reads
    case h_2 value listed =>
      obtain rfl := Except.ok.inj reads
      obtain ⟨before, after, split, -⟩ := List.lookup_eq_some_iff.mp listed
      exact bare (name, .bare value) (by simp [split]) value rfl
    all_goals cases reads
  · intro written
    have plain := writes a
    rw [written] at plain
    exact plain.read_rearranged (f := .json) (.bare name)

theorem ofEntry_null_eq_ok_iff (refuses : ∀ e ∈ c.alternatives, e.2.RefusesNull) {a : α} :
    c.ofEntry f name .null = .ok a ↔ c.ofName name = .ok a := by
  unfold ofEntry ofName
  cases listed : c.alternatives.lookup name with
  | none => rfl
  | some alternative =>
    cases alternative with
    | bare _ => rfl
    | payload read =>
      obtain ⟨before, after, split, -⟩ := List.lookup_eq_some_iff.mp listed
      have refused := refuses (name, .payload read) (by simp [split]) f a
      simp [refused]
    | labelled _ => simp

end Choice

section Records

open Decoder

theorem KeyStroke.writes : layout.Writes toValue := by
  refine RecordLayout.writes_of_fields (by decide) (fun _ => rfl) fun f k => ?_
  have rawcode := (nullable_u16_eq_ok_iff (f := f) (c := k.rawcode)).mpr rfl
  simp [layout, List.lookup_cons, u16_toNat, rawcode]

theorem PointerPoint.writes : layout.Writes toValue := by
  refine RecordLayout.writes_of_fields (by decide) (fun _ => rfl) fun f p => ?_
  simp [layout, List.lookup_cons, u16_toNat, i32_toInt]

theorem WheelTurn.writes : layout.Writes toValue := by
  refine RecordLayout.writes_of_fields (by decide) (fun _ => rfl) fun f w => ?_
  simp [layout, List.lookup_cons, i32_toInt]

theorem Payload.unrecognized_writes :
    unrecognizedLayout.Writes fun n => .map [("kind", .int n.toNat)] := by
  refine RecordLayout.writes_of_fields (by decide) (fun _ => rfl) fun f n => ?_
  simp [unrecognizedLayout, u32_toNat]

theorem KeyFlags.read_toValue (f : Format) (flags : KeyFlags) : read f flags.toValue = .ok flags := by
  simp [read, toValue, u32_toNat, Except.map]

theorem MouseFlags.read_toValue (f : Format) (flags : MouseFlags) :
    read f flags.toValue = .ok flags := by
  simp [read, toValue, u32_toNat, Except.map]

theorem KeyInput.writes : layout.Writes toValue := by
  refine RecordLayout.writes_of_fields (by decide) (fun _ => rfl) fun f k => ?_
  simp [layout, List.lookup_cons, u16_toNat, KeyFlags.read_toValue]

theorem MouseInput.writes : layout.Writes toValue := by
  refine RecordLayout.writes_of_fields (by decide) (fun _ => rfl) fun f m => ?_
  simp [layout, List.lookup_cons, i32_toInt, MouseFlags.read_toValue]

end Records

theorem Payload.writes (p : Payload) : choice.Writes p p.toValue := by
  cases p with
  | hookEnabled | hookDisabled => exact .bare rfl
  | keyTyped k | keyPressed k | keyReleased k =>
    refine .payload rfl fun f v same => ?_
    simp only [KeyStroke.read, KeyStroke.writes.read_reordered same, Except.map]
  | mouseClicked p | mousePressed p | mouseReleased p | mouseMoved p | mouseDragged p =>
    refine .payload rfl fun f v same => ?_
    simp only [PointerPoint.read, PointerPoint.writes.read_reordered same, Except.map]
  | mouseWheel w =>
    refine .payload rfl fun f v same => ?_
    simp only [WheelTurn.read, WheelTurn.writes.read_reordered same, Except.map]
  | unrecognized n =>
    refine .labelled rfl fun f v same => ?_
    simp only [unrecognized_writes.read_reordered same, Except.map]

theorem Payload.bare_toValue : ∀ e ∈ choice.alternatives, ∀ p, e.2 = .bare p →
    p.toValue = .string e.1 := by
  simp [choice, toValue]

theorem Payload.refusesNull : ∀ e ∈ choice.alternatives, e.2.RefusesNull := by
  have refuses {β : Type} (l : RecordLayout β) (g : β → Payload) :
      Alternative.RefusesNull (.payload fun f v => (l.read f v).map g) := by
    intro f p
    nofun
  simp only [choice, List.forall_mem_cons]
  exact ⟨trivial, trivial, refuses _ _, refuses _ _, refuses _ _, refuses _ _, refuses _ _,
    refuses _ _, refuses _ _, refuses _ _, refuses _ _, trivial, by simp⟩

theorem Descriptor.writes (d : Descriptor) : choice.Writes d d.toValue := by
  cases d with
  | keyboard k =>
    refine .payload rfl fun f v same => ?_
    simp only [KeyInput.read, KeyInput.writes.read_reordered same, Except.map]
  | mouse m =>
    refine .payload rfl fun f v same => ?_
    simp only [MouseInput.read, MouseInput.writes.read_reordered same, Except.map]

theorem payloads_and_descriptors_faithful :
    Faithful Payload.read Payload.toValue ∧ Faithful Descriptor.read Descriptor.toValue ∧
    ∀ f name p,
      (Payload.read f (.string name) = .ok p ↔ p.toValue = .string name) ∧
      (Payload.read f (.map [(name, .null)]) = .ok p ↔ p.toValue = .string name) := by
  refine ⟨Choice.faithful Payload.writes, Choice.faithful Descriptor.writes, fun f name p => ?_⟩
  have named : Payload.read f (.string name) = .ok p ↔ p.toValue = .string name :=
    Choice.ofName_eq_ok_iff Payload.writes Payload.bare_toValue
  have nulled : Payload.read f (.map [(name, .null)]) = .ok p ↔
      Payload.read f (.string name) = .ok p :=
    Choice.ofEntry_null_eq_ok_iff Payload.refusesNull
  exact ⟨named, nulled.trans named⟩

theorem payloads_and_descriptors_faithful_sorted :
    let d : Descriptor := .mouse ⟨0, -7, -1, ⟨4096⟩⟩
    let sorted : Value :=
      .map [("Mouse", .map [("dx", .int 0), ("dy", .int (-7)), ("flags", .int 4096),
        ("mouse_data", .int (-1))])]
    sorted.Rearranged d.toValue ∧ Descriptor.read .json sorted = .ok d := by
  intro d sorted
  have same : sorted.Rearranged d.toValue :=
    .tagged "Mouse" ⟨_, _, rfl, rfl, .cons _ (.cons _ (.swap _ _ []))⟩
  exact ⟨same, payloads_and_descriptors_faithful.2.1.rearranged .json d sorted same⟩

example : Payload.read .json (.map [("Unrecognized", .map [("kind", .int 9)])]) =
    .ok (.unrecognized 9) := rfl

end InputReplay

import InputReplay.Event.Document
import InputReplay.Proofs.RecordFormat
import InputReplay.Proofs.Records
import InputReplay.Proofs.Toml.Document

/-! Recorded events replay unchanged. A record reads back from its value, in whatever order the
entries stand, and from its document, which leaves an absent raw code out. -/

namespace InputReplay

/-- The values of two maps that differ in the order of their entries only. -/
def Value.Reordered (v w : Value) : Prop :=
  ∃ a b : List (String × Value), v = .map a ∧ w = .map b ∧ a.Perm b

theorem Value.Reordered.refl (entries : List (String × Value)) :
    (map entries).Reordered (map entries) :=
  ⟨entries, entries, rfl, rfl, .refl _⟩

theorem RecordLayout.read_reordered {α : Type} {l : RecordLayout α} {f : Format} {v w : Value}
    (distinct : (l.fields.map Field.name).Nodup) (same : v.Reordered w)
    (apart : ∀ entries, w = .map entries → (entries.map Prod.fst).Nodup) {a : α}
    (read : l.read f w = .ok a) : l.read f v = .ok a := by
  obtain ⟨entries, others, rfl, rfl, perm⟩ := same
  exact (ofEntries_perm distinct perm.symm (apart others rfl)).mp read

namespace DataBlock

/-- Entries that hold the fields of a data block. An absent raw code is null or left out. -/
structure HeldBy (d : DataBlock) (entries : List (String × Value)) : Prop where
  keycode : entries.lookup "keycode" = some (.int d.keycode.toNat)
  rawcode : (entries.lookup "rawcode").getD .null = .optional (d.rawcode.map fun c => c.toNat)
  x : entries.lookup "x" = some (.int d.x.toInt)
  y : entries.lookup "y" = some (.int d.y.toInt)
  button : entries.lookup "button" = some (.int d.button.toNat)
  amount : entries.lookup "amount" = some (.int d.amount.toInt)
  rotation : entries.lookup "rotation" = some (.int d.rotation.toInt)

theorem HeldBy.givenBy {d : DataBlock} {entries : List (String × Value)} (held : d.HeldBy entries) :
    d.GivenBy entries where
  keycode := by rw [held.keycode, Option.getD_some]
  rawcode := held.rawcode
  x := by rw [held.x, Option.getD_some]
  y := by rw [held.y, Option.getD_some]
  button := by rw [held.button, Option.getD_some]
  amount := by rw [held.amount, Option.getD_some]
  rotation := by rw [held.rotation, Option.getD_some]

theorem read_heldBy {d : DataBlock} {entries : List (String × Value)} (held : d.HeldBy entries)
    (f : Format) : read f (.map entries) = .ok d :=
  ofEntries_eq_ok_iff.mpr held.givenBy

theorem read_toValue (d : DataBlock) (f : Format) : read f d.toValue = .ok d := by
  refine read_heldBy ?_ f
  constructor <;> simp [List.lookup_cons]

theorem read_toTable (d : DataBlock) (f : Format) : read f d.toTable.toValue = .ok d := by
  refine read_heldBy ?_ f
  obtain ⟨keycode, rawcode, x, y, button, amount, rotation⟩ := d
  cases rawcode
  all_goals
    constructor <;> simp [toTable, Toml.Plain.toValue, List.lookup_cons, Value.optional]

theorem names_toTable (d : DataBlock) :
    (d.toTable.entries.map Prod.fst).Sublist (layout.fields.map Field.name) := by
  obtain ⟨keycode, rawcode, x, y, button, amount, rotation⟩ := d
  cases rawcode with
  | none => exact .cons_cons "keycode" (.cons "rawcode" (.refl _))
  | some c => exact .refl _

theorem writable_toTable (d : DataBlock) : Toml.Writable d.toTable.entries where
  bare := by
    have names : ∀ name ∈ layout.fields.map Field.name, Toml.IsBareName name := by decide
    exact fun e member => names e.1 (d.names_toTable.subset (List.mem_map_of_mem member))
  distinct := d.names_toTable.nodup layout_distinct
  fits := by
    obtain ⟨keycode, rawcode, x, y, button, amount, rotation⟩ := d
    cases rawcode <;> simp [toTable]

end DataBlock

namespace Record

theorem read_mask (f : Format) (m : ModifierMask) : ModifierMask.read f m.toValue = .ok m := by
  simp [ModifierMask.read, ModifierMask.toValue, Decoder.u16_toNat, Except.map]

theorem read_entries (r : Record) {f : Format} {data : Value}
    (reads : DataBlock.read f data = .ok r.data) :
    read f (.map [("kind", .int r.kind.toNat), ("mask", r.mask.toValue), ("data", data)]) = .ok r := by
  refine (RecordLayout.ofEntries_eq_ok_iff layout_distinct).mpr ?_
  simp [layout, List.lookup_cons, Decoder.u32_toNat, read_mask, reads]

/-- The value of a record, in which the entries of both maps may stand in any order. -/
def WrittenAs (r : Record) (v : Value) : Prop :=
  ∃ data : Value, data.Reordered r.data.toValue ∧
    v.Reordered (.map [("kind", .int r.kind.toNat), ("mask", r.mask.toValue), ("data", data)])

theorem read_writtenAs {r : Record} {v : Value} (written : r.WrittenAs v) (f : Format) :
    read f v = .ok r := by
  obtain ⟨data, inner, outer⟩ := written
  have reads : DataBlock.read f data = .ok r.data := by
    refine RecordLayout.read_reordered DataBlock.layout_distinct inner ?_ (r.data.read_toValue f)
    rintro entries ⟨⟩
    simp
  refine RecordLayout.read_reordered layout_distinct outer ?_ (r.read_entries reads)
  rintro entries ⟨⟩
  simp

theorem writable_toDocument (r : Record) : r.toDocument.Writable where
  entries := ⟨by simp +decide [toDocument], by simp [toDocument], by simp [toDocument]⟩
  tables := by
    have bare : Toml.IsBareName r.data.toTable.name := (by decide : Toml.IsBareName "data")
    simp [toDocument, r.data.writable_toTable, bare]
  distinct := by simp [toDocument, DataBlock.toTable]

theorem ofToml_text (r : Record) : read.ofToml r.toDocument.text = .ok r := by
  have value : r.toDocument.toValue =
      .map [("kind", .int r.kind.toNat), ("mask", r.mask.toValue), ("data", r.data.toTable.toValue)] :=
    rfl
  have reads := r.read_entries (r.data.read_toTable .toml)
  rw [← value] at reads
  simp only [Decoder.ofToml, Toml.read_text r.writable_toDocument, reads, Except.mapError]

end Record

namespace Event

theorem read_writtenAs {e : Event} {v : Value} (written : e.toRecord.WrittenAs v) :
    read .json v = .ok (ofRecord e.toRecord) := by
  simp only [read, Record.read_writtenAs written, Except.map]

theorem ofToml_eq_map (text : String) : ofToml text = (Record.read.ofToml text).map ofRecord := by
  unfold ofToml Decoder.ofToml
  cases Toml.read text with
  | none => rfl
  | some v => cases result : Record.read .toml v <;> simp [read, result, Except.map, Except.mapError]

theorem ofToml_toToml (e : Event) : ofToml e.toToml = .ok (ofRecord e.toRecord) := by
  rw [ofToml_eq_map, toToml, Record.ofToml_text]
  rfl

/-- An event that comes back from its value, in any order of the entries, and from its document. -/
structure Replays (e : Event) : Prop where
  value : read .json e.toValue = .ok e
  reordered : ∀ v, e.toRecord.WrittenAs v → read .json v = .ok e
  document : ofToml e.toToml = .ok e

theorem replays_iff (e : Event) : e.Replays ↔ ofRecord e.toRecord = e := by
  have inOrder : e.toRecord.WrittenAs e.toValue := ⟨_, .refl _, .refl _⟩
  constructor
  · intro replays
    exact Except.ok.inj ((ofToml_toToml e).symm.trans replays.document)
  · intro same
    have reads {v : Value} (written : e.toRecord.WrittenAs v) : read .json v = .ok e := by
      rw [read_writtenAs written, same]
    exact ⟨reads inOrder, fun _ => reads, by rw [ofToml_toToml, same]⟩

/-- Just the events that are not mislabelled replay unchanged. Every event read from a record does. -/
theorem recorded_events_replay_unchanged :
    (∀ e : Event, e.Replays ↔ ¬e.payload.Mislabelled) ∧ ∀ r : Record, (ofRecord r).Replays := by
  have replays (e : Event) : e.Replays ↔ ¬e.payload.Mislabelled := by
    rw [replays_iff, ofRecord_toRecord_iff]
  exact ⟨replays, fun r => (replays _).mpr (Payload.not_mislabelled_ofNumber r.kind r.data)⟩

example : toToml ⟨.keyPressed ⟨30, none⟩, ⟨1⟩⟩ =
    "kind = 4\nmask = 1\n\n[data]\nkeycode = 30\nx = 0\ny = 0\n" ++
      "button = 0\namount = 0\nrotation = 0\n" := by
  decide

end Event
end InputReplay

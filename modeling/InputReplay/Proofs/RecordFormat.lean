import InputReplay.Event.Document
import InputReplay.Proofs.Shapes

/-! The format of recorded events. Which values are in the format, and which record such a value
spells, is said here without the reader; the reader accepts just these values. -/

namespace InputReplay

def Value.IsInteger (low high : Int) (v : Value) : Prop := ∃ n, v = .int n ∧ low ≤ n ∧ n ≤ high

/-- A map without the entries under other names. -/
def Value.trim (names : List String) : Value → Value
  | map entries => map (entries.filter fun e => names.contains e.1)
  | v => v

namespace RecordLayout

variable {α : Type} {l : RecordLayout α} {f : Format}

theorem read_trim (v : Value) : l.read f (v.trim l.names) = l.read f v := by
  cases v with
  | map entries => exact ofEntries_filter_names
  | _ => rfl

theorem ofEntries_trim_parts {part : String → Value → Value}
    (same : ∀ field ∈ l.fields, ∀ v, field.read f (part field.name v) = field.read f v)
    (entries : List (String × Value)) :
    l.ofEntries f
        ((entries.filter fun e => l.names.contains e.1).map fun e => (e.1, part e.1 e.2)) =
      l.ofEntries f entries := by
  refine (ofEntries_congr ?_ fun field member => ?_).trans ofEntries_filter_names
  · rw [List.map_map]
    rfl
  · rw [lookup_map_name _ part, Option.map_map]
    exact congrArg (Option.map · _) (funext fun v => same field member v)

end RecordLayout

theorem exists_map_eq_ok {ε β γ : Type} {x : Except ε β} {g : β → γ} :
    (∃ c, x.map g = .ok c) ↔ ∃ b, x = .ok b := by
  cases x <;> simp [Except.map]

namespace Decoder

variable {f : Format} {v : Value}

theorem exists_u16 : (∃ k, u16 f v = .ok k) ↔ v.IsInteger 0 65535 := by
  simp only [u16, exists_map_eq_ok, integer_eq_ok_iff]
  rfl

theorem exists_u32 : (∃ k, u32 f v = .ok k) ↔ v.IsInteger 0 4294967295 := by
  simp only [u32, exists_map_eq_ok, integer_eq_ok_iff]
  rfl

theorem exists_i32 : (∃ k, i32 f v = .ok k) ↔ v.IsInteger (-2147483648) 2147483647 := by
  simp only [i32, exists_map_eq_ok, integer_eq_ok_iff]
  rfl

theorem exists_nullable {α : Type} {read : Decoder α} :
    (∃ c, nullable read f v = .ok c) ↔ v = .null ∨ ∃ a, read f v = .ok a := by
  unfold nullable
  split
  case h_1 => simp
  case h_2 present => rw [exists_map_eq_ok, or_iff_right present]

theorem exists_nullable_u16 : (∃ c, nullable u16 f v = .ok c) ↔ v = .null ∨ v.IsInteger 0 65535 := by
  rw [exists_nullable, exists_u16]

theorem u16_zero : u16 f (.int 0) = .ok 0 := rfl

theorem i32_zero : i32 f (.int 0) = .ok 0 := rfl

theorem nullable_null : nullable u16 f .null = .ok none := rfl

end Decoder

namespace DataBlock

def names : List String := ["keycode", "rawcode", "x", "y", "button", "amount", "rotation"]

/-- Entries that may stand in a data block. Each may be left out, and others do not matter. -/
structure Admits (entries : List (String × Value)) : Prop where
  keycode : ∀ v ∈ entries.lookup "keycode", v.IsInteger 0 65535
  rawcode : ∀ v ∈ entries.lookup "rawcode", v = .null ∨ v.IsInteger 0 65535
  x : ∀ v ∈ entries.lookup "x", v.IsInteger (-2147483648) 2147483647
  y : ∀ v ∈ entries.lookup "y", v.IsInteger (-2147483648) 2147483647
  button : ∀ v ∈ entries.lookup "button", v.IsInteger 0 65535
  amount : ∀ v ∈ entries.lookup "amount", v.IsInteger (-2147483648) 2147483647
  rotation : ∀ v ∈ entries.lookup "rotation", v.IsInteger (-2147483648) 2147483647

/-- The values that are data blocks. -/
def InFormat (v : Value) : Prop := ∃ entries, v.Gives names entries ∧ Admits entries

/-- The data block that entries give. To leave a number out is to give zero, and to leave the raw code
out is to give null, which is none. -/
structure GivenBy (d : DataBlock) (entries : List (String × Value)) : Prop where
  keycode : (entries.lookup "keycode").getD (.int 0) = .int d.keycode.toNat
  rawcode : (entries.lookup "rawcode").getD .null = .optional (d.rawcode.map fun c => c.toNat)
  x : (entries.lookup "x").getD (.int 0) = .int d.x.toInt
  y : (entries.lookup "y").getD (.int 0) = .int d.y.toInt
  button : (entries.lookup "button").getD (.int 0) = .int d.button.toNat
  amount : (entries.lookup "amount").getD (.int 0) = .int d.amount.toInt
  rotation : (entries.lookup "rotation").getD (.int 0) = .int d.rotation.toInt

/-- The data block that a value spells, by names or by positions. -/
def SpelledBy (d : DataBlock) (v : Value) : Prop :=
  ∃ entries, v.Gives names entries ∧ d.GivenBy entries

open Decoder

theorem layout_distinct : (layout.fields.map Field.name).Nodup := by
  decide

variable {f : Format} {entries : List (String × Value)} {d : DataBlock}

theorem accepts_iff_admits :
    (∀ field ∈ layout.fields, field.Accepts f entries) ↔ Admits entries := by
  simp only [layout, List.forall_mem_cons, Field.accepts_make_optional, exists_u16, exists_i32,
    exists_nullable_u16]
  constructor
  · rintro ⟨keycode, rawcode, x, y, button, amount, rotation, -⟩
    exact ⟨keycode, rawcode, x, y, button, amount, rotation⟩
  · rintro ⟨keycode, rawcode, x, y, button, amount, rotation⟩
    exact ⟨keycode, rawcode, x, y, button, amount, rotation, by simp⟩

theorem ofEntries_eq_ok_iff : layout.ofEntries f entries = .ok d ↔ d.GivenBy entries := by
  rw [RecordLayout.ofEntries_eq_ok_iff_fills layout_distinct]
  -- each field is still blank when its turn comes, as evaluation shows
  simp (disch := with_unfolding_all exact id rfl) only
    [layout, Field.fills_nil, Field.fills_optional u16_zero, Field.fills_optional i32_zero,
      Field.fills_optional nullable_null, u16_eq_ok_iff, i32_eq_ok_iff, nullable_u16_eq_ok_iff]
  constructor
  · rintro ⟨_, keycode, _, rawcode, _, x, _, y, _, button, _, amount, _, rotation, rfl⟩
    exact ⟨keycode, rawcode, x, y, button, amount, rotation⟩
  · rintro ⟨keycode, rawcode, x, y, button, amount, rotation⟩
    exact ⟨_, keycode, _, rawcode, _, x, _, y, _, button, _, amount, _, rotation, rfl⟩

theorem unnamed : ∀ field ∈ layout.fields, field.presence ≠ .optionalByName := by
  decide

variable {v : Value}

theorem read_eq_ok_iff : read .json v = .ok d ↔ d.SpelledBy v := by
  simp only [read, RecordLayout.read_json_eq_ok_iff layout_distinct unnamed, ofEntries_eq_ok_iff]
  rfl

theorem exists_read : (∃ d, read .json v = .ok d) ↔ InFormat v := by
  simp only [read, RecordLayout.exists_read_json layout_distinct unnamed, accepts_iff_admits]
  rfl

theorem read_trim (v : Value) : read f (v.trim names) = read f v := layout.read_trim v

def toItems (d : DataBlock) : Value :=
  .seq [.int d.keycode.toNat, .optional (d.rawcode.map fun c => c.toNat), .int d.x.toInt,
    .int d.y.toInt, .int d.button.toNat, .int d.amount.toInt, .int d.rotation.toInt]

theorem spelledBy_toValue (d : DataBlock) : d.SpelledBy d.toValue := by
  refine ⟨_, .map _, ?_⟩
  constructor <;> rfl

theorem spelledBy_toItems (d : DataBlock) : d.SpelledBy d.toItems := by
  refine ⟨_, .seq _ (Nat.le_refl _), ?_⟩
  constructor <;> rfl

end DataBlock

namespace Record

def names : List String := ["kind", "mask", "data"]

/-- Entries that may stand in a record. Only the kind must, and any number is a kind. -/
structure Admits (entries : List (String × Value)) : Prop where
  kind : ∃ v ∈ entries.lookup "kind", v.IsInteger 0 4294967295
  mask : ∀ v ∈ entries.lookup "mask", v.IsInteger 0 65535
  data : ∀ v ∈ entries.lookup "data", DataBlock.InFormat v

def InFormat (v : Value) : Prop := ∃ entries, v.Gives names entries ∧ Admits entries

/-- The record that entries give. To leave the data out is to give a block without entries. -/
structure GivenBy (r : Record) (entries : List (String × Value)) : Prop where
  kind : entries.lookup "kind" = some (.int r.kind.toNat)
  mask : (entries.lookup "mask").getD (.int 0) = .int r.mask.bits.toNat
  data : r.data.SpelledBy ((entries.lookup "data").getD (.map []))

def SpelledBy (r : Record) (v : Value) : Prop :=
  ∃ entries, v.Gives names entries ∧ r.GivenBy entries

theorem layout_distinct : (layout.fields.map Field.name).Nodup := by
  decide

theorem unnamed : ∀ field ∈ layout.fields, field.presence ≠ .optionalByName := by
  decide

variable {f : Format} {entries : List (String × Value)} {r : Record} {v : Value}

theorem accepts_iff_admits :
    (∀ field ∈ layout.fields, field.Accepts .json entries) ↔ Admits entries := by
  simp only [layout, List.forall_mem_cons, Field.accepts_make_required, Field.accepts_make_optional,
    ModifierMask.read, exists_map_eq_ok, Decoder.exists_u32, Decoder.exists_u16,
    DataBlock.exists_read]
  constructor
  · rintro ⟨kind, mask, data, -⟩
    exact ⟨kind, mask, data⟩
  · rintro ⟨kind, mask, data⟩
    exact ⟨kind, mask, data, by simp⟩

theorem read_mask_eq_ok_iff {m : ModifierMask} :
    ModifierMask.read f v = .ok m ↔ v = .int m.bits.toNat := by
  simp only [ModifierMask.read, Decoder.map_eq_ok_iff, Decoder.u16_eq_ok_iff]
  constructor
  · rintro ⟨bits, rfl, rfl⟩
    rfl
  · rintro rfl
    exact ⟨m.bits, rfl, rfl⟩

theorem ofEntries_eq_ok_iff : layout.ofEntries .json entries = .ok r ↔ r.GivenBy entries := by
  have noMask : ModifierMask.read .json (.int 0) = .ok .empty := rfl
  have noData : DataBlock.read .json (.map []) = .ok .blank := rfl
  rw [RecordLayout.ofEntries_eq_ok_iff_fills layout_distinct]
  simp (disch := with_unfolding_all exact id rfl) only
    [layout, Field.fills_nil, Field.fills_required, Field.fills_optional noMask,
      Field.fills_optional noData, Decoder.u32_eq_ok_iff, read_mask_eq_ok_iff,
      DataBlock.read_eq_ok_iff, exists_eq_right]
  constructor
  · rintro ⟨_, kind, _, mask, _, data, rfl⟩
    exact ⟨kind, mask, data⟩
  · rintro ⟨kind, mask, data⟩
    exact ⟨_, kind, _, mask, _, data, rfl⟩

theorem read_eq_ok_iff : read .json v = .ok r ↔ r.SpelledBy v := by
  simp only [read, RecordLayout.read_json_eq_ok_iff layout_distinct unnamed, ofEntries_eq_ok_iff]
  rfl

theorem exists_read : (∃ r, read .json v = .ok r) ↔ InFormat v := by
  simp only [read, RecordLayout.exists_read_json layout_distinct unnamed, accepts_iff_admits]
  rfl

/-- Of the parts of a record only the data has names in it. -/
def trimPart (name : String) (v : Value) : Value :=
  if name = "data" then v.trim DataBlock.names else v

/-- A record without the entries under other names, in the record and in its data block. -/
def trim : Value → Value
  | .map entries =>
    .map ((entries.filter fun e => names.contains e.1).map fun e => (e.1, trimPart e.1 e.2))
  | .seq items => .seq (items.modify 2 (Value.trim DataBlock.names))
  | v => v

theorem read_trimPart (v : Value) :
    ∀ field ∈ layout.fields, field.read f (trimPart field.name v) = field.read f v := by
  simp [layout, Field.make, trimPart, DataBlock.read_trim]

theorem read_trim (v : Value) : read f (trim v) = read f v := by
  cases v with
  | map entries =>
    have parts : ∀ field ∈ layout.fields, ∀ v,
        field.read f (trimPart field.name v) = field.read f v :=
      fun field member v => read_trimPart v field member
    exact RecordLayout.ofEntries_trim_parts parts entries
  | seq items =>
    rcases items with _ | ⟨kind, _ | ⟨mask, _ | ⟨data, rest⟩⟩⟩
    case cons.cons.cons =>
      have same := DataBlock.read_trim (f := f) data
      simp [trim, read, layout, RecordLayout.read, RecordLayout.ofItems, RecordLayout.ofItemsFrom,
        Field.make, same]
    all_goals rfl
  | _ => rfl

def toItems (r : Record) : Value :=
  .seq [.int r.kind.toNat, r.mask.toValue, r.data.toItems]

theorem spelledBy_toValue (r : Record) : r.SpelledBy r.toValue :=
  ⟨_, .map _, rfl, rfl, r.data.spelledBy_toValue⟩

theorem spelledBy_toItems (r : Record) : r.SpelledBy r.toItems :=
  ⟨_, .seq _ (Nat.le_refl _), rfl, rfl, r.data.spelledBy_toItems⟩

end Record

namespace Event

theorem read_eq_ok_iff {v : Value} {e : Event} :
    read .json v = .ok e ↔ ∃ r : Record, r.SpelledBy v ∧ ofRecord r = e := by
  simp only [read, Decoder.map_eq_ok_iff, Record.read_eq_ok_iff]

/-- An event is read from exactly the values in the format, and it is the event of the record that the
value spells. A field that is left out, one that is written with zero or null, and one that is given
by its position come to the same, and every number is read as a kind. Names that the format does not
have make no difference, in the record or in its data block. -/
theorem reads_exactly_the_format (v : Value) :
    ((∃ e, read .json v = .ok e) ↔ Record.InFormat v) ∧
    (∀ e, read .json v = .ok e ↔ ∃ r : Record, r.SpelledBy v ∧ ofRecord r = e) ∧
    (∀ r : Record, read .json r.toValue = .ok (ofRecord r) ∧
      read .json r.toItems = .ok (ofRecord r)) ∧
    read .json (Record.trim v) = read .json v := by
  have reads {r : Record} {w : Value} (spelled : r.SpelledBy w) :
      read .json w = .ok (ofRecord r) := read_eq_ok_iff.mpr ⟨r, spelled, rfl⟩
  refine ⟨?_, fun e => read_eq_ok_iff,
    fun r => ⟨reads r.spelledBy_toValue, reads r.spelledBy_toItems⟩, ?_⟩
  · rw [← Record.exists_read]
    exact exists_map_eq_ok
  · rw [read, read, Record.read_trim]

example : read .json (.seq [.int 9, .int 0, .map [("pen", .null), ("y", .int 3)]]) =
    .ok ⟨.mouseMoved ⟨0, 3, 0⟩, .empty⟩ := rfl

end Event
end InputReplay

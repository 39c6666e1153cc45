import InputReplay.Proofs.Entries
import InputReplay.Value.Decode

/-! What readers of typed data accept. A word is read back from its number. A record is read from the
entries of a map exactly if every field finds what it asks for, and then it has the changes of all
fields, so the order of the entries does not matter. -/

namespace InputReplay

namespace Decoder

variable (f : Format)

theorem integer_of_bounds {w : Width} {n : Int} (low : w.lower ≤ n) (high : n ≤ w.upper) :
    integer w f (.int n) = .ok n := by
  simp [integer, Width.admits, low, high]

theorem u16_toNat (n : UInt16) : u16 f (.int n.toNat) = .ok n := by
  have bound := n.toNat_lt
  have word : integer .u16 f (.int n.toNat) = .ok n.toNat :=
    integer_of_bounds f (by simp [Width.lower]) (by simp only [Width.upper]; omega)
  simp [u16, word, Except.map]

theorem u32_toNat (n : UInt32) : u32 f (.int n.toNat) = .ok n := by
  have bound := n.toNat_lt
  have word : integer .u32 f (.int n.toNat) = .ok n.toNat :=
    integer_of_bounds f (by simp [Width.lower]) (by simp only [Width.upper]; omega)
  simp [u32, word, Except.map]

theorem i32_toInt (n : Int32) : i32 f (.int n.toInt) = .ok n := by
  have high := n.toInt_lt
  have word : integer .i32 f (.int n.toInt) = .ok n.toInt :=
    integer_of_bounds f n.le_toInt (by simp only [Width.upper]; omega)
  simp [i32, word, Except.map]

variable {f} {v : Value}

theorem map_eq_ok_iff {ε β γ : Type} {x : Except ε β} {g : β → γ} {c : γ} :
    x.map g = .ok c ↔ ∃ b, x = .ok b ∧ g b = c := by
  cases x <;> simp [Except.map]

theorem integer_eq_ok_iff {w : Width} {n : Int} :
    integer w f v = .ok n ↔ v = .int n ∧ w.lower ≤ n ∧ n ≤ w.upper := by
  constructor
  · intro reads
    cases v with
    | int m =>
      by_cases admitted : w.admits m = true
      · simp only [integer, admitted, ↓reduceIte, Except.ok.injEq] at reads
        subst reads
        simpa [Width.admits] using admitted
      · simp [integer, admitted] at reads
    | _ => simp [integer] at reads
  · rintro ⟨rfl, low, high⟩
    exact integer_of_bounds f low high

theorem u16_eq_ok_iff {k : UInt16} : u16 f v = .ok k ↔ v = .int k.toNat := by
  constructor
  · intro reads
    obtain ⟨n, word, rfl⟩ := map_eq_ok_iff.mp reads
    obtain ⟨rfl, low, high⟩ := integer_eq_ok_iff.mp word
    simp only [Width.lower, Width.upper] at low high
    rw [Nat.toUInt16_eq, UInt16.toNat_ofNat_of_lt' (by simp only [UInt16.size]; omega),
      Int.toNat_of_nonneg low]
  · rintro rfl
    exact u16_toNat f k

theorem u32_eq_ok_iff {k : UInt32} : u32 f v = .ok k ↔ v = .int k.toNat := by
  constructor
  · intro reads
    obtain ⟨n, word, rfl⟩ := map_eq_ok_iff.mp reads
    obtain ⟨rfl, low, high⟩ := integer_eq_ok_iff.mp word
    simp only [Width.lower, Width.upper] at low high
    rw [Nat.toUInt32_eq, UInt32.toNat_ofNat_of_lt' (by simp only [UInt32.size]; omega),
      Int.toNat_of_nonneg low]
  · rintro rfl
    exact u32_toNat f k

theorem i32_eq_ok_iff {k : Int32} : i32 f v = .ok k ↔ v = .int k.toInt := by
  constructor
  · intro reads
    obtain ⟨n, word, rfl⟩ := map_eq_ok_iff.mp reads
    obtain ⟨rfl, low, high⟩ := integer_eq_ok_iff.mp word
    simp only [Width.lower, Width.upper] at low high
    rw [Int32.toInt_ofInt, Int.bmod_eq_of_le] <;> simp only [Int32.size] <;> omega
  · rintro rfl
    exact i32_toInt f k

theorem string_eq_ok_iff {text : String} : string f v = .ok text ↔ v = .string text := by
  cases v <;> simp [string]

theorem nullable_eq_ok_iff {α : Type} {read : Decoder α} {number : α → Int}
    (reads : ∀ {v : Value} {a : α}, read f v = .ok a ↔ v = .int (number a)) {a : Option α} :
    nullable read f v = .ok a ↔ v = .optional (a.map number) := by
  constructor
  · intro result
    unfold nullable at result
    split at result
    case h_1 =>
      cases result
      rfl
    case h_2 =>
      obtain ⟨b, word, rfl⟩ := map_eq_ok_iff.mp result
      exact reads.mp word
  · rintro rfl
    cases a with
    | none => rfl
    | some b =>
      have word : read f (.int (number b)) = .ok b := reads.mpr rfl
      simp [Value.optional, nullable, word, Except.map]

theorem nullable_u16_eq_ok_iff {c : Option UInt16} :
    nullable u16 f v = .ok c ↔ v = .optional (c.map fun n => n.toNat) :=
  nullable_eq_ok_iff u16_eq_ok_iff

theorem nullable_i32_eq_ok_iff {n : Option Int32} :
    nullable i32 f v = .ok n ↔ v = .optional (n.map fun n => n.toInt) :=
  nullable_eq_ok_iff i32_eq_ok_iff

end Decoder

variable {α : Type}

namespace Field

/-- What a field finds under its name can be read. Only a field that may be left out is content with
nothing. -/
def Accepts (field : Field α) (f : Format) (entries : List (String × Value)) : Prop :=
  match entries.lookup field.name with
  | none => field.presence ≠ .required
  | some v => ∃ set, field.read f v = .ok set

section Made

variable {β : Type} {name : String} {presence : Presence} {read : Decoder β} {set : β → α → α}
  {f : Format} {entries : List (String × Value)}

@[simp] theorem accepts_make : (make name presence read set).Accepts f entries ↔
    match entries.lookup name with
    | none => presence ≠ .required
    | some v => ∃ b, read f v = .ok b := by
  cases found : entries.lookup name with
  | none => simp [Accepts, make, found]
  | some v => cases result : read f v <;> simp [Accepts, make, found, result, Except.map]

@[simp] theorem change_make (a : α) : (make name presence read set).change f entries a =
    match entries.lookup name with
    | none => a
    | some v =>
      match read f v with
      | .ok b => set b a
      | .error _ => a := by
  cases found : entries.lookup name with
  | none => simp [change, make, found]
  | some v => cases result : read f v <;> simp [change, make, found, result, Except.map]

end Made
end Field

namespace RecordLayout

variable {l : RecordLayout α} {f : Format} {entries : List (String × Value)}

theorem fault?_eq_none (accepts : ∀ field ∈ l.fields, field.Accepts f entries) (name : String) :
    l.fault? f entries name = none := by
  unfold fault?
  split
  case h_1 field v found present =>
    have named : field.name = name := by simpa using List.find?_some found
    have accepted := accepts field (List.mem_of_find?_eq_some found)
    rw [Field.Accepts, named, present] at accepted
    obtain ⟨set, read⟩ := accepted
    simp [read]
  case h_2 => rfl

theorem find?_name (distinct : (l.fields.map Field.name).Nodup) {field : Field α}
    (member : field ∈ l.fields) : l.fields.find? (·.name == field.name) = some field := by
  cases found : l.fields.find? (·.name == field.name) with
  | none => exact absurd (List.find?_eq_none.mp found field member) (by simp)
  | some other =>
    have named : other.name = field.name := by simpa using List.find?_some found
    rw [List.inj_on_of_nodup_map distinct (List.mem_of_find?_eq_some found) member named]

theorem accepts_of_ofEntries (distinct : (l.fields.map Field.name).Nodup) {a : α}
    (read : l.ofEntries f entries = .ok a) {field : Field α} (member : field ∈ l.fields) :
    field.Accepts f entries := by
  unfold ofEntries at read
  split at read
  case h_1 => cases read
  case h_2 faultless =>
    split at read
    case h_1 => cases read
    case h_2 complete =>
      unfold Field.Accepts
      cases present : entries.lookup field.name with
      | none =>
        have optional := List.find?_eq_none.mp complete field member
        simpa [present] using optional
      | some v =>
        obtain ⟨before, after, split, -⟩ := List.lookup_eq_some_iff.mp present
        have sound := List.findSome?_eq_none_iff.mp faultless (field.name, v) (by simp [split])
        cases result : field.read f v with
        | ok set => exact ⟨set, result⟩
        | error e => simp [fault?, find?_name distinct member, present, result] at sound

theorem ofEntries_of_accepts (accepts : ∀ field ∈ l.fields, field.Accepts f entries) :
    l.ofEntries f entries =
      .ok (l.fields.foldl (fun a field => field.change f entries a) l.blank) := by
  have faultless : (entries.findSome? fun entry => l.fault? f entries entry.1) = none :=
    List.findSome?_eq_none_iff.mpr fun entry _ => fault?_eq_none accepts entry.1
  have complete : (l.fields.find? fun field =>
      field.presence == .required && (entries.lookup field.name).isNone) = none := by
    refine List.find?_eq_none.mpr fun field member => ?_
    have accepted := accepts field member
    cases present : entries.lookup field.name with
    | none => simpa [Field.Accepts, present] using accepted
    | some v => simp
  simp only [ofEntries, faultless, complete]

theorem ofEntries_eq_ok_iff (distinct : (l.fields.map Field.name).Nodup) {a : α} :
    l.ofEntries f entries = .ok a ↔
      (∀ field ∈ l.fields, field.Accepts f entries) ∧
        l.fields.foldl (fun a field => field.change f entries a) l.blank = a := by
  constructor
  · intro read
    have accepts : ∀ field ∈ l.fields, field.Accepts f entries :=
      fun field => accepts_of_ofEntries distinct read
    exact ⟨accepts, Except.ok.inj ((ofEntries_of_accepts accepts).symm.trans read)⟩
  · rintro ⟨accepts, rfl⟩
    exact ofEntries_of_accepts accepts

theorem exists_ofEntries (distinct : (l.fields.map Field.name).Nodup) :
    (∃ a, l.ofEntries f entries = .ok a) ↔ ∀ field ∈ l.fields, field.Accepts f entries := by
  simp [ofEntries_eq_ok_iff distinct]

theorem ofEntries_perm (distinct : (l.fields.map Field.name).Nodup)
    {other : List (String × Value)} (same : entries.Perm other)
    (apart : (entries.map Prod.fst).Nodup) {a : α} :
    l.ofEntries f entries = .ok a ↔ l.ofEntries f other = .ok a := by
  have lookups := lookup_eq_of_perm same apart
  simp only [ofEntries_eq_ok_iff distinct, Field.Accepts, Field.change, lookups]

end RecordLayout
end InputReplay

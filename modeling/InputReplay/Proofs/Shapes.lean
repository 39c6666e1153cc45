import InputReplay.Proofs.Decode
import InputReplay.Proofs.Entries

/-! Records in the shapes that values give them. Entries under names that a layout does not have make
no difference, to success or to failure; items in order stand for entries under the names of the
fields. -/

namespace InputReplay

variable {α : Type}

/-- What a value gives under some names: the entries of a map, or the items of a sequence in the order
of the names, of which there must be enough. A moment, which no JSON text holds, gives nothing. -/
inductive Value.Gives (names : List String) : Value → List (String × Value) → Prop
  | map (entries : List (String × Value)) : Gives names (.map entries) entries
  | seq (items : List Value) (enough : items.length ≤ names.length) :
    Gives names (.seq items) (names.zip items)
  | moment : Gives names .moment []

namespace Field

variable {field : Field α} {f : Format} {entries : List (String × Value)} {name : String} {v : Value}

theorem accepts_nil : field.Accepts f [] ↔ field.presence ≠ .required := Iff.rfl

theorem change_nil (a : α) : field.change f [] a = a := rfl

theorem accepts_cons_self : field.Accepts f ((field.name, v) :: entries) ↔
    ∃ set, field.read f v = .ok set := by
  simp [Accepts]

theorem change_cons_self {set : α → α} (reads : field.read f v = .ok set) (a : α) :
    field.change f ((field.name, v) :: entries) a = set a := by
  simp [change, reads]

theorem accepts_cons_of_ne (other : field.name ≠ name) :
    field.Accepts f ((name, v) :: entries) ↔ field.Accepts f entries := by
  simp [Accepts, List.lookup_cons, beq_eq_false_iff_ne.mpr other]

theorem change_cons_of_ne (other : field.name ≠ name) (a : α) :
    field.change f ((name, v) :: entries) a = field.change f entries a := by
  simp [change, List.lookup_cons, beq_eq_false_iff_ne.mpr other]

section Filled

variable {β : Type} {read : Decoder β} {set : β → α → α} {blank : Value} {unset : β}

theorem accepts_make_required : (make name .required read set).Accepts f entries ↔
    ∃ v ∈ entries.lookup name, ∃ b, read f v = .ok b := by
  rw [accepts_make]
  cases entries.lookup name <;> simp

theorem change_make_of_lookup {v : Value} {b : β} (found : entries.lookup name = some v)
    (given : read f v = .ok b) {presence : Presence} (a : α) :
    (make name presence read set).change f entries a = set b a := by
  rw [change_make, found]
  simp only [given]

theorem accepts_make_optional : (make name .optional read set).Accepts f entries ↔
    ∀ v ∈ entries.lookup name, ∃ b, read f v = .ok b := by
  rw [accepts_make]
  cases entries.lookup name <;> simp

theorem accepts_make_blank (reads : read f blank = .ok unset) :
    (make name .optional read set).Accepts f entries ↔
      ∃ b, read f ((entries.lookup name).getD blank) = .ok b := by
  rw [accepts_make]
  cases entries.lookup name <;> simp [reads]

theorem change_make_blank (reads : read f blank = .ok unset) {b : β} {a : α}
    (given : read f ((entries.lookup name).getD blank) = .ok b) (blanked : set unset a = a) :
    (make name .optional read set).change f entries a = set b a := by
  rw [change_make]
  cases found : entries.lookup name with
  | none =>
    rw [found, Option.getD_none, reads, Except.ok.injEq] at given
    rw [← given, blanked]
  | some v =>
    rw [found, Option.getD_some] at given
    simp only [given]

end Filled

/-- Entries with which all fields are content make one record into another. -/
def Fills (f : Format) (entries : List (String × Value)) (fields : List (Field α)) (a b : α) : Prop :=
  (∀ field ∈ fields, field.Accepts f entries) ∧
    fields.foldl (fun a field => field.change f entries a) a = b

section Fills

variable {β : Type} {fields : List (Field α)} {read : Decoder β} {set : β → α → α} {a c : α}

theorem fills_nil : Fills f entries [] a c ↔ a = c := by
  simp [Fills]

theorem fills_required : Fills f entries (make name .required read set :: fields) a c ↔
    ∃ b, (∃ v, entries.lookup name = some v ∧ read f v = .ok b) ∧
      Fills f entries fields (set b a) c := by
  simp only [Fills, List.forall_mem_cons, accepts_make_required, List.foldl_cons]
  constructor
  · rintro ⟨⟨⟨v, found, b, reads⟩, accepts⟩, folds⟩
    rw [change_make_of_lookup found reads] at folds
    exact ⟨b, ⟨v, found, reads⟩, accepts, folds⟩
  · rintro ⟨b, ⟨v, found, reads⟩, accepts, folds⟩
    rw [change_make_of_lookup found reads]
    exact ⟨⟨⟨v, found, b, reads⟩, accepts⟩, folds⟩

theorem fills_optional {blank : Value} {unset : β} (reads : read f blank = .ok unset)
    (blanked : set unset a = a) : Fills f entries (make name .optional read set :: fields) a c ↔
      ∃ b, read f ((entries.lookup name).getD blank) = .ok b ∧
        Fills f entries fields (set b a) c := by
  simp only [Fills, List.forall_mem_cons, accepts_make_blank reads, List.foldl_cons]
  constructor
  · rintro ⟨⟨⟨b, given⟩, accepts⟩, folds⟩
    rw [change_make_blank reads given blanked] at folds
    exact ⟨b, given, accepts, folds⟩
  · rintro ⟨b, given, accepts, folds⟩
    rw [change_make_blank reads given blanked]
    exact ⟨⟨⟨b, given⟩, accepts⟩, folds⟩

end Fills
end Field

namespace RecordLayout

def names (l : RecordLayout α) : List String := l.fields.map Field.name

variable {l : RecordLayout α} {f : Format} {entries others : List (String × Value)}

theorem fault?_of_not_mem {name : String} (unknown : name ∉ l.names) :
    l.fault? f entries name = none := by
  have missing : l.fields.find? (·.name == name) = none := by
    refine List.find?_eq_none.mpr fun field member named => unknown ?_
    rw [← (beq_iff_eq.mp named : field.name = name)]
    exact List.mem_map_of_mem member
  simp only [fault?, missing]

theorem findSome?_fault? : (entries.findSome? fun e => l.fault? f entries e.1) =
    ((entries.map Prod.fst).filter l.names.contains).findSome? (l.fault? f entries) := by
  have skip (names : List String) : names.findSome? (l.fault? f entries) =
      (names.filter l.names.contains).findSome? (l.fault? f entries) := by
    induction names with
    | nil => rfl
    | cons name names ih =>
      by_cases known : name ∈ l.names
      · simp [known, List.findSome?_cons, ih]
      · simp [known, ih, fault?_of_not_mem known]
  rw [← skip, List.findSome?_map]
  rfl

theorem ofEntries_congr
    (order : (entries.map Prod.fst).filter l.names.contains =
      (others.map Prod.fst).filter l.names.contains)
    (readings : ∀ field ∈ l.fields,
      (entries.lookup field.name).map (field.read f) =
        (others.lookup field.name).map (field.read f)) :
    l.ofEntries f entries = l.ofEntries f others := by
  have faults : l.fault? f entries = l.fault? f others := by
    funext name
    unfold fault?
    cases found : l.fields.find? (·.name == name) with
    | none => rfl
    | some field =>
      have named : field.name = name := by simpa using List.find?_some found
      have reading := readings field (List.mem_of_find?_eq_some found)
      rw [named] at reading
      cases here : entries.lookup name <;> cases there : others.lookup name <;>
        simp_all
  have absent : ∀ field ∈ l.fields,
      (entries.lookup field.name).isNone = (others.lookup field.name).isNone := by
    intro field member
    simpa using congrArg Option.isNone (readings field member)
  have changes : ∀ a, ∀ field ∈ l.fields,
      field.change f entries a = field.change f others a := by
    intro a field member
    have reading := readings field member
    unfold Field.change
    cases here : entries.lookup field.name <;> cases there : others.lookup field.name <;>
      simp_all
  have missing : (l.fields.find? fun x => x.presence == .required && (entries.lookup x.name).isNone) =
      l.fields.find? fun x => x.presence == .required && (others.lookup x.name).isNone := by
    rw [← List.head?_filter, ← List.head?_filter]
    refine congrArg List.head? (List.filter_congr fun field member => ?_)
    rw [absent field member]
  rw [ofEntries, ofEntries, findSome?_fault?, findSome?_fault?, order, faults, missing,
    List.foldl_ext _ _ l.blank changes]

theorem ofEntries_filter_names :
    l.ofEntries f (entries.filter fun e => l.names.contains e.1) = l.ofEntries f entries := by
  refine ofEntries_congr ?_ fun field member => ?_
  · rw [List.filter_map, List.filter_map, List.filter_filter]
    simp only [Function.comp_apply, Bool.and_self]
    rfl
  · rw [lookup_filter_name l.names.contains (List.contains_iff_mem.mpr (List.mem_map_of_mem member))]

theorem ofItemsFrom_eq_ok_iff {length : Nat} {fields : List (Field α)}
    (distinct : (fields.map Field.name).Nodup)
    (unnamed : ∀ field ∈ fields, field.presence ≠ .optionalByName) {items : List Value}
    {index : Nat} {a b : α} :
    l.ofItemsFrom f length fields items index a = .ok b ↔
      (items.length ≤ fields.length ∨ f.surplus = true) ∧
      (∀ field ∈ fields, field.Accepts f ((fields.map Field.name).zip items)) ∧
      fields.foldl (fun a field => field.change f ((fields.map Field.name).zip items) a) a = b := by
  induction fields generalizing items index a with
  | nil =>
    cases items <;> cases surplus : f.surplus <;> simp [ofItemsFrom, surplus]
  | cons field fields ih =>
    obtain ⟨apart, distinct⟩ := List.nodup_cons.mp distinct
    obtain ⟨first, unnamed⟩ := List.forall_mem_cons.mp unnamed
    cases items with
    | nil =>
      have rest : l.ofItemsFrom f length fields [] (index + 1) a = .ok b ↔ _ :=
        ih distinct unnamed
      simp only [List.zip_nil_right, Field.accepts_nil, Field.change_nil] at rest ⊢
      cases presence : field.presence with
      | required => simp [ofItemsFrom, presence]
      -- without names such a field cannot be left out
      | optionalByName => exact absurd presence first
      | optional => simp [ofItemsFrom, presence, rest]
    | cons v items =>
      have others : ∀ later ∈ fields, later.name ≠ field.name :=
        fun later member same => apart (same ▸ List.mem_map_of_mem member)
      have accepts : (∀ later ∈ fields, later.Accepts f
            ((field.name, v) :: (fields.map Field.name).zip items)) ↔
          ∀ later ∈ fields, later.Accepts f ((fields.map Field.name).zip items) :=
        forall₂_congr fun later member => Field.accepts_cons_of_ne (others later member)
      have changes (a : α) : fields.foldl (fun a later =>
            later.change f ((field.name, v) :: (fields.map Field.name).zip items) a) a =
          fields.foldl (fun a later => later.change f ((fields.map Field.name).zip items) a) a :=
        List.foldl_ext _ _ a fun a later member => Field.change_cons_of_ne (others later member) a
      rw [List.map_cons, List.zip_cons_cons, List.forall_mem_cons, Field.accepts_cons_self, accepts,
        List.foldl_cons, changes]
      cases reads : field.read f v with
      | error e => simp [ofItemsFrom, reads]
      | ok set =>
        rw [Field.change_cons_self reads]
        simp [ofItemsFrom, reads, ih distinct unnamed]

theorem read_json_eq_ok_iff (distinct : l.names.Nodup)
    (unnamed : ∀ field ∈ l.fields, field.presence ≠ .optionalByName) {v : Value} {a : α} :
    l.read .json v = .ok a ↔
      ∃ entries, v.Gives l.names entries ∧ l.ofEntries .json entries = .ok a := by
  cases v with
  | map entries =>
    constructor
    · exact fun reads => ⟨entries, .map entries, reads⟩
    · rintro ⟨_, ⟨⟩, reads⟩
      exact reads
  | moment =>
    constructor
    · exact fun reads => ⟨[], .moment, reads⟩
    · rintro ⟨_, ⟨⟩, reads⟩
      exact reads
  | seq items =>
    have positions : l.read .json (.seq items) = .ok a ↔
        items.length ≤ l.names.length ∧ l.ofEntries .json (l.names.zip items) = .ok a := by
      have strict : (Format.json.surplus = true) = False := by decide
      rw [ofEntries_eq_ok_iff distinct, names, List.length_map, read, ofItems,
        ofItemsFrom_eq_ok_iff distinct unnamed, strict, or_false]
    rw [positions]
    constructor
    · exact fun ⟨enough, reads⟩ => ⟨_, .seq items enough, reads⟩
    · rintro ⟨_, gives, reads⟩
      cases gives with
      | seq _ enough => exact ⟨enough, reads⟩
  | _ =>
    constructor
    · rintro ⟨⟩
    · rintro ⟨_, ⟨⟩, _⟩

theorem exists_read_json (distinct : l.names.Nodup)
    (unnamed : ∀ field ∈ l.fields, field.presence ≠ .optionalByName) {v : Value} :
    (∃ a, l.read .json v = .ok a) ↔
      ∃ entries, v.Gives l.names entries ∧ ∀ field ∈ l.fields, field.Accepts .json entries := by
  simp only [read_json_eq_ok_iff distinct unnamed, ofEntries_eq_ok_iff distinct]
  constructor
  · rintro ⟨_, entries, gives, accepts, -⟩
    exact ⟨entries, gives, accepts⟩
  · rintro ⟨entries, gives, accepts⟩
    exact ⟨_, entries, gives, accepts, rfl⟩

theorem ofEntries_eq_ok_iff_fills (distinct : l.names.Nodup) {a : α} :
    l.ofEntries f entries = .ok a ↔ Field.Fills f entries l.fields l.blank a :=
  ofEntries_eq_ok_iff distinct

end RecordLayout
end InputReplay

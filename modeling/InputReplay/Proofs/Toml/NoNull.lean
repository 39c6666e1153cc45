import InputReplay.Proofs.Toml.Document

/-! No text of a document stands for null, at any depth: no scalar is null, values are put together
from such, and a statement writes nothing else into a table. -/

namespace InputReplay

/-- A value without null anywhere in it. -/
inductive Value.NoNull : Value → Prop
  | bool (b : Bool) : NoNull (.bool b)
  | int (n : Int) : NoNull (.int n)
  | float (x : Float) : NoNull (.float x)
  | string (s : String) : NoNull (.string s)
  | seq {items : List Value} (each : ∀ v ∈ items, NoNull v) : NoNull (.seq items)
  | map {entries : List (String × Value)} (each : ∀ e ∈ entries, NoNull e.2) :
    NoNull (.map entries)
  | moment : NoNull .moment

theorem Value.not_noNull_null : ¬NoNull .null := nofun

theorem Value.noNull_map_iff {entries : List (String × Value)} :
    NoNull (.map entries) ↔ ∀ e ∈ entries, e.2.NoNull := by
  constructor
  · rintro ⟨⟩
    assumption
  · exact .map

theorem Value.noNull_seq_iff {items : List Value} :
    NoNull (.seq items) ↔ ∀ v ∈ items, v.NoNull := by
  constructor
  · rintro ⟨⟩
    assumption
  · exact .seq

theorem forall_mem_append_singleton {α : Type} {P : α → Prop} {l : List α} {a : α}
    (each : ∀ x ∈ l, P x) (last : P a) : ∀ x ∈ l ++ [a], P x :=
  List.forall_mem_append.mpr ⟨each, List.forall_mem_singleton.mpr last⟩

theorem foldlM_induction {σ α : Type} {f : σ → α → Option σ} {P : σ → Prop} {l : List α}
    (keeps : ∀ a ∈ l, ∀ {s t}, f s a = some t → P s → P t) {s t : σ}
    (folds : l.foldlM f s = some t) (first : P s) : P t := by
  induction l generalizing s with
  | nil =>
    cases folds
    exact first
  | cons a l ih =>
    obtain ⟨head, tail⟩ := List.forall_mem_cons.mp keeps
    rw [List.foldlM_cons, Option.bind_eq_bind, Option.bind_eq_some_iff] at folds
    obtain ⟨next, step, rest⟩ := folds
    exact ih tail rest (head step first)

namespace Text.Reader

variable {α : Type} {P : α → Prop}

/-- Whatever the reader takes off a text has a property. -/
def Yields (reader : Reader α) (P : α → Prop) : Prop :=
  ∀ s a rest, reader s = some (a, rest) → P a

theorem of_map {β : Type} {f : α → β} {read : Option (α × List Char)} {b : β} {rest : List Char}
    (mapped : read.map (fun r => (f r.1, r.2)) = some (b, rest)) :
    ∃ a, read = some (a, rest) ∧ f a = b := by
  obtain ⟨⟨a, left⟩, rfl, eq⟩ := Option.map_eq_some_iff.mp mapped
  cases eq
  exact ⟨a, rfl, rfl⟩

theorem Yields.items {item : Reader α} (each : item.Yields P) (b : Bracket) (bound : Nat) :
    (Reader.items b item bound).Yields fun l => ∀ a ∈ l, P a := by
  intro s
  induction bound generalizing s with
  | zero => exact nofun
  | succ bound ih =>
    intro l rest reads
    unfold Reader.items at reads
    split at reads
    · cases reads
    · rename_i a after first
      have head : P a := each _ _ _ first
      have alone : ∀ x ∈ [a], P x := List.forall_mem_singleton.mpr head
      split at reads
      · split at reads
        · cases reads
          exact alone
        · obtain ⟨tail, more, rfl⟩ := of_map reads
          exact List.forall_mem_cons.mpr ⟨head, ih _ _ _ more⟩
      · split at reads
        · cases reads
          exact alone
        · cases reads
      · cases reads

theorem Yields.enclosed {item : Reader α} (each : item.Yields P) (b : Bracket) :
    (Reader.enclosed b item).Yields fun l => ∀ a ∈ l, P a := by
  intro s l rest reads
  unfold Reader.enclosed at reads
  split at reads
  · cases reads
    exact List.forall_mem_nil P
  · exact each.items b _ _ _ _ reads

end Text.Reader

namespace Toml
open Text

section Tables

def Entries.NoNull (entries : Entries) : Prop := ∀ e ∈ entries, e.2.toValue.NoNull

namespace Entries

variable {entries inner : Entries} {name : String} {node : Node} {change : Change}

theorem noNull_nil : NoNull [] := List.forall_mem_nil _

theorem noNull_toValue : entries.toValue.NoNull ↔ entries.NoNull := by
  rw [toValue, Value.noNull_map_iff, valuesOfEntries_eq_map]
  exact List.forall_mem_map

theorem noNull_table {origin : Origin} :
    (Node.table origin inner).toValue.NoNull ↔ inner.NoNull := by
  rw [Node.toValue]
  exact noNull_toValue

theorem valuesOfTables_eq_map (elements : List Entries) :
    valuesOfTables elements = elements.map Entries.toValue := by
  induction elements with
  | nil => simp [valuesOfTables]
  | cons inner elements ih => simp [valuesOfTables, ih, toValue]

theorem noNull_tables {elements : List Entries} :
    (Node.tables elements).toValue.NoNull ↔ ∀ inner ∈ elements, NoNull inner := by
  simp [Node.toValue, Value.noNull_seq_iff, valuesOfTables_eq_map, noNull_toValue]

theorem NoNull.of_lookup (sound : entries.NoNull) (found : entries.lookup name = some node) :
    node.toValue.NoNull := by
  obtain ⟨before, after, rfl, -⟩ := List.lookup_eq_some_iff.mp found
  exact sound (name, node) (by simp)

theorem NoNull.append_singleton (sound : entries.NoNull) (last : node.toValue.NoNull) :
    NoNull (entries ++ [(name, node)]) :=
  forall_mem_append_singleton sound last

theorem NoNull.put (sound : entries.NoNull) (given : node.toValue.NoNull) :
    (entries.put name node).NoNull := by
  intro e member
  obtain ⟨old, present, rfl⟩ := List.mem_map.mp member
  split
  · exact given
  · exact sound old present

def Change.Keeps (change : Change) : Prop :=
  ∀ origin entries after, change origin entries = some after → NoNull entries → NoNull after

theorem Change.Keeps.alter (keeps : change.Keeps) (made : Origin) (path : List String) :
    (Entries.alter made change path).Keeps := by
  induction path with
  | nil => exact keeps
  | cons name path ih =>
    intro origin entries after changed sound
    unfold Entries.alter at changed
    split at changed
    case h_1 =>
      obtain ⟨inner, made, rfl⟩ := Option.map_eq_some_iff.mp changed
      exact sound.append_singleton (noNull_table.mpr (ih _ _ _ made noNull_nil))
    case h_2 => cases changed
    case h_3 found =>
      split at changed
      · cases changed
      · obtain ⟨inner, altered, rfl⟩ := Option.map_eq_some_iff.mp changed
        have before := noNull_table.mp (sound.of_lookup found)
        exact sound.put (noNull_table.mpr (ih _ _ _ altered before))
    case h_4 elements found =>
      -- only the last of a list of tables is entered, and it is put back in its place
      have each := noNull_tables.mp (sound.of_lookup found)
      split at changed
      · cases changed
      · rename_i last isLast
        obtain ⟨inner, altered, rfl⟩ := Option.map_eq_some_iff.mp changed
        have closed : inner.NoNull := ih _ _ _ altered (each last (List.mem_of_getLast? isLast))
        have others : ∀ element ∈ elements.dropLast, NoNull element :=
          fun element member => each element ((List.dropLast_sublist elements).subset member)
        exact sound.put (noNull_tables.mpr (forall_mem_append_singleton others closed))

theorem keeps_assign {v : Value} (given : v.NoNull) (path : List String) (name : String) :
    Change.Keeps (assign path name v) := by
  refine Change.Keeps.alter (fun origin entries after changed sound => ?_) .dotted path
  split at changed
  · cases changed
  · split at changed
    · cases changed
    · cases changed
      exact sound.append_singleton (by rwa [Node.toValue])

theorem keeps_openTable (name : String) : Change.Keeps (openTable name) := by
  intro origin entries after changed sound
  unfold openTable at changed
  split at changed
  case h_1 =>
    cases changed
    exact sound.append_singleton (noNull_table.mpr noNull_nil)
  case h_2 found =>
    cases changed
    have others : NoNull (entries.filter (·.1 != name)) :=
      fun e member => sound e (List.mem_of_mem_filter member)
    exact others.append_singleton (noNull_table.mpr (noNull_table.mp (sound.of_lookup found)))
  case h_3 => cases changed

theorem keeps_openElement (name : String) : Change.Keeps (openElement name) := by
  intro origin entries after changed sound
  unfold openElement at changed
  split at changed
  case h_1 =>
    cases changed
    exact sound.append_singleton (noNull_tables.mpr (List.forall_mem_singleton.mpr noNull_nil))
  case h_2 elements found =>
    cases changed
    have each := noNull_tables.mp (sound.of_lookup found)
    exact sound.put (noNull_tables.mpr (forall_mem_append_singleton each noNull_nil))
  case h_3 => cases changed

end Entries

def Statement.NoNull : Statement → Prop
  | assign _ v => v.NoNull
  | table _ | element _ => True

theorem Draft.apply_noNull {d after : Draft} {s : Statement} (applied : d.apply s = some after)
    (stated : s.NoNull) (sound : d.entries.NoNull) : after.entries.NoNull := by
  cases s with
  | assign path v =>
    obtain ⟨entries, changed, rfl⟩ := Option.map_eq_some_iff.mp applied
    exact (Entries.keeps_assign stated path.parents path.name).alter _ _ _ _ _ changed sound
  | table path =>
    obtain ⟨entries, changed, rfl⟩ := Option.map_eq_some_iff.mp applied
    exact (Entries.keeps_openTable path.name).alter _ _ _ _ _ changed sound
  | element path =>
    obtain ⟨entries, changed, rfl⟩ := Option.map_eq_some_iff.mp applied
    exact (Entries.keeps_openElement path.name).alter _ _ _ _ _ changed sound

end Tables

section Values

theorem ofToken?_noNull {s : List Char} {v : Value} (token : ofToken? s = some v) : v.NoNull := by
  unfold ofToken? at token
  split at token
  · cases token
    exact .bool true
  · split at token
    · cases token
      exact .bool false
    · split at token
      · cases token
        exact .moment
      · split at token
        · cases token
          exact .int _
        · obtain ⟨x, -, rfl⟩ := Option.map_eq_some_iff.mp token
          exact .float x

theorem scalar_yields : scalar.Yields Value.NoNull := by
  intro s v rest reads
  simp only [scalar] at reads
  split at reads
  · cases reads
  · rename_i w token
    have sound := ofToken?_noNull token
    split at reads
    · split at reads <;> cases reads <;> exact sound
    · cases reads
      exact sound

theorem unbracketed_yields : unbracketed.Yields Value.NoNull := by
  intro s v rest reads
  unfold unbracketed at reads
  split at reads
  case h_3 => exact scalar_yields _ _ _ reads
  all_goals
    obtain ⟨text, -, rfl⟩ := Reader.of_map reads
    exact .string text

theorem binding_yields {item : Reader Value} (sound : item.Yields Value.NoNull) :
    (binding item).Yields fun b => b.2.NoNull := by
  intro s b rest reads
  unfold binding at reads
  split at reads
  · obtain ⟨v, given, rfl⟩ := Reader.of_map reads
    exact sound _ _ _ given
  · cases reads

theorem inlineTable_noNull {bindings : List (Path × Value)} {v : Value}
    (each : ∀ b ∈ bindings, b.2.NoNull) (table : inlineTable bindings = some v) : v.NoNull := by
  obtain ⟨entries, built, rfl⟩ := Option.map_eq_some_iff.mp table
  have keeps : ∀ b ∈ bindings, ∀ {entries after : Entries},
      Entries.assign b.1.parents b.1.name b.2 .header entries = some after →
        entries.NoNull → after.NoNull :=
    fun b member => Entries.keeps_assign (each b member) b.1.parents b.1.name _ _ _
  exact Entries.noNull_toValue.mpr (foldlM_induction keeps built Entries.noNull_nil)

theorem value_yields (room : Nat) : (value room).Yields Value.NoNull := by
  -- what stands between brackets is read with less room for brackets
  induction room with
  | zero => exact unbracketed_yields
  | succ room ih =>
    intro s v rest reads
    unfold value at reads
    split at reads
    case h_1 =>
      obtain ⟨items, read, rfl⟩ := Reader.of_map reads
      exact .seq (ih.enclosed _ _ _ _ read)
    case h_2 =>
      split at reads
      · cases reads
      · rename_i bindings after read
        obtain ⟨w, table, eq⟩ := Option.map_eq_some_iff.mp reads
        cases eq
        exact inlineTable_noNull ((binding_yields ih).enclosed _ _ _ _ read) table
    case h_3 => exact unbracketed_yields _ _ _ reads

end Values

theorem statement_yields : statement.Yields Statement.NoNull := by
  intro s st rest reads
  unfold statement at reads
  split at reads
  case h_3 =>
    split at reads
    · rename_i path v after bound
      obtain ⟨left, -, eq⟩ := Option.map_eq_some_iff.mp reads
      cases eq
      exact binding_yields (value_yields nestingLimit) _ _ _ bound
    · cases reads
  all_goals
    split at reads
    · obtain ⟨left, -, eq⟩ := Option.map_eq_some_iff.mp reads
      cases eq
      trivial
    · cases reads

theorem statements_noNull {bound : Nat} {s : List Char} {l : List Statement}
    (reads : statements bound s = some l) : ∀ st ∈ l, st.NoNull := by
  induction bound generalizing s l with
  | zero =>
    unfold statements at reads
    split at reads <;> cases reads
    exact List.forall_mem_nil _
  | succ bound ih =>
    unfold statements at reads
    split at reads
    · cases reads
      exact List.forall_mem_nil _
    · split at reads
      · cases reads
      · rename_i first rest read
        obtain ⟨others, more, rfl⟩ := Option.map_eq_some_iff.mp reads
        exact List.forall_mem_cons.mpr ⟨statement_yields _ _ _ read, ih more⟩

theorem noNull_of_read {text : String} {document : Value} (holds : read text = some document) :
    document.NoNull ∧ ∃ entries, document = .map entries := by
  unfold read at holds
  simp only [Option.bind_eq_bind, Option.bind_eq_some_iff, Option.pure_def, Option.some.injEq]
    at holds
  obtain ⟨stated, reads, draft, built, rfl⟩ := holds
  have each := statements_noNull reads
  have sound : draft.entries.NoNull :=
    foldlM_induction (fun s member _ _ applied => Draft.apply_noNull applied (each s member)) built
      Entries.noNull_nil
  exact ⟨Entries.noNull_toValue.mpr sound, _, rfl⟩

end Toml
end InputReplay

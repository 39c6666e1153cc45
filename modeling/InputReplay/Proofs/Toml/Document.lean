import InputReplay.Proofs.Entries
import InputReplay.Proofs.Toml.Plain
import InputReplay.Toml.Document

/-! A written document reads back as the value it stands for, if its names are bare, no name stands
twice in a table, and its integers fit. The text is read into statements, one for each line that is
not blank; the statements then build the tables in the order in which they were written. -/

namespace InputReplay.Toml

def IsBareName (name : String) : Prop :=
  name.toList ≠ [] ∧ ∀ c ∈ name.toList, isBareKeyChar c = true

instance (name : String) : Decidable (IsBareName name) :=
  decidable_of_iff (name.toList ≠ [] ∧ name.toList.all isBareKeyChar = true) (by simp [IsBareName])

/-- Entries that can be written one to a line under their bare names. -/
structure Writable (entries : List (String × Plain)) : Prop where
  bare : ∀ e ∈ entries, IsBareName e.1
  distinct : (entries.map Prod.fst).Nodup
  fits : ∀ e ∈ entries, e.2.Fits

theorem Writable.tail {e : String × Plain} {entries : List (String × Plain)}
    (writable : Writable (e :: entries)) : Writable entries where
  bare f member := writable.bare f (List.mem_cons_of_mem e member)
  distinct := (List.nodup_cons.mp writable.distinct).2
  fits f member := writable.fits f (List.mem_cons_of_mem e member)

structure Document.Writable (d : Document) : Prop where
  entries : Toml.Writable d.entries
  tables : ∀ t ∈ d.tables, IsBareName t.name ∧ Toml.Writable t.entries
  distinct : (d.entries.map Prod.fst ++ d.tables.map Table.name).Nodup

section Statements

variable {name : String}

theorem IsBareName.exists_cons (bare : IsBareName name) :
    ∃ c cs, name.toList = c :: cs ∧ isBareKeyChar c = true := by
  obtain ⟨c, cs, eq⟩ := List.exists_cons_of_ne_nil bare.1
  exact ⟨c, cs, eq, bare.2 c (by simp [eq])⟩

theorem IsBareName.append_ne_cons (bare : IsBareName name) {c : Char}
    (other : isBareKeyChar c = false) (rest after : List Char) :
    name.toList ++ rest ≠ c :: after := by
  obtain ⟨first, cs, eq, start⟩ := bare.exists_cons
  rw [eq]
  rintro ⟨⟩
  exact absurd start (by simp [other])

theorem keyName_bare (bare : IsBareName name) {stop : Char} (stops : isBareKeyChar stop = false)
    (rest : List Char) :
    keyName (name.toList ++ stop :: rest) = some (name, stop :: rest) := by
  obtain ⟨taken, left⟩ := run_up_to bare.2 stops rest
  unfold keyName
  split
  · exact absurd ‹_› (bare.append_ne_cons (by decide) _ _)
  · exact absurd ‹_› (bare.append_ne_cons (by decide) _ _)
  · simp [taken, left, bare.1]

theorem skipBlanks_bare (bare : IsBareName name) (rest : List Char) :
    skipBlanks (name.toList ++ rest) = name.toList ++ rest := by
  obtain ⟨c, cs, eq, start⟩ := bare.exists_cons
  have noBlank : c ≠ ' ' ∧ c ≠ '\t' := by
    constructor <;> rintro rfl <;> exact absurd start (by decide)
  simp [eq, skipBlanks, noBlank]

theorem key_bare (bare : IsBareName name) {stop : Char} (stops : isBareKeyChar stop = false)
    (rest : List Char) (single : ∀ after, skipBlanks (stop :: rest) ≠ '.' :: after) :
    key (name.toList ++ stop :: rest) = some (⟨[], name⟩, skipBlanks (stop :: rest)) := by
  simp only [key, nestingLimit, keyOf, skipBlanks_bare bare, keyName_bare bare stops]

theorem skipLines_eq_self {c : Char} (start : isBareKeyChar c = true ∨ c = '[') (s : List Char) :
    skipLines (c :: s) = c :: s := by
  have noSkip : c ≠ '\n' ∧ c ≠ '\r' ∧ c ≠ ' ' ∧ c ≠ '\t' ∧ c ≠ '#' := by
    refine ⟨?_, ?_, ?_, ?_, ?_⟩ <;> rintro rfl <;> exact absurd start (by decide)
  obtain ⟨noFeed, noReturn, noBlank, noTab, noComment⟩ := noSkip
  unfold skipLines skipFrom
  split <;> simp_all

def assignment (e : String × Plain) : Statement := .assign ⟨[], e.1⟩ e.2.toValue

def Table.statements (t : Table) : List Statement :=
  .table ⟨[], t.name⟩ :: t.entries.map assignment

def Document.statements (d : Document) : List Statement :=
  d.entries.map assignment ++ d.tables.flatMap Table.statements

theorem binding_entryChars {e : String × Plain} (bare : IsBareName e.1) (fits : e.2.Fits)
    (rest : List Char) :
    binding (value nestingLimit) (entryChars e ++ rest) =
      some ((⟨[], e.1⟩, e.2.toValue), '\n' :: rest) := by
  have blank : isBareKeyChar ' ' = false := by decide
  have keyed := key_bare bare blank ('=' :: ' ' :: (e.2.chars ++ '\n' :: rest))
    (by simp [skipBlanks])
  have equals (s : List Char) : skipBlanks (' ' :: '=' :: s) = '=' :: s := rfl
  have gap : skipBlanks (' ' :: (e.2.chars ++ '\n' :: rest)) = e.2.chars ++ '\n' :: rest :=
    skipBlanks_chars e.2 _
  simp [binding, entryChars, keyed, equals, gap, value_chars fits]

theorem statement_entryChars {e : String × Plain} (bare : IsBareName e.1) (fits : e.2.Fits)
    (rest : List Char) : statement (entryChars e ++ rest) = some (assignment e, rest) := by
  have bound := binding_entryChars bare fits rest
  have noHeader (after : List Char) : entryChars e ++ rest ≠ '[' :: after := by
    rw [entryChars, List.append_assoc]
    exact bare.append_ne_cons (by decide) _ _
  unfold statement
  split
  · exact absurd ‹_› (noHeader _)
  · exact absurd ‹_› (noHeader _)
  · rw [bound]
    rfl

theorem statement_header (bare : IsBareName name) (rest : List Char) :
    statement ('[' :: (name.toList ++ ']' :: '\n' :: rest)) = some (.table ⟨[], name⟩, rest) := by
  have bracket : isBareKeyChar ']' = false := by decide
  have keyed := key_bare bare bracket ('\n' :: rest) (by simp [skipBlanks])
  obtain ⟨c, cs, eq, start⟩ := bare.exists_cons
  have noElement : c ≠ '[' := by
    rintro rfl
    exact absurd start (by decide)
  have closes (s : List Char) : skipBlanks (']' :: s) = ']' :: s := rfl
  rw [closes] at keyed
  rw [eq] at keyed ⊢
  simp only [List.cons_append] at keyed ⊢
  simp [statement, noElement, keyed, lineEnd, skipBlanks, lineBreak]

/-- A text is read as some statements, given a bound no smaller than its length. -/
def Reads (s : List Char) (sts : List Statement) : Prop :=
  ∀ bound, s.length ≤ bound → statements bound s = some sts

namespace Reads

theorem nil : Reads [] [] := by
  intro bound _
  cases bound <;> rfl

theorem cons {c : Char} {s rest : List Char} {first : Statement} {sts : List Statement}
    (begins : skipLines (c :: s) = c :: s) (reads : statement (c :: s) = some (first, rest))
    (shorter : rest.length ≤ s.length) (others : Reads rest sts) :
    Reads (c :: s) (first :: sts) := by
  intro bound enough
  cases bound with
  | zero => exact absurd enough (by simp)
  | succ bound =>
    have further : statements bound rest = some sts :=
      others bound (by simp only [List.length_cons] at enough; omega)
    simp [statements, begins, reads, further]

theorem blankLine {s : List Char} {sts : List Statement} (reads : Reads s sts) :
    Reads ('\n' :: s) sts := by
  intro bound enough
  cases bound with
  | zero => exact absurd enough (by simp)
  | succ bound =>
    have same : skipLines ('\n' :: s) = skipLines s := by simp [skipLines, skipFrom]
    rw [← reads (bound + 1) (by simp only [List.length_cons] at enough; omega)]
    simp only [statements, same]

theorem entries {entries : List (String × Plain)} (writable : Writable entries)
    {rest : List Char} {sts : List Statement} (reads : Reads rest sts) :
    Reads (entries.flatMap entryChars ++ rest) (entries.map assignment ++ sts) := by
  induction entries with
  | nil => exact reads
  | cons e entries ih =>
    have bare := writable.bare e List.mem_cons_self
    have stated := statement_entryChars bare (writable.fits e List.mem_cons_self)
      (entries.flatMap entryChars ++ rest)
    obtain ⟨c, cs, eq, start⟩ := bare.exists_cons
    rw [List.flatMap_cons, List.append_assoc, List.map_cons, List.cons_append]
    simp only [entryChars, eq, List.cons_append] at stated ⊢
    refine cons (skipLines_eq_self (.inl start) _) stated ?_ (ih writable.tail)
    simp only [List.length_append, List.length_cons]
    omega

theorem table {t : Table} (bare : IsBareName t.name) (writable : Writable t.entries)
    {rest : List Char} {sts : List Statement} (reads : Reads rest sts) :
    Reads (t.chars ++ rest) (t.statements ++ sts) := by
  have inner := reads.entries writable
  have stated := statement_header bare (t.entries.flatMap entryChars ++ rest)
  simp only [Table.chars, Table.statements, List.cons_append, List.append_assoc]
  refine cons (skipLines_eq_self (.inr rfl) _) stated ?_ inner
  simp only [List.length_append, List.length_cons]
  omega

theorem tables {ts : List Table} (writable : ∀ t ∈ ts, IsBareName t.name ∧ Writable t.entries) :
    Reads (ts.flatMap fun t => '\n' :: t.chars) (ts.flatMap Table.statements) := by
  induction ts with
  | nil => exact nil
  | cons t ts ih =>
    obtain ⟨⟨bare, inner⟩, others⟩ := List.forall_mem_cons.mp writable
    rw [List.flatMap_cons, List.flatMap_cons, List.cons_append]
    exact (table bare inner (ih others)).blankLine

theorem document {d : Document} (writable : d.Writable) : Reads d.chars d.statements := by
  cases noEntries : d.entries with
  | cons e entries =>
    have further := (tables writable.tables).entries writable.entries
    simpa [Document.chars, Document.statements, noEntries] using further
  | nil =>
    cases noTables : d.tables with
    | nil => simpa [Document.chars, Document.statements, noEntries, noTables] using nil
    | cons first others =>
      obtain ⟨⟨bare, inner⟩, rest⟩ := List.forall_mem_cons.mp (noTables ▸ writable.tables)
      simpa [Document.chars, Document.statements, noEntries, noTables] using
        table bare inner (tables rest)

end Reads
end Statements

section Drafts

def leaves (entries : List (String × Plain)) : Entries :=
  entries.map fun e => (e.1, .leaf e.2.toValue)

def Table.node (t : Table) : String × Node := (t.name, .table .header (leaves t.entries))

theorem map_fst_leaves (entries : List (String × Plain)) :
    (leaves entries).map Prod.fst = entries.map Prod.fst := by
  simp [leaves]

/-- A draft that a new name and its value can be written to, given the entries of its open table. -/
def Open (draft : Entries → Draft) : Prop :=
  ∀ inner name v, inner.lookup name = none →
    (draft inner).apply (.assign ⟨[], name⟩ v) = some (draft (inner ++ [(name, .leaf v)]))

theorem open_top : Open fun inner => ⟨inner, []⟩ := by
  intro inner name v absent
  simp [Draft.apply, Entries.alter, Entries.assign, absent]

theorem put_last {base : Entries} {name : String} (fresh : base.lookup name = none)
    (old new : Node) : (base ++ [(name, old)]).put name new = base ++ [(name, new)] := by
  have kept : ∀ e ∈ base, (if e.1 = name then (name, new) else e) = e := by
    intro e member
    exact if_neg fun same => lookup_eq_none_iff.mp fresh (List.mem_map.mpr ⟨e, member, same⟩)
  simp [Entries.put, List.map_congr_left kept]

theorem open_table {base : Entries} {name : String} (fresh : base.lookup name = none) :
    Open fun inner => ⟨base ++ [(name, .table .header inner)], [name]⟩ := by
  intro inner key v absent
  have found : (base ++ [(name, Node.table .header inner)]).lookup name =
      some (.table .header inner) := by
    simp [List.lookup_append, fresh]
  simp [Draft.apply, Entries.alter, found, Entries.assign, absent, put_last fresh]

theorem Open.foldlM {draft : Entries → Draft} (writes : Open draft)
    (entries : List (String × Plain)) (inner : Entries)
    (distinct : (inner.map Prod.fst ++ entries.map Prod.fst).Nodup) :
    (entries.map assignment).foldlM Draft.apply (draft inner) =
      some (draft (inner ++ leaves entries)) := by
  induction entries generalizing inner with
  | nil => simp [leaves]
  | cons e entries ih =>
    have absent : inner.lookup e.1 = none := lookup_eq_none_of_nodup distinct
    have remaining : ((inner ++ [(e.1, Node.leaf e.2.toValue)]).map Prod.fst ++
        entries.map Prod.fst).Nodup := by
      simpa using distinct
    have written := writes inner e.1 e.2.toValue absent
    rw [List.map_cons, List.foldlM_cons, assignment, written, Option.bind_eq_bind,
      Option.bind_some, ih _ remaining]
    simp [leaves]

theorem foldlM_table {t : Table} {base : Entries} {current : List String}
    (fresh : base.lookup t.name = none) (distinct : (t.entries.map Prod.fst).Nodup) :
    t.statements.foldlM Draft.apply ⟨base, current⟩ = some ⟨base ++ [t.node], [t.name]⟩ := by
  have opened : Draft.apply ⟨base, current⟩ (.table ⟨[], t.name⟩) =
      some ⟨base ++ [(t.name, .table .header [])], [t.name]⟩ := by
    simp [Draft.apply, Entries.alter, Entries.openTable, fresh, Path.names]
  have filled := (open_table fresh).foldlM t.entries [] (by simpa using distinct)
  rw [Table.statements, List.foldlM_cons, opened, Option.bind_eq_bind, Option.bind_some, filled]
  rfl

theorem foldlM_tables (ts : List Table) (draft : Draft)
    (inner : ∀ t ∈ ts, (t.entries.map Prod.fst).Nodup)
    (distinct : (draft.entries.map Prod.fst ++ ts.map Table.name).Nodup) :
    ((ts.flatMap Table.statements).foldlM Draft.apply draft).map Draft.entries =
      some (draft.entries ++ ts.map Table.node) := by
  induction ts generalizing draft with
  | nil => simp
  | cons t ts ih =>
    obtain ⟨first, others⟩ := List.forall_mem_cons.mp inner
    have fresh : draft.entries.lookup t.name = none := lookup_eq_none_of_nodup distinct
    have remaining : ((draft.entries ++ [t.node]).map Prod.fst ++ ts.map Table.name).Nodup := by
      simpa [Table.node] using distinct
    have step : t.statements.foldlM Draft.apply draft = some ⟨draft.entries ++ [t.node], [t.name]⟩ :=
      foldlM_table fresh first
    rw [List.flatMap_cons, List.foldlM_append, step, Option.bind_eq_bind, Option.bind_some,
      ih ⟨draft.entries ++ [t.node], [t.name]⟩ others remaining]
    simp

theorem foldlM_document {d : Document} (writable : d.Writable) :
    (d.statements.foldlM Draft.apply .empty).map Draft.entries =
      some (leaves d.entries ++ d.tables.map Table.node) := by
  have plain : (d.entries.map assignment).foldlM Draft.apply .empty = some ⟨leaves d.entries, []⟩ :=
    open_top.foldlM d.entries [] (by simpa using writable.entries.distinct)
  have rest := foldlM_tables d.tables ⟨leaves d.entries, []⟩
    (fun t member => (writable.tables t member).2.distinct)
    (by simpa [map_fst_leaves] using writable.distinct)
  rw [Document.statements, List.foldlM_append, plain, Option.bind_eq_bind, Option.bind_some, rest]

theorem valuesOfEntries_eq_map (entries : Entries) :
    valuesOfEntries entries = entries.map fun e => (e.1, e.2.toValue) := by
  induction entries with
  | nil => simp [valuesOfEntries]
  | cons e entries ih => simp [valuesOfEntries, ih]

theorem valuesOfEntries_leaves (entries : List (String × Plain)) :
    valuesOfEntries (leaves entries) = entries.map fun e => (e.1, e.2.toValue) := by
  simp [valuesOfEntries_eq_map, leaves, Node.toValue]

theorem toValue_document (d : Document) :
    Entries.toValue (leaves d.entries ++ d.tables.map Table.node) = d.toValue := by
  have table (t : Table) : (t.node.1, t.node.2.toValue) = (t.name, t.toValue) := by
    simp only [Table.node, Node.toValue, valuesOfEntries_leaves, Table.toValue]
  simp only [Entries.toValue, valuesOfEntries_eq_map, List.map_append, List.map_map,
    Function.comp_def, table, Document.toValue]
  rw [← valuesOfEntries_leaves, valuesOfEntries_eq_map]

end Drafts

theorem dropMark_chars {d : Document} (writable : d.Writable) : dropMark d.chars = d.chars := by
  have noMark (after : List Char) : d.chars ≠ '\ufeff' :: after := by
    cases noEntries : d.entries with
    | cons e entries =>
      have bare := writable.entries.bare e (by simp [noEntries])
      rw [Document.chars, noEntries, List.flatMap_cons, entryChars, List.append_assoc,
        List.append_assoc]
      exact bare.append_ne_cons (by decide) _ _
    | nil => cases noTables : d.tables <;> simp [Document.chars, noEntries, noTables, Table.chars]
  unfold dropMark
  split
  · exact absurd ‹_› (noMark _)
  · rfl

theorem read_text {d : Document} (writable : d.Writable) : read d.text = some d.toValue := by
  have chars : d.text.toList = d.chars := String.toList_ofList
  have stated := Reads.document writable d.chars.length (Nat.le_refl _)
  obtain ⟨draft, built, entries⟩ := Option.map_eq_some_iff.mp (foldlM_document writable)
  simp only [read, chars, dropMark_chars writable, stated, built, Option.bind_eq_bind,
    Option.bind_some, entries, toValue_document]
  rfl

end InputReplay.Toml

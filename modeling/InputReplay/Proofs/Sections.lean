import InputReplay.Proofs.Configuration
import InputReplay.Proofs.Toml.NoNull
import InputReplay.Proofs.Verdict

/-! The schema of configuration documents. A document is accepted exactly if the filter is a string
and the sizes are integers of 32 bits, each where it is given; what else stands there is passed
over, and each section comes from its own table. A fixed size then answers every screen query. -/

namespace InputReplay

/-- The entries of the table under a name, none if it is left out. -/
def tableAt (name : String) (entries : List (String × Value)) : List (String × Value) :=
  match entries.lookup name with
  | some (.map inner) => inner
  | _ => []

namespace Value.NoNull

variable {entries : List (String × Value)} {name : String}

theorem of_lookup (plain : NoNull (.map entries)) {v : Value}
    (found : entries.lookup name = some v) : v.NoNull := by
  obtain ⟨before, after, rfl, -⟩ := List.lookup_eq_some_iff.mp found
  exact noNull_map_iff.mp plain (name, v) (by simp)

theorem inner (plain : NoNull (.map entries)) (name : String) :
    NoNull (.map (tableAt name entries)) := by
  unfold tableAt
  split
  case h_1 found => exact plain.of_lookup found
  case h_2 => exact .map (List.forall_mem_nil _)

end Value.NoNull

theorem eq_of_given {α : Type} {given : α → Prop} {result : Except DecodeError α}
    (reads : ∀ {a}, result = .ok a ↔ given a) {a b : α} (first : given a) (second : given b) :
    a = b :=
  Except.ok.inj ((reads.mpr first).symm.trans (reads.mpr second))

namespace LoggingConfig

structure Admits (entries : List (String × Value)) : Prop where
  filter : ∀ v ∈ entries.lookup "filter", ∃ text, v = .string text

/-- The section that entries give. To leave the filter out is to give the one for information. -/
structure GivenBy (c : LoggingConfig) (entries : List (String × Value)) : Prop where
  filter : (entries.lookup "filter").getD (.string "info") = .string c.filter

theorem layout_distinct : layout.names.Nodup := by
  decide

variable {f : Format} {entries : List (String × Value)} {c : LoggingConfig}

theorem string_info : Decoder.string f (.string "info") = .ok "info" := rfl

theorem read_eq_ok_iff : read f (.map entries) = .ok c ↔ c.GivenBy entries := by
  have fills : read f (.map entries) = .ok c ↔ _ :=
    RecordLayout.ofEntries_eq_ok_iff_fills layout_distinct
  simp (disch := with_unfolding_all exact id rfl) only
    [layout, Field.fills_nil, Field.fills_optional string_info, Decoder.string_eq_ok_iff] at fills
  refine fills.trans ⟨?_, ?_⟩
  · rintro ⟨_, filter, rfl⟩
    exact ⟨filter⟩
  · rintro ⟨filter⟩
    exact ⟨_, filter, rfl⟩

theorem exists_read : (∃ c, read f (.map entries) = .ok c) ↔ Admits entries := by
  have accepts : (∃ c, layout.ofEntries f entries = .ok c) ↔ _ :=
    RecordLayout.exists_ofEntries layout_distinct
  simp only [layout, List.forall_mem_singleton, Field.accepts_make_optional,
    Decoder.string_eq_ok_iff] at accepts
  exact accepts.trans ⟨Admits.mk, Admits.filter⟩

end LoggingConfig

namespace ScreenConfig

structure Admits (entries : List (String × Value)) : Prop where
  width : ∀ v ∈ entries.lookup "fixed_width", v.IsInteger (-2147483648) 2147483647
  height : ∀ v ∈ entries.lookup "fixed_height", v.IsInteger (-2147483648) 2147483647

variable {f : Format} {entries : List (String × Value)} {c : ScreenConfig}

theorem exists_read (plain : (Value.map entries).NoNull) :
    (∃ c, read f (.map entries) = .ok c) ↔ Admits entries := by
  -- the reader of a size would also take null
  have given (name : String) : (∀ v ∈ entries.lookup name, v = .null ∨
      v.IsInteger (-2147483648) 2147483647) ↔
      ∀ v ∈ entries.lookup name, v.IsInteger (-2147483648) 2147483647 := by
    refine forall₂_congr fun v found => or_iff_right ?_
    rintro rfl
    exact Value.not_noNull_null (plain.of_lookup found)
  have accepts : (∃ c, layout.ofEntries f entries = .ok c) ↔ _ :=
    RecordLayout.exists_ofEntries layout_distinct
  simp only [layout, List.forall_mem_cons, Field.accepts_make_optional, Decoder.exists_nullable,
    Decoder.exists_i32, given] at accepts
  refine accepts.trans ⟨?_, ?_⟩
  · rintro ⟨width, height, -⟩
    exact ⟨width, height⟩
  · rintro ⟨width, height⟩
    exact ⟨width, height, by simp⟩

end ScreenConfig

/-- A host on a screen of one size. -/
def Host.fixed {σ : Type} (size : Extent) (native : UInt16 → UInt16) (device : Device σ) : Host σ :=
  ⟨native, size.fixed, device⟩

theorem Dialogue.answer_fixed {σ α : Type} {size : Extent} {native : UInt16 → UInt16}
    {device : Device σ} {p : Dialogue α} {s : Standing σ} {answer : Extent}
    (asked : Step.extent answer ∈ (p.run (.fixed size native device) s).steps) :
    answer = size := by
  induction p generalizing s with
  | done a => nomatch asked
  | extent next ih =>
    rcases List.mem_cons.mp asked with here | later
    · cases here
      rfl
    · exact ih _ later
  | native code next ih | send d next ih | lastError next ih =>
    rcases List.mem_cons.mp asked with here | later
    · cases here
    · exact ih _ later
  | note n next ih =>
    rcases List.mem_cons.mp asked with here | later
    · cases here
    · exact ih later

theorem Event.fails_fixed_iff {σ : Type} {size : Extent} {native : UInt16 → UInt16}
    {device : Device σ} {e : Event} (pointer : e.payload.isPointer) (s : Standing σ) :
    (∃ cause, (e.resolve.run (.fixed size native device) s).value = .error cause) ↔
      size.width ≤ 0 ∨ size.height ≤ 0 := by
  simp only [value_resolve, resolved_eq_error_iff, pointer, true_and]
  exact ⟨fun ⟨_, bad, _⟩ => bad, fun bad => ⟨_, bad, rfl⟩⟩

namespace ScreenConfig

variable {entries : List (String × Value)} {c : ScreenConfig}

theorem select?_eq_some_iff {size : Extent} :
    c.select? = some size ↔ c.fixedWidth = some size.width ∧ c.fixedHeight = some size.height := by
  obtain ⟨width, height⟩ := c
  obtain ⟨w, h⟩ := size
  cases width <;> cases height <;> simp [select?, fixed?]

theorem eq_map_of_getD {found : Option Value} {size : Option Int32} (plain : found ≠ some .null)
    (given : found.getD .null = .optional (size.map fun n => n.toInt)) :
    found = size.map fun n => .int n.toInt := by
  cases size with
  | none =>
    cases found with
    | none => rfl
    | some v => exact absurd (congrArg some given) plain
  | some n =>
    cases found with
    | none => nomatch given
    | some v => exact congrArg some given

theorem GivenBy.lookup_width (given : c.GivenBy entries) (plain : (Value.map entries).NoNull) :
    entries.lookup "fixed_width" = c.fixedWidth.map fun n => .int n.toInt :=
  eq_map_of_getD (fun null => Value.not_noNull_null (plain.of_lookup null)) given.width

theorem GivenBy.lookup_height (given : c.GivenBy entries) (plain : (Value.map entries).NoNull) :
    entries.lookup "fixed_height" = c.fixedHeight.map fun n => .int n.toInt :=
  eq_map_of_getD (fun null => Value.not_noNull_null (plain.of_lookup null)) given.height

theorem exists_select?_iff :
    (∃ size, c.select? = some size) ↔ c.fixedWidth.isSome ∧ c.fixedHeight.isSome := by
  obtain ⟨width, height⟩ := c
  cases width <;> cases height <;> simp [select?, fixed?]

end ScreenConfig

namespace Config

/-- Where the sections are given they are tables. -/
structure Sectioned (entries : List (String × Value)) : Prop where
  logging : ∀ v ∈ entries.lookup "logging", ∃ inner, v = .map inner
  screen : ∀ v ∈ entries.lookup "screen", ∃ inner, v = .map inner

structure GivenBy (c : Config) (entries : List (String × Value)) : Prop where
  logging : c.logging.GivenBy (tableAt "logging" entries)
  screen : c.screen.GivenBy (tableAt "screen" entries)

variable {f : Format} {entries : List (String × Value)} {c : Config}

theorem getD_tableAt {name : String} (table : ∀ v ∈ entries.lookup name, ∃ inner, v = .map inner) :
    (entries.lookup name).getD (.map []) = .map (tableAt name entries) := by
  unfold tableAt
  cases found : entries.lookup name with
  | none => rfl
  | some v =>
    obtain ⟨inner, rfl⟩ := table v found
    rfl

theorem read_logging_nil : LoggingConfig.read f (.map []) = .ok .initial := rfl

theorem read_screen_nil : ScreenConfig.read f (.map []) = .ok .live := rfl

theorem read_eq_ok_iff (sectioned : Sectioned entries) :
    read f (.map entries) = .ok c ↔ c.GivenBy entries := by
  have fills : read f (.map entries) = .ok c ↔ _ :=
    RecordLayout.ofEntries_eq_ok_iff_fills layout_distinct
  simp (disch := with_unfolding_all exact id rfl) only
    [layout, Field.fills_nil, Field.fills_optional read_logging_nil,
      Field.fills_optional read_screen_nil, getD_tableAt sectioned.logging,
      getD_tableAt sectioned.screen, LoggingConfig.read_eq_ok_iff, ScreenConfig.read_eq_ok_iff]
    at fills
  refine fills.trans ⟨?_, ?_⟩
  · rintro ⟨_, logging, _, screen, rfl⟩
    exact ⟨logging, screen⟩
  · rintro ⟨logging, screen⟩
    exact ⟨_, logging, _, screen, rfl⟩

theorem exists_read (plain : (Value.map entries).NoNull) (sectioned : Sectioned entries) :
    (∃ c, read f (.map entries) = .ok c) ↔
      LoggingConfig.Admits (tableAt "logging" entries) ∧
        ScreenConfig.Admits (tableAt "screen" entries) := by
  rw [← LoggingConfig.exists_read (f := f), ← ScreenConfig.exists_read (f := f) (plain.inner _)]
  simp only [read_eq_ok_iff sectioned, LoggingConfig.read_eq_ok_iff, ScreenConfig.read_eq_ok_iff]
  constructor
  · rintro ⟨c, given⟩
    exact ⟨⟨c.logging, given.logging⟩, c.screen, given.screen⟩
  · rintro ⟨⟨logging, first⟩, screen, second⟩
    exact ⟨⟨logging, screen⟩, first, second⟩

def names : List String := ["logging", "screen"]

def namesIn : String → List String
  | "logging" => ["filter"]
  | "screen" => ["fixed_width", "fixed_height"]
  | _ => []

def trimPart (name : String) (v : Value) : Value := v.trim (namesIn name)

/-- A document without the entries under other names, in it and in its sections. -/
def trim (entries : List (String × Value)) : List (String × Value) :=
  (entries.filter fun e => names.contains e.1).map fun e => (e.1, trimPart e.1 e.2)

theorem read_trim (entries : List (String × Value)) :
    read f (.map (trim entries)) = read f (.map entries) := by
  have logging (v : Value) : LoggingConfig.read f (v.trim ["filter"]) = LoggingConfig.read f v :=
    LoggingConfig.layout.read_trim v
  have screen (v : Value) :
      ScreenConfig.read f (v.trim ["fixed_width", "fixed_height"]) = ScreenConfig.read f v :=
    ScreenConfig.layout.read_trim v
  have parts : ∀ field ∈ layout.fields, ∀ v,
      field.read f (trimPart field.name v) = field.read f v := by
    simp [layout, Field.make, trimPart, namesIn, logging, screen]
  exact RecordLayout.ofEntries_trim_parts parts entries

theorem ofToml_eq_ok_iff {text : String} {document : Value}
    (holds : Toml.read text = some document) :
    ofToml text = .ok c ↔ read .toml document = .ok c := by
  simp only [ofToml, Decoder.ofToml, holds]
  cases read .toml document <;> simp [Except.mapError]

/-- A text is read through the document that it holds, which is a map without null. A document is
accepted exactly if the filter is a string and both sizes are integers of 32 bits, each if it is
given at all; other names do not matter, and each section is given by its own table. A screen takes
both sizes; it answers every query with them, and on it pointer events fail exactly if one of them
is not positive. -/
theorem reads_exactly_its_schema {σ α : Type} (native : UInt16 → UInt16) (device : Device σ) :
    (∀ text document, Toml.read text = some document →
      (∃ entries, document = .map entries) ∧ document.NoNull ∧
        ∀ c, ofToml text = .ok c ↔ read .toml document = .ok c) ∧
    ∀ entries, (Value.map entries).NoNull → Sectioned entries →
      let logging := tableAt "logging" entries
      let screen := tableAt "screen" entries
      ((∃ c, read .toml (.map entries) = .ok c) ↔
        LoggingConfig.Admits logging ∧ ScreenConfig.Admits screen) ∧
      read .toml (.map (trim entries)) = read .toml (.map entries) ∧
      ∀ c, read .toml (.map entries) = .ok c →
        c.logging.GivenBy logging ∧ c.screen.GivenBy screen ∧
        (∀ others d, Sectioned others → read .toml (.map others) = .ok d →
          (tableAt "logging" others = logging → d.logging = c.logging) ∧
          (tableAt "screen" others = screen → d.screen = c.screen)) ∧
        ((∃ size, c.screen.select? = some size) ↔
          (screen.lookup "fixed_width").isSome ∧ (screen.lookup "fixed_height").isSome) ∧
        ∀ size, c.screen.select? = some size →
          screen.lookup "fixed_width" = some (.int size.width.toInt) ∧
          screen.lookup "fixed_height" = some (.int size.height.toInt) ∧
          (∀ (p : Dialogue α) (s : Standing σ) (answer : Extent),
            .extent answer ∈ (p.run (.fixed size native device) s).steps → answer = size) ∧
          ∀ (e : Event) (s : Standing σ), e.payload.isPointer →
            ((∃ cause, (e.resolve.run (.fixed size native device) s).value = .error cause) ↔
              size.width ≤ 0 ∨ size.height ≤ 0) := by
  refine ⟨fun text document holds => ?_, fun entries plain sectioned => ?_⟩
  · obtain ⟨noNull, isMap⟩ := Toml.noNull_of_read holds
    exact ⟨isMap, noNull, fun c => ofToml_eq_ok_iff holds⟩
  · refine ⟨exists_read plain sectioned, read_trim entries, fun c reads => ?_⟩
    have given := (read_eq_ok_iff sectioned).mp reads
    have width := given.screen.lookup_width (plain.inner _)
    have height := given.screen.lookup_height (plain.inner _)
    refine ⟨given.logging, given.screen, fun others d tables other => ?_, ?_,
      fun size selected => ?_⟩
    · have there := (read_eq_ok_iff tables).mp other
      constructor
      · intro same
        have logging := there.logging
        rw [same] at logging
        exact eq_of_given (LoggingConfig.read_eq_ok_iff (f := .toml)) logging given.logging
      · intro same
        have screen := there.screen
        rw [same] at screen
        exact eq_of_given (ScreenConfig.read_eq_ok_iff (f := .toml)) screen given.screen
    · rw [ScreenConfig.exists_select?_iff, width, height, Option.isSome_map, Option.isSome_map]
    · obtain ⟨first, second⟩ := ScreenConfig.select?_eq_some_iff.mp selected
      rw [first] at width
      rw [second] at height
      exact ⟨width, height, fun p s answer asked => Dialogue.answer_fixed asked,
        fun e s pointer => Event.fails_fixed_iff pointer s⟩

theorem reads_exactly_its_schema_flat :
    let text := "pen = \"x\"\n\n[screen]\nfixed_width = 2560\nfixed_height = 0\nink = 1\n"
    let entries : List (String × Value) :=
      [("pen", .string "x"),
        ("screen", .map [("fixed_width", .int 2560), ("fixed_height", .int 0), ("ink", .int 1)])]
    let h : Host Nat := .fixed ⟨2560, 0⟩ Key.Layout.native (Script.device ⟨[]⟩)
    Toml.read text = some (.map entries) ∧ (Value.map entries).NoNull ∧ Sectioned entries ∧
    ∃ c, ofToml text = .ok c ∧ c.logging.filter = "info" ∧ c.screen.select? = some ⟨2560, 0⟩ ∧
      ∃ cause, ((Event.mouseMoved 5 5).resolve.run h ⟨0, 0⟩).value = .error cause := by
  intro text entries h
  let document : Toml.Document :=
    ⟨[("pen", .string "x")],
      [⟨"screen", [("fixed_width", .int 2560), ("fixed_height", .int 0), ("ink", .int 1)]⟩]⟩
  have written : document.text = text := by decide
  have pen : Toml.Writable document.entries :=
    ⟨by decide, by decide, by simp [document, Toml.Plain.Fits]⟩
  have screen : ∀ t ∈ document.tables, Toml.IsBareName t.name ∧ Toml.Writable t.entries :=
    List.forall_mem_singleton.mpr
      ⟨by decide, by decide, by decide, by simp [Toml.Plain.Fits]⟩
  have writable : document.Writable := ⟨pen, screen, by decide⟩
  have holds : Toml.read text = some (.map entries) := written ▸ Toml.read_text writable
  obtain ⟨texts, documents⟩ :=
    @reads_exactly_its_schema Nat Unit Key.Layout.native (Script.device ⟨[]⟩)
  obtain ⟨-, plain, through⟩ := texts text _ holds
  have sectioned : Sectioned entries :=
    ⟨by simp [entries, List.lookup_cons], by simp [entries, List.lookup_cons]⟩
  obtain ⟨accepted, -, success⟩ := documents entries plain sectioned
  have width : Value.IsInteger (-2147483648) 2147483647 (.int 2560) := ⟨_, rfl, by decide⟩
  have height : Value.IsInteger (-2147483648) 2147483647 (.int 0) := ⟨_, rfl, by decide⟩
  have admitted : LoggingConfig.Admits (tableAt "logging" entries) ∧
      ScreenConfig.Admits (tableAt "screen" entries) :=
    ⟨⟨by simp [tableAt, entries, List.lookup_cons]⟩,
      ⟨fun _ found => Option.some.inj found ▸ width,
        fun _ found => Option.some.inj found ▸ height⟩⟩
  obtain ⟨c, reads⟩ := accepted.mpr admitted
  obtain ⟨logging, -, -, selects, sizes⟩ := success c reads
  obtain ⟨size, selected⟩ := selects.mpr ⟨rfl, rfl⟩
  obtain ⟨wide, flat, -, fails⟩ := sizes size selected
  have same : size = ⟨2560, 0⟩ := by
    have first : (2560 : Int) = size.width.toInt := Value.int.inj (Option.some.inj wide)
    have second : (0 : Int) = size.height.toInt := Value.int.inj (Option.some.inj flat)
    exact congrArg₂ Extent.mk (Int32.toInt_inj.mp first.symm) (Int32.toInt_inj.mp second.symm)
  subst same
  exact ⟨holds, plain, sectioned, c, (through c).mpr reads, (Value.string.inj logging.filter).symm,
    selected, (fails _ _ rfl).mpr (.inr (by decide))⟩

end Config
end InputReplay

import InputReplay.Config.Basic
import InputReplay.Proofs.RecordFormat
import InputReplay.Proofs.Toml.Document

/-! Configuration survives being written. A document with both sections is read back into the same
configuration, and a size that is not set leaves no line. -/

namespace InputReplay

theorem LoggingConfig.read_filter (f : Format) (filter : String) :
    read f (.map [("filter", .string filter)]) = .ok ⟨filter⟩ := rfl

namespace ScreenConfig

/-- The screen section that entries give. To leave a size out is to give null, and gives none. -/
structure GivenBy (c : ScreenConfig) (entries : List (String × Value)) : Prop where
  width : (entries.lookup "fixed_width").getD .null = .optional (c.fixedWidth.map fun n => n.toInt)
  height : (entries.lookup "fixed_height").getD .null = .optional (c.fixedHeight.map fun n => n.toInt)

theorem layout_distinct : (layout.fields.map Field.name).Nodup := by
  decide

theorem read_eq_ok_iff {c : ScreenConfig} {f : Format} {entries : List (String × Value)} :
    read f (.map entries) = .ok c ↔ c.GivenBy entries := by
  have null : Decoder.nullable Decoder.i32 f .null = .ok none := rfl
  have fills : read f (.map entries) = .ok c ↔ _ :=
    RecordLayout.ofEntries_eq_ok_iff_fills layout_distinct
  simp (disch := with_unfolding_all exact id rfl) only
    [layout, Field.fills_nil, Field.fills_optional null, Decoder.nullable_i32_eq_ok_iff] at fills
  refine fills.trans ⟨?_, ?_⟩
  · rintro ⟨_, width, _, height, rfl⟩
    exact ⟨width, height⟩
  · rintro ⟨width, height⟩
    exact ⟨_, width, _, height, rfl⟩

def sizes (c : ScreenConfig) : List (String × Toml.Plain) :=
  (c.fixedWidth.map fun n => ("fixed_width", Toml.Plain.int n.toInt)).toList ++
    (c.fixedHeight.map fun n => ("fixed_height", Toml.Plain.int n.toInt)).toList

theorem names_sizes (c : ScreenConfig) :
    (c.sizes.map Prod.fst).Sublist (layout.fields.map Field.name) := by
  obtain ⟨width, height⟩ := c
  cases width <;> cases height <;> simp [sizes, layout, Field.make]

theorem writable_sizes (c : ScreenConfig) : Toml.Writable c.sizes where
  bare := by
    have names : ∀ name ∈ layout.fields.map Field.name, Toml.IsBareName name := by decide
    exact fun e member => names e.1 (c.names_sizes.subset (List.mem_map_of_mem member))
  distinct := c.names_sizes.nodup layout_distinct
  fits := by
    obtain ⟨width, height⟩ := c
    cases width <;> cases height <;> simp [sizes]

end ScreenConfig

namespace Config

/-- The line of a size, if it is set. -/
def sizeLine (name : String) : Option Int32 → String
  | none => ""
  | some n => name ++ " = " ++ toString n.toInt ++ "\n"

theorem layout_distinct : (layout.fields.map Field.name).Nodup := by
  decide

theorem read_sections {c : Config} {f : Format} {logging screen : Value}
    (first : LoggingConfig.read f logging = .ok c.logging)
    (second : ScreenConfig.read f screen = .ok c.screen) :
    read f (.map [("logging", logging), ("screen", screen)]) = .ok c := by
  refine (RecordLayout.ofEntries_eq_ok_iff layout_distinct).mpr ?_
  simp [layout, List.lookup_cons, first, second]

theorem read_toDocument (c : Config) (f : Format) : read f c.toDocument.toValue = .ok c := by
  refine read_sections (LoggingConfig.read_filter f c.logging.filter) ?_
  refine ScreenConfig.read_eq_ok_iff.mpr ?_
  obtain ⟨logging, width, height⟩ := c
  cases width <;> cases height <;>
    constructor <;> simp [Toml.Plain.toValue, List.lookup_cons, Value.optional]

theorem writable_toDocument (c : Config) : c.toDocument.Writable where
  entries := ⟨by simp [toDocument], by simp [toDocument], by simp [toDocument]⟩
  tables := by
    have bare : Toml.IsBareName "logging" ∧ Toml.IsBareName "screen" := by decide
    have filter : Toml.Writable [("filter", .string c.logging.filter)] :=
      ⟨by simp +decide, by simp, by simp [Toml.Plain.Fits]⟩
    simp only [toDocument, List.forall_mem_cons]
    exact ⟨⟨bare.1, filter⟩, ⟨bare.2, c.screen.writable_sizes⟩, by simp⟩
  distinct := by simp [toDocument]

theorem ofToml_toToml (c : Config) : ofToml c.toToml = .ok c := by
  have reads : read .toml c.toDocument.toValue = .ok c := c.read_toDocument .toml
  simp only [ofToml, toToml, Decoder.ofToml, Toml.read_text c.writable_toDocument, reads,
    Except.mapError]

theorem ofList_size (name : String) (n : Option Int32) :
    String.ofList ((n.map fun n => (name, Toml.Plain.int n.toInt)).toList.flatMap Toml.entryChars) =
      sizeLine name n := by
  cases n with
  | none => rfl
  | some n => simp [Toml.ofList_entryChars, Toml.Plain.chars, Toml.ofList_digits, sizeLine]

theorem toToml_eq (c : Config) : c.toToml =
    "[logging]\nfilter = " ++ String.ofList (Toml.quoted c.logging.filter.toList) ++
      "\n\n[screen]\n" ++ sizeLine "fixed_width" c.screen.fixedWidth ++
      sizeLine "fixed_height" c.screen.fixedHeight := by
  rw [← ofList_size, ← ofList_size]
  apply String.toList_inj.mp
  simp [toToml, toDocument, Toml.Document.text, Toml.Document.chars, Toml.Table.chars,
    Toml.entryChars, Toml.Plain.chars]

theorem written_reads_back (c : Config) :
    ofToml c.toToml = .ok c ∧
    (Toml.IsVerbatim c.logging.filter.toList →
      c.toToml = "[logging]\nfilter = \"" ++ c.logging.filter ++ "\"\n\n[screen]\n" ++
        sizeLine "fixed_width" c.screen.fixedWidth ++
        sizeLine "fixed_height" c.screen.fixedHeight) := by
  refine ⟨c.ofToml_toToml, fun verbatim => ?_⟩
  rw [toToml_eq, Toml.quoted_of_isVerbatim verbatim]
  apply String.toList_inj.mp
  simp

theorem written_reads_back_bracketed :
    let c : Config := ⟨⟨"[screen] # a=1"⟩, none, some (-5)⟩
    ofToml c.toToml = .ok c ∧
      c.toToml = "[logging]\nfilter = \"[screen] # a=1\"\n\n[screen]\nfixed_height = -5\n" := by
  intro c
  obtain ⟨reads, text⟩ := written_reads_back c
  exact ⟨reads, text (by decide)⟩

end Config
end InputReplay

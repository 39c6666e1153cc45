import InputReplay.Key

/-! The key layout as a table. A native code leads back to the usage it is laid out for, except that
the two Enter keys share one. The usages laid out fill four ranges, and those of navigation keys lie
side by side in the second. -/

namespace InputReplay.Key.Layout

/-- The usages that have a native code. -/
def IsLaidOut (usage : UInt16) : Prop :=
  0x04 ≤ usage ∧ usage ≤ 0x31 ∨ 0x33 ≤ usage ∧ usage ≤ 0x63 ∨ usage = 0x65 ∨
    0xE0 ≤ usage ∧ usage ≤ 0xE7

instance : DecidablePred IsLaidOut := fun _ => inferInstanceAs (Decidable (_ ∨ _))

theorem IsLaidOut.lt {usage : UInt16} (laidOut : IsLaidOut usage) : usage.toNat < 256 := by
  simp only [IsLaidOut, UInt16.le_iff_toNat_le, ← UInt16.toNat_inj] at laidOut
  simp at laidOut
  omega

def Run.entries (r : Run) : List (UInt16 × UInt16) :=
  (List.range r.count.toNat).map fun i => (r.usage + .ofNat i, r.native + .ofNat i)

def entries : List (UInt16 × UInt16) := runs.flatMap Run.entries ++ singles

theorem Run.mem_entries {r : Run} {usage code : UInt16} (found : r.native? usage = some code) :
    (usage, code) ∈ r.entries := by
  obtain ⟨inside, counted⟩ := Option.ite_none_right_eq_some.mp found
  have offset : r.usage + (usage - r.usage) = usage := by
    rw [UInt16.add_comm, UInt16.sub_add_cancel]
  refine List.mem_map.mpr ⟨(usage - r.usage).toNat, List.mem_range.mpr inside.2, ?_⟩
  simpa [offset] using counted

theorem mem_entries {usage : UInt16} (mapped : native usage ≠ 0) :
    (usage, native usage) ∈ entries := by
  unfold native entries at *
  cases inRun : runs.findSome? (·.native? usage) with
  | some code =>
    obtain ⟨r, member, found⟩ := List.exists_of_findSome?_eq_some inRun
    exact List.mem_append_left _ (List.mem_flatMap.mpr ⟨r, member, Run.mem_entries found⟩)
  | none =>
    cases single : singles.lookup usage with
    | some code =>
      obtain ⟨before, after, split, -⟩ := List.lookup_eq_some_iff.mp single
      refine List.mem_append_right _ ?_
      rw [split]
      exact List.mem_append_right _ List.mem_cons_self
    | none =>
      rw [inRun, single] at mapped
      exact absurd rfl mapped

theorem of_entries {p : UInt16 × UInt16 → Prop} [DecidablePred p] (table : entries.all (p ·))
    {usage : UInt16} (mapped : native usage ≠ 0) : p (usage, native usage) :=
  -- one check over the list, since there are too many pairs of words to try
  of_decide_eq_true (List.all_eq_true.mp table _ (mem_entries mapped))

theorem of_table {p : UInt16 → Prop} (table : ∀ n < 256, p (.ofNat n)) :
    ∀ usage : UInt16, usage.toNat < 256 → p usage := by
  intro usage below
  simpa using table usage.toNat below

theorem native_ne_zero_iff (usage : UInt16) : native usage ≠ 0 ↔ IsLaidOut usage := by
  constructor
  · intro mapped
    exact of_entries (p := fun entry => IsLaidOut entry.1) (by decide) mapped
  · intro laidOut
    have table : ∀ usage : UInt16, usage.toNat < 256 → IsLaidOut usage → native usage ≠ 0 :=
      of_table (by decide +kernel)
    exact table usage laidOut.lt laidOut

def Run.flip (r : Run) : Run := ⟨r.native, r.count, r.usage⟩

def logical (code : UInt16) : Option UInt16 :=
  (runs.findSome? (·.flip.native? code)).or ((singles.map Prod.swap).lookup code)

/-- The usage that a key is read back as. -/
def principal (usage : UInt16) : UInt16 :=
  if usage = Usage.numpadEnter then Usage.enter else usage

theorem logical_native {usage : UInt16} (mapped : native usage ≠ 0) :
    logical (native usage) = some (principal usage) :=
  of_entries (p := fun entry => logical entry.2 = some (principal entry.1)) (by decide) mapped

theorem eq_or_enter_of_native_eq {usage other : UInt16} (mapped : native usage ≠ 0)
    (same : native usage = native other) :
    usage = other ∨ usage = Usage.enter ∧ other = Usage.numpadEnter ∨
      usage = Usage.numpadEnter ∧ other = Usage.enter := by
  have back := logical_native mapped
  rw [same, logical_native (same ▸ mapped), Option.some.injEq] at back
  unfold principal at back
  split at back <;> split at back <;> simp_all

theorem isNavigation_native (usage : UInt16) :
    Virtual.isNavigation (native usage) = true ↔ 0x49 ≤ usage ∧ usage ≤ 0x52 := by
  constructor
  · intro navigation
    have mapped : native usage ≠ 0 := by
      intro zero
      rw [zero] at navigation
      exact absurd navigation (by decide)
    exact of_entries (p := fun entry => Virtual.isNavigation entry.2 = true →
      0x49 ≤ entry.1 ∧ entry.1 ≤ 0x52) (by decide) mapped navigation
  · intro range
    have table : ∀ usage : UInt16, usage.toNat < 256 →
        0x49 ≤ usage ∧ usage ≤ 0x52 → Virtual.isNavigation (native usage) = true :=
      of_table (by decide +kernel)
    exact table usage (Nat.lt_of_le_of_lt range.2 (by decide)) range

end InputReplay.Key.Layout

import InputReplay.Event.Basic
import InputReplay.Native.Descriptor
import Mathlib.Data.Set.Lattice

/-! Flag sets as sets of bit positions. Containment is inclusion, joining is union, and to
intersect is to have a position in common, so the laws of flag sets and of modifier masks are those
of sets. -/

namespace InputReplay

section Words

variable {n : Nat} {v w : BitVec n}

def positions (w : BitVec n) : Set Nat := {i | w.getLsbD i = true}

theorem positions_injective : Function.Injective (positions (n := n)) := by
  intro v w same
  refine BitVec.eq_of_getLsbD_eq fun i _ => Bool.eq_iff_iff.mpr ?_
  exact Set.ext_iff.mp same i

@[simp] theorem positions_zero : positions (0 : BitVec n) = ∅ := by
  ext i
  simp [positions]

@[simp] theorem positions_and (v w : BitVec n) :
    positions (v &&& w) = positions v ∩ positions w := by
  ext i
  simp [positions]

@[simp] theorem positions_or (v w : BitVec n) :
    positions (v ||| w) = positions v ∪ positions w := by
  ext i
  simp [positions]

theorem positions_twoPow {i : Nat} (inside : i < n) : positions (BitVec.twoPow n i) = {i} := by
  ext j
  simp only [positions, BitVec.getLsbD_twoPow, Set.mem_ofPred_eq, Set.mem_singleton_iff]
  grind

theorem and_eq_right_iff : v &&& w = w ↔ positions w ⊆ positions v := by
  rw [← positions_injective.eq_iff, positions_and, Set.inter_eq_right]

theorem and_ne_zero_iff : v &&& w ≠ 0 ↔ (positions v ∩ positions w).Nonempty := by
  rw [← positions_injective.ne_iff, positions_and, positions_zero, Set.nonempty_iff_ne_empty]

theorem positions_toBitVec_injective : Function.Injective fun w : UInt32 => positions w.toBitVec :=
  fun _ _ same => UInt32.toBitVec_inj.mp (positions_injective same)

theorem and_beq_right_iff {v w : UInt32} :
    (v &&& w == w) = true ↔ positions w.toBitVec ⊆ positions v.toBitVec := by
  rw [beq_iff_eq, ← UInt32.toBitVec_inj, UInt32.toBitVec_and, and_eq_right_iff]

end Words

/-- Flag sets are ordered by containment, with the empty set below all and the join of two sets as
the smallest that contains both. To raise flags in place is to join them. -/
structure Joins {F : Type} (contains : F → F → Bool) (join : F → F → F)
    (raise : F → StateM F Unit) (empty : F) : Prop where
  refl : ∀ a, contains a a
  trans : ∀ a b c, contains a b → contains b c → contains a c
  antisymm : ∀ a b, contains a b → contains b a → a = b
  contains_join : ∀ a b c, contains c (join a b) ↔ contains c a ∧ contains c b
  contains_empty : ∀ a, contains a empty
  raised : ∀ a b, ((raise b).run a).2 = join a b

theorem Joins.of_positions {F : Type} {contains : F → F → Bool} {join : F → F → F}
    {raise : F → StateM F Unit} {empty : F} {flags : F → Set Nat}
    (injective : Function.Injective flags)
    (contains_iff : ∀ {a b}, contains a b ↔ flags b ⊆ flags a)
    (flags_join : ∀ a b, flags (join a b) = flags a ∪ flags b) (flags_empty : flags empty = ∅)
    (raised : ∀ a b, ((raise b).run a).2 = join a b) :
    Joins contains join raise empty where
  refl a := contains_iff.mpr Set.Subset.rfl
  trans a b c ab bc :=
    contains_iff.mpr ((contains_iff.mp bc).trans (contains_iff.mp ab))
  antisymm a b ab ba :=
    injective ((contains_iff.mp ba).antisymm (contains_iff.mp ab))
  contains_join a b c := by
    rw [contains_iff, contains_iff, contains_iff, flags_join, Set.union_subset_iff]
  contains_empty a := contains_iff.mpr (flags_empty ▸ Set.empty_subset _)
  raised := raised

namespace KeyFlags

variable {a b : KeyFlags}

def flags (a : KeyFlags) : Set Nat := positions a.bits.toBitVec

theorem flags_injective : Function.Injective flags := by
  rintro ⟨a⟩ ⟨b⟩ same
  exact congrArg mk (positions_toBitVec_injective same)

theorem contains_iff : a.contains b ↔ b.flags ⊆ a.flags := and_beq_right_iff

theorem flags_or (a b : KeyFlags) : (a ||| b).flags = a.flags ∪ b.flags :=
  positions_or _ _

theorem joins : Joins contains (· ||| ·) raise keyDown :=
  .of_positions flags_injective contains_iff flags_or positions_zero fun _ _ => rfl

theorem isExtended_iff : a.isExtended ↔ 0 ∈ a.flags := by
  have bit : extendedKey.flags = {0} := positions_twoPow (n := 32) (i := 0) (by decide)
  rw [isExtended, contains_iff, bit, Set.singleton_subset_iff]

theorem isPress_iff : a.isPress ↔ 1 ∉ a.flags := by
  have bit : keyUp.flags = {1} := positions_twoPow (n := 32) (i := 1) (by decide)
  rw [isPress, Bool.not_eq_true', ← Bool.not_eq_true, contains_iff, bit, Set.singleton_subset_iff]

theorem isPress_or (a b : KeyFlags) : (a ||| b).isPress ↔ a.isPress ∧ b.isPress := by
  rw [isPress_iff, isPress_iff, isPress_iff, flags_or, Set.mem_union, not_or]

theorem isExtended_or (a b : KeyFlags) :
    (a ||| b).isExtended ↔ a.isExtended ∨ b.isExtended := by
  rw [isExtended_iff, isExtended_iff, isExtended_iff, flags_or, Set.mem_union]

end KeyFlags

namespace MouseFlags

variable {a b : MouseFlags}

def flags (a : MouseFlags) : Set Nat := positions a.bits.toBitVec

theorem flags_injective : Function.Injective flags := by
  rintro ⟨a⟩ ⟨b⟩ same
  exact congrArg mk (positions_toBitVec_injective same)

theorem contains_iff : a.contains b ↔ b.flags ⊆ a.flags := and_beq_right_iff

theorem flags_or (a b : MouseFlags) : (a ||| b).flags = a.flags ∪ b.flags :=
  positions_or _ _

theorem flags_empty : empty.flags = ∅ := positions_zero

theorem joins : Joins contains (· ||| ·) raise empty :=
  .of_positions flags_injective contains_iff flags_or flags_empty fun _ _ => rfl

theorem intersects_iff : a.intersects b ↔ (a.flags ∩ b.flags).Nonempty := by
  rw [intersects, bne_iff_ne, ne_eq, ← UInt32.toBitVec_inj, UInt32.toBitVec_and]
  exact and_ne_zero_iff

theorem intersects_iff_exists :
    a.intersects b ↔ ∃ d : MouseFlags, d ≠ empty ∧ a.contains d ∧ b.contains d := by
  rw [intersects_iff]
  constructor
  · intro common
    -- the flags in common are a set of their own, the largest that both contain
    let d : MouseFlags := ⟨a.bits &&& b.bits⟩
    have both : d.flags = a.flags ∩ b.flags := positions_and _ _
    refine ⟨d, ?_, contains_iff.mpr ?_, contains_iff.mpr ?_⟩
    · rw [← both] at common
      intro bare
      exact common.ne_empty (bare ▸ flags_empty)
    · exact both ▸ Set.inter_subset_left
    · exact both ▸ Set.inter_subset_right
  · rintro ⟨d, filled, left, right⟩
    have flagged : d.flags.Nonempty := by
      rw [Set.nonempty_iff_ne_empty, ← flags_empty]
      exact flags_injective.ne filled
    exact flagged.mono (Set.subset_inter (contains_iff.mp left) (contains_iff.mp right))

theorem intersects_or (a b c : MouseFlags) :
    a.intersects (b ||| c) ↔ a.intersects b ∨ a.intersects c := by
  rw [intersects_iff, intersects_iff, intersects_iff, flags_or, Set.inter_union_distrib_left,
    Set.union_nonempty]

end MouseFlags

namespace ModifierMask

/-- Whether a modifier is held is told by two bits and by no others. -/
structure ToldBy (holds : ModifierMask → Bool) (left right : UInt16) : Prop where
  add_iff : ∀ m b, holds (m.add b) ↔ holds m ∨ b &&& (left ||| right) ≠ 0
  add_other : ∀ m b, b &&& (left ||| right) = 0 → holds (m.add b) = holds m
  congr : ∀ m m' : ModifierMask,
    m.bits &&& (left ||| right) = m'.bits &&& (left ||| right) → holds m = holds m'

theorem and_ne_zero_iff {v w : UInt16} :
    v &&& w ≠ 0 ↔ (positions v.toBitVec ∩ positions w.toBitVec).Nonempty := by
  rw [ne_eq, ← UInt16.toBitVec_inj, UInt16.toBitVec_and]
  exact InputReplay.and_ne_zero_iff

theorem intersects_add (m : ModifierMask) (b pair : UInt16) :
    (m.add b).intersects pair ↔ m.intersects pair ∨ b &&& pair ≠ 0 := by
  rw [intersects, intersects, bne_iff_ne, bne_iff_ne, and_ne_zero_iff, and_ne_zero_iff,
    and_ne_zero_iff, add, UInt16.toBitVec_or, positions_or, Set.union_inter_distrib_right,
    Set.union_nonempty]

theorem toldBy_intersects (left right : UInt16) :
    ToldBy (fun m => m.intersects (left ||| right)) left right where
  add_iff m b := m.intersects_add b _
  add_other m b other := by
    rw [Bool.eq_iff_iff, intersects_add, or_iff_left (not_not.mpr other)]
  congr m m' same := by
    rw [intersects, intersects, same]

end ModifierMask

/-- Flag sets of either kind have the order and the joins of sets. A press has no flag of its own,
so a join is a press only if both parts are, while every set contains the flag of a press. A
modifier is told by its two bits alone. -/
theorem flag_sets_form_lattice :
    Joins KeyFlags.contains (· ||| ·) KeyFlags.raise ⟨0⟩ ∧
    Joins MouseFlags.contains (· ||| ·) MouseFlags.raise ⟨0⟩ ∧
    (∀ a b : KeyFlags,
      ((a ||| b).isPress ↔ a.isPress ∧ b.isPress) ∧
      ((a ||| b).isExtended ↔ a.isExtended ∨ b.isExtended)) ∧
    (∀ a b c : MouseFlags,
      (a.intersects b ↔ ∃ d : MouseFlags, d ≠ ⟨0⟩ ∧ a.contains d ∧ b.contains d) ∧
      (a.intersects (b ||| c) ↔ a.intersects b ∨ a.intersects c)) ∧
    ModifierMask.ToldBy ModifierMask.holdsShift ModifierMask.shiftLeft ModifierMask.shiftRight ∧
    ModifierMask.ToldBy ModifierMask.holdsCtrl ModifierMask.ctrlLeft ModifierMask.ctrlRight ∧
    ModifierMask.ToldBy ModifierMask.holdsAlt ModifierMask.altLeft ModifierMask.altRight ∧
    ModifierMask.ToldBy ModifierMask.holdsMeta ModifierMask.metaLeft ModifierMask.metaRight := by
  refine ⟨KeyFlags.joins, MouseFlags.joins, fun a b => ⟨a.isPress_or b, a.isExtended_or b⟩,
    fun a b c => ⟨MouseFlags.intersects_iff_exists, a.intersects_or b c⟩, ?_, ?_, ?_, ?_⟩
  all_goals exact ModifierMask.toldBy_intersects ..

/-- To look for the press flag would take a release for a press. -/
example : (KeyFlags.keyDown ||| .keyUp).contains .keyDown = true ∧
    (KeyFlags.keyDown ||| .keyUp).isPress = false := by
  decide

end InputReplay

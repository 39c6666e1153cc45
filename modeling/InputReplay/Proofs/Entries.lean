import Mathlib.Data.List.Perm.Basic
import Mathlib.Data.List.Nodup

/-! What stands under a name in a list of entries. If no name stands there twice, the order of the
entries does not matter. -/

namespace InputReplay

variable {α : Type}

theorem lookup_eq_none_iff {entries : List (String × α)} {name : String} :
    entries.lookup name = none ↔ name ∉ entries.map Prod.fst := by
  rw [List.lookup_eq_none_iff, List.mem_map]
  constructor
  · rintro others ⟨e, member, rfl⟩
    simpa using others e member
  · intro absent e member
    exact bne_iff_ne.mpr fun same => absent ⟨e, member, same.symm⟩

theorem lookup_eq_none_of_nodup {entries : List (String × α)} {name : String} {names : List String}
    (distinct : (entries.map Prod.fst ++ name :: names).Nodup) : entries.lookup name = none :=
  lookup_eq_none_iff.mpr fun member =>
    (List.nodup_append.mp distinct).2.2 name member name List.mem_cons_self rfl

theorem lookup_eq_of_perm {a b : List (String × α)} (same : a.Perm b)
    (distinct : (a.map Prod.fst).Nodup) (name : String) : a.lookup name = b.lookup name := by
  induction same with
  | nil => rfl
  | cons e _ ih => rw [List.lookup_cons, List.lookup_cons, ih (List.nodup_cons.mp distinct).2]
  | swap e d rest =>
    have apart : e.1 ≠ d.1 := fun eq => by simp [eq] at distinct
    rcases e with ⟨first, v⟩
    rcases d with ⟨second, w⟩
    by_cases found : name = first
    · have missed : (first == second) = false := beq_eq_false_iff_ne.mpr apart
      simp [List.lookup_cons, found, missed]
    · have missed : (name == first) = false := beq_eq_false_iff_ne.mpr found
      simp [List.lookup_cons, missed]
  | trans left _ ihLeft ihRight =>
    rw [ihLeft distinct, ihRight ((left.map Prod.fst).nodup_iff.mp distinct)]

theorem lookup_filter_name {entries : List (String × α)} (keeps : String → Bool) {name : String}
    (kept : keeps name = true) :
    (entries.filter fun e => keeps e.1).lookup name = entries.lookup name := by
  induction entries with
  | nil => rfl
  | cons e entries ih =>
    rcases e with ⟨first, v⟩
    by_cases same : name = first
    · subst same
      simp [kept]
    · have other : (name == first) = false := beq_eq_false_iff_ne.mpr same
      cases keep : keeps first <;> simp [keep, List.lookup_cons, other, ih]

theorem lookup_map_name {β : Type} (entries : List (String × α)) (f : String → α → β)
    (name : String) :
    (entries.map fun e => (e.1, f e.1 e.2)).lookup name = (entries.lookup name).map (f name) := by
  induction entries with
  | nil => rfl
  | cons e entries ih =>
    rcases e with ⟨first, v⟩
    by_cases same : name = first
    · subst same
      simp
    · have other : (name == first) = false := beq_eq_false_iff_ne.mpr same
      simp [List.lookup_cons, other, ih]

end InputReplay

import InputReplay.Proofs.Actions
import InputReplay.Proofs.Delivery
import Mathlib.Data.List.Infix
import Mathlib.Data.Multiset.Count
import Mathlib.Data.Multiset.MapFold

/-! Presses before releases. If no beginning of a gesture releases a key or a button more often than
it presses it, neither does any beginning of what the device accepts, on the native side, where
several keys may share one code. This rests on the stop at the first failure: the accepted
descriptors are those of a beginning of the gesture, with no event left out between. -/

namespace InputReplay

variable {σ α β κ μ : Type}

/-- No beginning of the list releases anything more often than it presses it. -/
def Balanced (acts : Button.Action → κ → α → Bool) (l : List α) : Prop :=
  ∀ part, part <+: l → ∀ k, part.countP (acts .up k) ≤ part.countP (acts .down k)

theorem Balanced.of_begins {acts : Button.Action → κ → α → Bool} {l whole : List α}
    (balanced : Balanced acts whole) (begins : l <+: whole) : Balanced acts l :=
  fun part inside => balanced part (inside.trans begins)

theorem Balanced.of_map {acts : Button.Action → κ → β → Bool} {f : α → β} {l : List α}
    (balanced : Balanced acts (l.map f)) : Balanced (fun action k a => acts action k (f a)) l := by
  intro part inside k
  have counts := balanced (part.map f) (inside.map f) k
  rwa [List.countP_map, List.countP_map] at counts

theorem balanced_iff_inits [DecidableEq κ] {key? : Button.Action → α → Option κ} {l : List α} :
    Balanced (fun action k a => key? action a == some k) l ↔
      ∀ part ∈ l.inits, ∀ k ∈ part.filterMap (key? .up),
        part.countP (fun a => key? .up a == some k) ≤
          part.countP fun a => key? .down a == some k := by
  constructor
  · intro balanced part inside k _
    exact balanced part ((List.mem_inits part l).mp inside) k
  · intro ordered part begins k
    by_cases released : k ∈ part.filterMap (key? .up)
    · exact ordered part ((List.mem_inits part l).mpr begins) k released
    · have never : part.countP (fun a => key? .up a == some k) = 0 := by
        rw [← List.count_filterMap, List.count_eq_zero]
        exact released
      rw [never]
      exact Nat.zero_le _

instance [DecidableEq κ] (key? : Button.Action → α → Option κ) (l : List α) :
    Decidable (Balanced (fun action k a => key? action a == some k) l) :=
  decidable_of_iff _ balanced_iff_inits.symm

theorem countP_map_le [DecidableEq κ] [DecidableEq μ] {closes opens : α → Option κ} (f : κ → μ)
    {l : List α}
    (le : ∀ k, l.countP (fun a => closes a == some k) ≤ l.countP fun a => opens a == some k)
    (m : μ) :
    l.countP (fun a => (closes a).map f == some m) ≤
      l.countP fun a => (opens a).map f == some m := by
  -- ordered counts put one multiset of keys inside the other, and renaming keeps it there
  have keys : (l.filterMap closes : Multiset κ) ≤ (l.filterMap opens : Multiset κ) := by
    refine Multiset.le_iff_count.mpr fun k => ?_
    simpa only [Multiset.coe_count, List.count_filterMap] using le k
  have renamed := Multiset.count_le_of_le m (Multiset.map_le_map (f := f) keys)
  simpa only [Multiset.map_coe, Multiset.coe_count, List.map_filterMap, List.count_filterMap]
    using renamed

theorem Balanced.transport [DecidableEq κ] [DecidableEq μ]
    {key? : Button.Action → α → Option κ} {acts : Button.Action → μ → β → Bool} (f : κ → μ)
    {g : α → Option β} {l : List α}
    (balanced : Balanced (fun action k a => key? action a == some k) l)
    (stands : ∀ a ∈ l, ∀ action m,
      ((g a).map (acts action m)).getD false = ((key? action a).map f == some m)) :
    Balanced acts (l.filterMap g) := by
  intro image inside m
  obtain ⟨part, begins, rfl⟩ := List.prefix_filterMap_iff.mp inside
  have counts : ∀ action, (part.filterMap g).countP (acts action m) =
      part.countP fun a => (key? action a).map f == some m := by
    intro action
    rw [List.countP_filterMap]
    exact List.countP_congr fun a member => by rw [stands a (begins.subset member)]
  rw [counts, counts]
  exact countP_map_le f (balanced part begins) m

namespace Event

instance (events : List Event) : Decidable (Balanced actsOnKey events) :=
  inferInstanceAs (Decidable (Balanced (fun action k e => key? action e == some k) events))

instance (events : List Event) : Decidable (Balanced actsOnButton events) :=
  inferInstanceAs (Decidable (Balanced (fun action k e => button? action e == some k) events))

/-- A gesture that presses before it releases reaches the device that way, however far it gets. -/
theorem postAll_balanced (h : Host σ) (events : List Event) (s : Standing σ)
    (keys : Balanced actsOnKey events) (buttons : Balanced actsOnButton events) :
    let accepted := ((postAll events).run h s).accepted
    Balanced Descriptor.actsOnKey accepted ∧ Balanced Descriptor.actsOnButton accepted := by
  intro accepted
  obtain ⟨before, after, split, succeed, delivered⟩ := accepted_postAll h events s
  have begins : before.map Turn.event <+: events := by
    rw [← event_turns h events s, split, List.map_append]
    exact List.prefix_append _ _
  have resolves : ∀ t ∈ before, t.resolved h = .ok (t.descriptor? h) :=
    fun t member => Turn.resolved_of_ok h (succeed t member)
  rw [show accepted = _ from delivered]
  -- only because nothing is left out of `before` does the balance of the events carry over
  constructor
  · exact (keys.of_begins begins).of_map.transport h.native fun t member action code =>
      actsOnKey_descriptor (resolves t member) action code
  · exact (buttons.of_begins begins).of_map.transport Button.Native.ofOrdinal
      fun t member action button => actsOnButton_descriptor (resolves t member) action button

/-- Two keys that share a native code and an extended button, pressed and released in turn. -/
def chord : List Event :=
  [keyPressed 4 .empty, keyPressed 5 .empty, keyReleased 4 .empty, mousePressed 5 5 4,
    mouseReleased 5 5 4, keyReleased 5 .empty]

def chordHost (replies : List (UInt32 × UInt32)) : Host Nat :=
  ⟨fun keycode => if keycode = 4 ∨ keycode = 5 then 0x41 else 0,
    Extent.sequence [⟨1920, 1080⟩], Script.device ⟨replies⟩⟩

theorem postAll_balanced_chord :
    let gesture := (postAll chord).run (chordHost [(1, 0), (2, 0), (1, 0), (1, 0), (0, 5)]) ⟨0, 0⟩
    (Balanced actsOnKey chord ∧ Balanced actsOnButton chord) ∧
    (gesture.value = .error (4, .inject ⟨5⟩) ∧ gesture.accepted.length = 4) ∧
    Balanced Descriptor.actsOnKey gesture.accepted ∧
    Balanced Descriptor.actsOnButton gesture.accepted := by
  intro gesture
  have keys : Balanced actsOnKey chord := by decide
  have buttons : Balanced actsOnButton chord := by decide
  exact ⟨⟨keys, buttons⟩, by decide, postAll_balanced _ chord _ keys buttons⟩

/-- Quiet posting makes no such promise: with both presses rejected, a release comes first. -/
example :
    ¬Balanced Descriptor.actsOnKey
      ((chord.forM postQuietly).run (chordHost [(0, 5), (0, 5)]) ⟨0, 0⟩).accepted := by
  intro balanced
  have counts := balanced _ List.prefix_rfl 0x41
  revert counts
  decide

end Event
end InputReplay

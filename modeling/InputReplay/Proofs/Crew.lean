import InputReplay.Host.Run
import Mathlib.Logic.Function.Basic

/-! Dialogues taken in turns on one host. Every request and every notice is a step of its own, and
between two steps of one party any number of steps of the others may fall. On a host whose answers do
not depend on what went before, a party notices nothing of the others. -/

namespace InputReplay

variable {ι σ α : Type}

namespace Dialogue

/-- The next step of a dialogue, with the rest of it and the standing after the step. -/
def next? (h : Host σ) : Dialogue α → Standing σ → Option (Step × Dialogue α × Standing σ)
  | done _, _ => none
  | native code next, s => some (.native code (h.native code), next (h.native code), s)
  | extent next, s =>
    some (.extent (h.screen s.queries), next (h.screen s.queries), ⟨s.queries + 1, s.device⟩)
  | send d next, s =>
    let answer := h.device.send d s.device
    some (.sent d answer.1, next answer.1, ⟨s.queries, answer.2⟩)
  | lastError next, s =>
    let answer := h.device.lastError s.device
    some (.lastError answer.1, next answer.1, ⟨s.queries, answer.2⟩)
  | note n next, s => some (.noted n, next, s)

def value? : Dialogue α → Option α
  | done a => some a
  | _ => none

theorem eq_done_of_value? {p : Dialogue α} {a : α} (finished : p.value? = some a) :
    p = done a := by
  cases p <;> cases finished
  rfl

theorem run_of_next? {h : Host σ} {p rest : Dialogue α} {s t : Standing σ} {step : Step}
    (next : p.next? h s = some (step, rest, t)) : p.run h s = (rest.run h t).after step := by
  cases p <;> cases next <;> rfl

theorem value?_of_next? {h : Host σ} {p : Dialogue α} {s : Standing σ}
    (stuck : p.next? h s = none) : p.value? = some (p.run h s).value := by
  cases p <;> cases stuck
  rfl

end Dialogue

/-- A host that answers the same whatever it was asked before. -/
structure Host.Steady (h : Host σ) : Prop where
  screen : ∀ m n, h.screen m = h.screen n
  send : ∀ d s t, (h.device.send d s).1 = (h.device.send d t).1
  lastError : ∀ s t, (h.device.lastError s).1 = (h.device.lastError t).1

theorem Host.Steady.run_eq {h : Host σ} (steady : h.Steady) (p : Dialogue α) (s t : Standing σ) :
    (p.run h s).value = (p.run h t).value ∧ (p.run h s).steps = (p.run h t).steps := by
  induction p generalizing s t with
  | done a => exact ⟨rfl, rfl⟩
  | native code next ih =>
    obtain ⟨value, steps⟩ := ih (h.native code) s t
    simp only [Dialogue.run, Run.value_after, Run.steps_after]
    exact ⟨value, congrArg _ steps⟩
  | extent next ih =>
    obtain ⟨value, steps⟩ :=
      ih (h.screen s.queries) ⟨s.queries + 1, s.device⟩ ⟨t.queries + 1, t.device⟩
    simp only [Dialogue.run, steady.screen t.queries s.queries, Run.value_after, Run.steps_after]
    exact ⟨value, congrArg _ steps⟩
  | send d next ih =>
    obtain ⟨value, steps⟩ := ih (h.device.send d s.device).1
      ⟨s.queries, (h.device.send d s.device).2⟩ ⟨t.queries, (h.device.send d t.device).2⟩
    simp only [Dialogue.run, steady.send d t.device s.device, Run.value_after, Run.steps_after]
    exact ⟨value, congrArg _ steps⟩
  | lastError next ih =>
    obtain ⟨value, steps⟩ := ih (h.device.lastError s.device).1
      ⟨s.queries, (h.device.lastError s.device).2⟩ ⟨t.queries, (h.device.lastError t.device).2⟩
    simp only [Dialogue.run, steady.lastError t.device s.device, Run.value_after, Run.steps_after]
    exact ⟨value, congrArg _ steps⟩
  | note n next ih =>
    obtain ⟨value, steps⟩ := ih s t
    simp only [Dialogue.run, Run.value_after, Run.steps_after]
    exact ⟨value, congrArg _ steps⟩

/-- Parties in the midst of their dialogues on one host, with the steps taken so far, each under the
party that took it. -/
structure Crew (ι σ α : Type) where
  parties : ι → Dialogue α
  standing : Standing σ
  log : List (ι × Step)

/-- Those of some entries that stand under one party, in order. -/
def share {β : Type} [DecidableEq ι] (i : ι) (entries : List (ι × β)) : List β :=
  (entries.filter fun e => e.1 = i).map Prod.snd

section Share

variable {β γ : Type} [DecidableEq ι]

theorem share_append (i : ι) (first second : List (ι × β)) :
    share i (first ++ second) = share i first ++ share i second := by
  rw [share, List.filter_append, List.map_append]
  rfl

theorem share_singleton_self (i : ι) (b : β) : share i [(i, b)] = [b] := by
  simp [share]

theorem share_singleton_of_ne {i j : ι} (other : j ≠ i) (b : β) : share i [(j, b)] = [] := by
  simp [share, other]

theorem share_filterMap (read : β → Option γ) (i : ι) (entries : List (ι × β)) :
    share i (entries.filterMap fun e => (read e.2).map (e.1, ·)) =
      (share i entries).filterMap read := by
  unfold share
  induction entries with
  | nil => rfl
  | cons e entries ih =>
    by_cases own : e.1 = i
    all_goals
      cases found : read e.2
      all_goals simp [own, found, ih]

end Share

namespace Crew

def start (parties : ι → Dialogue α) (s : Standing σ) : Crew ι σ α := ⟨parties, s, []⟩

variable [DecidableEq ι]

/-- One party takes its next step. A party that has finished takes none. -/
def turn (h : Host σ) (c : Crew ι σ α) (i : ι) : Crew ι σ α :=
  match (c.parties i).next? h c.standing with
  | none => c
  | some (step, rest, standing) =>
    ⟨Function.update c.parties i rest, standing, c.log ++ [(i, step)]⟩

theorem turn_of_none {h : Host σ} {c : Crew ι σ α} {i : ι}
    (stuck : (c.parties i).next? h c.standing = none) : c.turn h i = c := by
  simp only [turn, stuck]

theorem turn_of_next? {h : Host σ} {c : Crew ι σ α} {i : ι} {step : Step} {rest : Dialogue α}
    {t : Standing σ} (next : (c.parties i).next? h c.standing = some (step, rest, t)) :
    c.turn h i = ⟨Function.update c.parties i rest, t, c.log ++ [(i, step)]⟩ := by
  simp only [turn, next]

def follow (h : Host σ) (c : Crew ι σ α) (schedule : List ι) : Crew ι σ α :=
  schedule.foldl (turn h) c

theorem follow_cons (h : Host σ) (c : Crew ι σ α) (i : ι) (schedule : List ι) :
    c.follow h (i :: schedule) = (c.turn h i).follow h schedule := rfl

theorem follow_induction {h : Host σ} {kept : Crew ι σ α → Prop} {c : Crew ι σ α} (first : kept c)
    (turns : ∀ c i, kept c → kept (c.turn h i)) (schedule : List ι) :
    kept (c.follow h schedule) := by
  induction schedule generalizing c with
  | nil => exact first
  | cons i schedule ih => exact ih (turns c i first)

/-- What each party has done and has yet to do is together what it does alone. -/
structure Undisturbed (h : Host σ) (parties : ι → Dialogue α) (s : Standing σ) (c : Crew ι σ α) :
    Prop where
  value : ∀ i, ((c.parties i).run h c.standing).value = ((parties i).run h s).value
  steps : ∀ i, share i c.log ++ ((c.parties i).run h c.standing).steps =
    ((parties i).run h s).steps

theorem undisturbed_start (h : Host σ) (parties : ι → Dialogue α) (s : Standing σ) :
    Undisturbed h parties s (start parties s) := ⟨fun _ => rfl, fun _ => rfl⟩

theorem Undisturbed.turn {h : Host σ} (steady : h.Steady) {parties : ι → Dialogue α}
    {s : Standing σ} (c : Crew ι σ α) (i : ι) (kept : Undisturbed h parties s c) :
    Undisturbed h parties s (c.turn h i) := by
  cases next : (c.parties i).next? h c.standing with
  | none => exact (turn_of_none next).symm ▸ kept
  | some further =>
    have own := Dialogue.run_of_next? next
    rw [turn_of_next? next]
    constructor
    · intro j
      -- another's turn changes the standing alone, to which a steady host is blind
      rw [← kept.value j]
      by_cases same : j = i
      · subst same
        simp [own]
      · simp only [Function.update_of_ne same]
        exact (steady.run_eq _ _ _).1
    · intro j
      rw [← kept.steps j, share_append]
      by_cases same : j = i
      · subst same
        simp [own, share_singleton_self]
      · simp only [Function.update_of_ne same, share_singleton_of_ne (Ne.symm same),
          List.append_nil]
        rw [(steady.run_eq _ _ _).2]

theorem undisturbed_follow {h : Host σ} (steady : h.Steady) (parties : ι → Dialogue α)
    (s : Standing σ) (schedule : List ι) :
    Undisturbed h parties s ((start parties s).follow h schedule) :=
  follow_induction (undisturbed_start h parties s) (Undisturbed.turn steady) schedule

theorem Undisturbed.of_value? {h : Host σ} {parties : ι → Dialogue α} {s : Standing σ}
    {c : Crew ι σ α} (kept : Undisturbed h parties s c) {i : ι} {a : α}
    (finished : (c.parties i).value? = some a) :
    a = ((parties i).run h s).value ∧ share i c.log = ((parties i).run h s).steps := by
  have value := kept.value i
  have steps := kept.steps i
  rw [Dialogue.eq_done_of_value? finished] at value steps
  exact ⟨value, (List.append_nil _).symm.trans steps⟩

theorem exists_finished (h : Host σ) (c : Crew ι σ α) (i : ι) :
    ∃ n, ((c.follow h (List.replicate n i)).parties i).value? =
      some ((c.parties i).run h c.standing).value := by
  -- each turn takes the first of the steps that the party has yet to take
  generalize taken : ((c.parties i).run h c.standing).steps = steps
  induction steps generalizing c with
  | nil =>
    cases next : (c.parties i).next? h c.standing with
    | none => exact ⟨0, Dialogue.value?_of_next? next⟩
    | some further =>
      rw [Dialogue.run_of_next? next] at taken
      cases taken
  | cons first steps ih =>
    cases next : (c.parties i).next? h c.standing with
    | none => exact ⟨0, Dialogue.value?_of_next? next⟩
    | some further =>
      have run := Dialogue.run_of_next? next
      have turned := turn_of_next? next
      rw [run] at taken
      obtain ⟨n, finished⟩ := ih (c.turn h i) (by simpa [turned] using (List.cons.inj taken).2)
      refine ⟨n + 1, ?_⟩
      rw [List.replicate_succ, follow_cons, finished, turned, run]
      simp

end Crew
end InputReplay

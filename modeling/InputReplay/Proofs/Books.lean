import InputReplay.Proofs.Turns

/-! The books of a session. Every outcome leaves one record, at the level that goes with it, so the
records of a session can be counted off the events it processed and the descriptors it sent. -/

namespace InputReplay

variable {σ : Type}

def levels (steps : List Step) : List Level :=
  (steps.filterMap Step.notice?).map Notice.level

theorem levels_append (first second : List Step) :
    levels (first ++ second) = levels first ++ levels second := by
  rw [levels, List.filterMap_append, List.map_append]
  rfl

/-- Whether an event is warned of: it is of no known kind, or its key has no native code. -/
def Event.warns (native : UInt16 → UInt16) (e : Event) : Bool :=
  match e.payload with
  | .unrecognized _ => true
  | .keyPressed k | .keyReleased k => native k.keycode == 0
  | _ => false

theorem Event.levels_consultation (native : UInt16 → UInt16) (screen : Extent) (e : Event) :
    levels (e.consultation native screen) = if e.warns native then [.warn] else [] := by
  obtain ⟨payload, mask⟩ := e
  cases payload with
  | keyPressed k | keyReleased k =>
    by_cases unmapped : native k.keycode = 0
    all_goals
      simp only [consultation, Payload.gesture, warns, unmapped, ↓reduceIte, beq_self_eq_true,
        beq_iff_eq]
      rfl
  | _ => rfl

/-- The levels an outcome is recorded at: an error for a failure, and otherwise a debug record for
each accepted descriptor. -/
def outcomeLevels (accepted : List Descriptor) : Except PostError Unit → List Level
  | .ok _ => List.replicate accepted.length .debug
  | .error _ => [.error]

theorem Ending.levels {number : UInt32} {resolved : Except ResolveError (Option Descriptor)}
    {value : Except PostError Unit} {steps : List Step}
    (ending : Ending number resolved value steps) :
    InputReplay.levels steps = outcomeLevels (steps.filterMap Step.accepted?) value := by
  cases ending with
  | injected d count accepted =>
    have delivered : [Step.sent d count, .noted (.injected d)].filterMap Step.accepted? = [d] := by
      simp [Step.accepted?, accepted]
    rw [delivered]
    rfl
  | _ => rfl

namespace Turn

theorem levels_run (h : Host σ) (t : Turn σ) :
    levels (t.run h).steps =
      (if t.event.warns h.native then [.warn] else []) ++
        outcomeLevels (t.run h).accepted (t.run h).value := by
  obtain ⟨steps, ending, split⟩ := t.ending h
  rw [Run.accepted, split, levels_append, Event.levels_consultation, ending.levels,
    List.filterMap_append, Event.accepted_consultation, List.nil_append]

def isRejected (h : Host σ) (t : Turn σ) : Bool :=
  match (t.run h).value with
  | .error (.inject _) => true
  | _ => false

theorem length_sent (h : Host σ) (t : Turn σ) :
    (t.run h).sent.length = (t.run h).accepted.length + if t.isRejected h then 1 else 0 := by
  rw [t.sent_run h, isRejected]
  cases outcome : (t.run h).value with
  | ok _ => rw [t.accepted_run_ok h outcome]; rfl
  | error cause =>
    rw [t.accepted_run_error h outcome]
    cases cause with
    | inject reason =>
      obtain ⟨d, found⟩ := t.descriptor?_of_inject h outcome
      rw [found]
      rfl
    | resolve cause =>
      rw [t.descriptor?_of_resolve h outcome]
      rfl

end Turn

/-- The books of some turns balance with their steps: one error for each failure, one debug record
for each submission that injected something, one warning for each event that is warned of, and
nothing else. -/
structure Booked (h : Host σ) (ts : List (Turn σ)) (steps : List Step) : Prop where
  errors : (levels steps).count .error = ts.countP fun t => !(t.run h).value.isOk
  debugs : (levels steps).count .debug = (steps.filterMap Step.accepted?).length
  warnings : (levels steps).count .warn = ts.countP fun t => t.event.warns h.native
  others : (levels steps).count .info = 0
  sends : (steps.filterMap Step.descriptor?).length =
    (levels steps).count .debug + ts.countP (Turn.isRejected h)

namespace Booked

theorem nil (h : Host σ) : Booked h [] [] := ⟨rfl, rfl, rfl, rfl, rfl⟩

theorem append {h : Host σ} {first second : List (Turn σ)} {earlier later : List Step}
    (a : Booked h first earlier) (b : Booked h second later) :
    Booked h (first ++ second) (earlier ++ later) where
  errors := by rw [levels_append, List.count_append, List.countP_append, a.errors, b.errors]
  debugs := by
    rw [levels_append, List.count_append, List.filterMap_append, List.length_append, a.debugs,
      b.debugs]
  warnings := by rw [levels_append, List.count_append, List.countP_append, a.warnings, b.warnings]
  others := by rw [levels_append, List.count_append, a.others, b.others]
  sends := by
    rw [levels_append, List.count_append, List.filterMap_append, List.length_append,
      List.countP_append, a.sends, b.sends]
    omega

theorem turn (h : Host σ) (t : Turn σ) : Booked h [t] (t.run h).steps := by
  have counts (level : Level) : (levels (t.run h).steps).count level =
      (if t.event.warns h.native ∧ level = .warn then 1 else 0) +
        (outcomeLevels (t.run h).accepted (t.run h).value).count level := by
    rw [t.levels_run h, List.count_append]
    cases t.event.warns h.native <;> cases level <;> simp
  have debugs : (levels (t.run h).steps).count .debug = (t.run h).accepted.length := by
    rw [counts]
    cases outcome : (t.run h).value with
    | ok _ => simp [outcomeLevels]
    | error cause => simp [outcomeLevels, t.accepted_run_error h outcome]
  have sends := t.length_sent h
  constructor
  · rw [counts, List.countP_singleton]
    cases (t.run h).value <;>
      simp [outcomeLevels, List.count_replicate, Except.isOk, Except.toBool]
  · exact debugs
  · rw [counts, List.countP_singleton]
    cases (t.run h).value <;> simp [outcomeLevels, List.count_replicate]
  · rw [counts]
    cases (t.run h).value <;> simp [outcomeLevels, List.count_replicate]
  · rw [debugs, List.countP_singleton]
    exact sends

theorem steps (h : Host σ) (ts : List (Turn σ)) : Booked h ts (stepsOf h ts) := by
  induction ts with
  | nil => exact nil h
  | cons t ts ih => exact (turn h t).append ih

end Booked

/-- The books of every session balance, and within each of its turns the warning comes first. -/
theorem session_booked (h : Host σ) (calls : List Call) (s : Standing σ) :
    let run := (session calls).run h s
    let ts := processed h calls s
    Booked h ts run.steps ∧ run.steps = stepsOf h ts ∧
    ∀ t ∈ ts, levels (t.run h).steps =
      (if t.event.warns h.native then [.warn] else []) ++
        outcomeLevels (t.run h).accepted (t.run h).value := by
  intro run ts
  have steps : run.steps = stepsOf h ts := steps_session h calls s
  refine ⟨?_, steps, fun t _ => t.levels_run h⟩
  rw [steps]
  exact Booked.steps h ts

end InputReplay

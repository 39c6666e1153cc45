import InputReplay.Proofs.Posted
import Mathlib.Data.List.Basic

/-! Lists of events posted one after another. A turn is an event with the standing it is posted at,
so a turn determines a run. Quiet posting takes every turn of its list; a gesture takes the turns
up to the first that fails. A session is any calls on one poster, and comes
down to the turns of the events that its calls process. -/

namespace InputReplay

variable {σ : Type}

structure Turn (σ : Type) where
  event : Event
  start : Standing σ

namespace Turn

def run (h : Host σ) (t : Turn σ) : Run σ (Except PostError Unit) :=
  t.event.post.run h t.start

def resolved (h : Host σ) (t : Turn σ) : Except ResolveError (Option Descriptor) :=
  t.event.resolved h.native (h.screen t.start.queries)

def descriptor? (h : Host σ) (t : Turn σ) : Option Descriptor :=
  (t.resolved h).toOption.join

theorem ending (h : Host σ) (t : Turn σ) :
    ∃ steps, Ending t.event.number (t.resolved h) (t.run h).value steps ∧
      (t.run h).steps = t.event.consultation h.native (h.screen t.start.queries) ++ steps := by
  obtain ⟨steps, ending, eq, -⟩ := t.event.post_ending h t.start
  exact ⟨steps, ending, eq⟩

theorem sent_run (h : Host σ) (t : Turn σ) : (t.run h).sent = (t.descriptor? h).toList := by
  obtain ⟨steps, ending, eq⟩ := t.ending h
  rw [Run.sent, eq, List.filterMap_append, Event.descriptors_consultation, ending.sent]
  rfl

theorem accepted_run_ok (h : Host σ) {t : Turn σ} (ok : (t.run h).value = .ok ()) :
    (t.run h).accepted = (t.descriptor? h).toList := by
  obtain ⟨steps, ending, eq⟩ := t.ending h
  rw [ok] at ending
  rw [Run.accepted, eq, List.filterMap_append, Event.accepted_consultation, ending.accepted_ok]
  rfl

theorem accepted_run_error (h : Host σ) {t : Turn σ} {cause : PostError}
    (error : (t.run h).value = .error cause) : (t.run h).accepted = [] := by
  obtain ⟨steps, ending, eq⟩ := t.ending h
  rw [error] at ending
  rw [Run.accepted, eq, List.filterMap_append, Event.accepted_consultation, ending.accepted_error]
  rfl

theorem resolved_of_ok (h : Host σ) {t : Turn σ} (ok : (t.run h).value = .ok ()) :
    t.resolved h = .ok (t.descriptor? h) := by
  obtain ⟨steps, ending, -⟩ := t.ending h
  rw [ok] at ending
  obtain ⟨d, resolved⟩ := ending.resolved_of_ok
  rw [descriptor?, resolved]
  rfl

theorem descriptor?_of_inject (h : Host σ) {t : Turn σ} {reason : Rejection}
    (rejected : (t.run h).value = .error (.inject reason)) : ∃ d, t.descriptor? h = some d := by
  obtain ⟨steps, ending, -⟩ := t.ending h
  rw [rejected] at ending
  obtain ⟨d, resolved⟩ := ending.resolved_of_inject
  exact ⟨d, by rw [descriptor?, resolved]; rfl⟩

theorem descriptor?_of_resolve (h : Host σ) {t : Turn σ} {cause : ResolveError}
    (dropped : (t.run h).value = .error (.resolve cause)) : t.descriptor? h = none := by
  obtain ⟨steps, ending, -⟩ := t.ending h
  rw [dropped] at ending
  rw [descriptor?, ending.resolved_of_resolve]
  rfl

end Turn

/-- The turns of a list of events, whatever becomes of each. -/
def turns (h : Host σ) : List Event → Standing σ → List (Turn σ)
  | [], _ => []
  | e :: events, s => ⟨e, s⟩ :: turns h events (e.post.run h s).standing

@[simp] theorem event_turns (h : Host σ) (events : List Event) (s : Standing σ) :
    (turns h events s).map Turn.event = events := by
  induction events generalizing s with
  | nil => rfl
  | cons e events ih => rw [turns, List.map_cons, ih]

/-- The turns through the first that fails. -/
def throughFailure (h : Host σ) : List (Turn σ) → List (Turn σ)
  | [] => []
  | t :: ts =>
    match (t.run h).value with
    | .ok _ => t :: throughFailure h ts
    | .error _ => [t]

theorem throughFailure_succeed (h : Host σ) {ts : List (Turn σ)}
    (succeed : ∀ t ∈ ts, (t.run h).value = .ok ()) : throughFailure h ts = ts := by
  induction ts with
  | nil => rfl
  | cons t ts ih =>
    obtain ⟨first, rest⟩ := List.forall_mem_cons.mp succeed
    simp only [throughFailure, first, ih rest]

theorem throughFailure_fails (h : Host σ) {before after : List (Turn σ)} {failing : Turn σ}
    {cause : PostError} (succeed : ∀ t ∈ before, (t.run h).value = .ok ())
    (fails : (failing.run h).value = .error cause) :
    throughFailure h (before ++ failing :: after) = before ++ [failing] := by
  induction before with
  | nil => simp only [List.nil_append, throughFailure, fails]
  | cons t before ih =>
    obtain ⟨first, rest⟩ := List.forall_mem_cons.mp succeed
    simp only [List.cons_append, throughFailure, first, ih rest]

theorem throughFailure_begins (h : Host σ) (ts : List (Turn σ)) : throughFailure h ts <+: ts := by
  induction ts with
  | nil => exact List.nil_prefix
  | cons t ts ih =>
    unfold throughFailure
    split
    · exact (List.prefix_cons_inj t).mpr ih
    · exact (List.prefix_cons_inj t).mpr List.nil_prefix

def stepsOf (h : Host σ) (ts : List (Turn σ)) : List Step :=
  ts.flatMap fun t => (t.run h).steps

theorem stepsOf_append (h : Host σ) (first second : List (Turn σ)) :
    stepsOf h (first ++ second) = stepsOf h first ++ stepsOf h second :=
  List.flatMap_append

theorem stepsOf_singleton (h : Host σ) (t : Turn σ) : stepsOf h [t] = (t.run h).steps :=
  List.flatMap_singleton ..

theorem sent_stepsOf (h : Host σ) (ts : List (Turn σ)) :
    (stepsOf h ts).filterMap Step.descriptor? = ts.filterMap (Turn.descriptor? h) := by
  rw [stepsOf, List.filterMap_flatMap, List.filterMap_eq_flatMap_toList]
  exact congrArg (ts.flatMap ·) (funext (Turn.sent_run h))

theorem accepted_stepsOf (h : Host σ) {ts : List (Turn σ)}
    (succeed : ∀ t ∈ ts, (t.run h).value = .ok ()) :
    (stepsOf h ts).filterMap Step.accepted? = ts.filterMap (Turn.descriptor? h) := by
  rw [stepsOf, List.filterMap_flatMap, List.filterMap_eq_flatMap_toList]
  exact List.flatMap_congr fun t member => Turn.accepted_run_ok h (succeed t member)

theorem accepted_stepsOf_fails (h : Host σ) {before : List (Turn σ)} {failing : Turn σ}
    {cause : PostError} (succeed : ∀ t ∈ before, (t.run h).value = .ok ())
    (fails : (failing.run h).value = .error cause) :
    (stepsOf h (before ++ [failing])).filterMap Step.accepted? =
      before.filterMap (Turn.descriptor? h) := by
  have rejected : (failing.run h).steps.filterMap Step.accepted? = [] :=
    Turn.accepted_run_error h fails
  rw [stepsOf_append, List.filterMap_append, stepsOf_singleton, accepted_stepsOf h succeed,
    rejected, List.append_nil]

namespace Event

theorem steps_forM_postQuietly (h : Host σ) (events : List Event) (s : Standing σ) :
    ((events.forM postQuietly).run h s).steps = stepsOf h (turns h events s) := by
  induction events generalizing s with
  | nil => rfl
  | cons e events ih =>
    change ((e.postQuietly >>= fun _ => events.forM postQuietly).run h s).steps = _
    rw [Dialogue.run_bind, run_postQuietly, Run.steps_followedBy, ih]
    rfl

theorem run_postFrom (h : Host σ) (events : List Event) (index : Nat) (s : Standing σ) :
    ((∀ t ∈ turns h events s, (t.run h).value = .ok ()) ∧
      ((postFrom index events).run h s).value = .ok () ∧
      ((postFrom index events).run h s).steps = stepsOf h (turns h events s)) ∨
    ∃ before failing after cause,
      turns h events s = before ++ failing :: after ∧
      (∀ t ∈ before, (t.run h).value = .ok ()) ∧
      (failing.run h).value = .error cause ∧
      (postFrom index events).run h s =
        ⟨.error (index + before.length, cause), (failing.run h).standing,
          stepsOf h (before ++ [failing])⟩ := by
  -- the index counts the turns already taken, so it moves along with the standing
  induction events generalizing index s with
  | nil => exact .inl ⟨by simp [turns], rfl, rfl⟩
  | cons e events ih =>
    rw [turns, postFrom, Dialogue.run_bind]
    cases outcome : (e.post.run h s).value with
    | error cause =>
      refine .inr ⟨[], ⟨e, s⟩, _, cause, rfl, by simp, outcome, ?_⟩
      simp [Dialogue.run, Run.followedBy, stepsOf, Turn.run]
    | ok _ =>
      rcases ih (index + 1) (e.post.run h s).standing with
        ⟨succeed, value, steps⟩ | ⟨before, failing, after, cause, split, succeed, fails, run⟩
      · refine .inl ⟨List.forall_mem_cons.mpr ⟨outcome, succeed⟩, value, ?_⟩
        rw [Run.steps_followedBy, steps]
        rfl
      · refine .inr ⟨⟨e, s⟩ :: before, failing, after, cause, ?_,
          List.forall_mem_cons.mpr ⟨outcome, succeed⟩, fails, ?_⟩
        · rw [split, List.cons_append]
        · simp only [run, Run.followedBy]
          rw [List.length_cons, Nat.add_right_comm, Nat.add_assoc]
          rfl

theorem steps_postAll (h : Host σ) (events : List Event) (s : Standing σ) :
    ((postAll events).run h s).steps = stepsOf h (throughFailure h (turns h events s)) := by
  rcases run_postFrom h events 0 s with
    ⟨succeed, -, steps⟩ | ⟨before, failing, after, cause, split, succeed, fails, run⟩
  · rw [throughFailure_succeed h succeed]
    exact steps
  · rw [split, throughFailure_fails h succeed fails, postAll, run]

theorem throughFailure_of_postAll_ok (h : Host σ) {events : List Event} {s : Standing σ}
    (completes : ((postAll events).run h s).value = .ok ()) :
    throughFailure h (turns h events s) = turns h events s := by
  rcases run_postFrom h events 0 s with
    ⟨succeed, -, -⟩ | ⟨before, failing, after, cause, split, succeed, fails, run⟩
  · exact throughFailure_succeed h succeed
  · rw [postAll, run] at completes
    cases completes

end Event

inductive Call
  | post (event : Event)
  | postQuietly (event : Event)
  | postAll (events : List Event)

inductive Reply
  | post (result : Except PostError Unit)
  | postQuietly
  | postAll (result : Except (Nat × PostError) Unit)

namespace Call

def dialogue : Call → Dialogue Reply
  | post e => return .post (← e.post)
  | postQuietly e => do
    e.postQuietly
    return .postQuietly
  | postAll events => return .postAll (← Event.postAll events)

/-- The turns of the events a call processes: of a gesture, those through the first that fails. -/
def processed (h : Host σ) (s : Standing σ) : Call → List (Turn σ)
  | post e | postQuietly e => [⟨e, s⟩]
  | postAll events => throughFailure h (turns h events s)

theorem steps_dialogue (h : Host σ) (call : Call) (s : Standing σ) :
    (call.dialogue.run h s).steps = stepsOf h (call.processed h s) := by
  cases call with
  | post e =>
    rw [dialogue, Dialogue.run_return, processed, stepsOf_singleton, Turn.run]
  | postQuietly e =>
    rw [dialogue, Dialogue.run_return, Event.run_postQuietly, processed, stepsOf_singleton,
      Turn.run]
  | postAll events =>
    rw [dialogue, Dialogue.run_return, Event.steps_postAll, processed]

end Call

def session (calls : List Call) : Dialogue (List Reply) :=
  calls.mapM Call.dialogue

def processed (h : Host σ) : List Call → Standing σ → List (Turn σ)
  | [], _ => []
  | call :: calls, s =>
    call.processed h s ++ processed h calls (call.dialogue.run h s).standing

theorem steps_session (h : Host σ) (calls : List Call) (s : Standing σ) :
    ((session calls).run h s).steps = stepsOf h (processed h calls s) := by
  unfold session
  induction calls generalizing s with
  | nil => rfl
  | cons call calls ih =>
    simp only [Dialogue.run_mapM_cons, ih, Call.steps_dialogue, processed, stepsOf_append]

end InputReplay

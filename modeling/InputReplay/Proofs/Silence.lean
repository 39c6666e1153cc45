import InputReplay.Proofs.Consultations
import InputReplay.Proofs.Submissions

/-! Events that do nothing. Notifications and unrecognized events can be left out of a gesture: but
for the warnings about unrecognized ones the run stays the same, and a failure moves up by the
events left out before it. -/

namespace InputReplay

variable {σ : Type}

/-- Payloads that no descriptor and no failure comes from. -/
def Payload.isSilent : Payload → Bool
  | hookEnabled | hookDisabled | keyTyped _ | mouseClicked _ | unrecognized _ => true
  | keyPressed _ | keyReleased _ | mousePressed _ | mouseReleased _ | mouseMoved _
  | mouseDragged _ | mouseWheel _ => false

def Notice.isUnrecognized : Notice → Bool
  | unrecognized _ => true
  | _ => false

def Step.isUnrecognized : Step → Bool
  | noted n => n.isUnrecognized
  | _ => false

/-- Some steps without the warnings about unrecognized events. -/
def recognized (steps : List Step) : List Step := steps.filter fun step => !step.isUnrecognized

theorem recognized_append (first second : List Step) :
    recognized (first ++ second) = recognized first ++ recognized second :=
  List.filter_append ..

section Recognized

variable (steps : List Step)

theorem notices_recognized :
    (recognized steps).filterMap Step.notice? =
      (steps.filterMap Step.notice?).filter fun n => !n.isUnrecognized := by
  rw [recognized, List.filterMap_filter, List.filter_filterMap]
  refine List.filterMap_congr fun step _ => ?_
  cases step with
  | noted n => cases n <;> rfl
  | _ => rfl

theorem descriptors_recognized :
    (recognized steps).filterMap Step.descriptor? = steps.filterMap Step.descriptor? := by
  rw [recognized, List.filterMap_filter]
  refine List.filterMap_congr fun step _ => ?_
  cases step with
  | noted n => cases n <;> rfl
  | _ => rfl

theorem deviceCalls_recognized : deviceCalls (recognized steps) = deviceCalls steps := by
  rw [recognized, deviceCalls, List.filter_filter]
  refine List.filter_congr fun step _ => ?_
  cases step <;> rfl

theorem consultations_recognized : consultations (recognized steps) = consultations steps := by
  rw [recognized, consultations, List.filter_filter]
  refine List.filter_congr fun step _ => ?_
  cases step <;> rfl

end Recognized

theorem Ending.recognized_eq_self {number : UInt32}
    {resolved : Except ResolveError (Option Descriptor)} {value : Except PostError Unit}
    {steps : List Step} (ending : Ending number resolved value steps) :
    recognized steps = steps := by
  cases ending <;> rfl

namespace Event

def isSilent (e : Event) : Bool := e.payload.isSilent

def audible (events : List Event) : List Event := events.filter fun e => !e.isSilent

theorem audible_cons_silent {e : Event} (silent : e.isSilent) (events : List Event) :
    audible (e :: events) = audible events :=
  List.filter_cons_of_neg (by simp [silent])

theorem audible_cons_heard {e : Event} (heard : e.isSilent = false) (events : List Event) :
    audible (e :: events) = e :: audible events :=
  List.filter_cons_of_pos (by simp [heard])

theorem length_audible (events : List Event) :
    (audible events).length + events.countP isSilent = events.length := by
  have total := List.length_eq_countP_add_countP isSilent (l := events)
  simp only [Bool.not_eq_true, Bool.decide_eq_false] at total
  rw [audible, ← List.countP_eq_length_filter, Nat.add_comm, total]

theorem run_post_of_isSilent (h : Host σ) {e : Event} (silent : e.isSilent) (s : Standing σ) :
    ∃ steps, e.post.run h s = ⟨.ok (), s, steps⟩ ∧ recognized steps = [] := by
  obtain ⟨payload, mask⟩ := e
  cases payload with
  | hookEnabled | hookDisabled | keyTyped key | mouseClicked point | unrecognized number =>
    exact ⟨_, rfl, rfl⟩
  | _ => cases silent

theorem recognized_post (h : Host σ) {e : Event} (heard : e.isSilent = false) (s : Standing σ) :
    recognized (e.post.run h s).steps = (e.post.run h s).steps := by
  obtain ⟨steps, ending, eq, -⟩ := e.post_ending h s
  have resolving : recognized (e.consultation h.native (h.screen s.queries)) =
      e.consultation h.native (h.screen s.queries) := by
    obtain ⟨payload, mask⟩ := e
    cases payload with
    | keyPressed key | keyReleased key =>
      simp only [consultation, Payload.gesture]
      split <;> rfl
    | mousePressed _ | mouseReleased _ | mouseMoved _ | mouseDragged _ | mouseWheel _ => rfl
    | _ => cases heard
  rw [eq, recognized_append, resolving, ending.recognized_eq_self]

/-- A gesture whose first event has the index `index` ends as its audible events do when the first of
these has the index `heard`: a failure is at the same event and for the same cause. -/
inductive EndsAlike (events : List Event) (index heard : Nat) :
    (whole rest : Except (Nat × PostError) Unit) → Prop
  | completed : EndsAlike events index heard (.ok ()) (.ok ())
  | failed (n : Nat) (within : n < events.length) (i j : Nat) (cause : PostError)
    (fails : i = index + n) (moves : j = heard + (audible (events.take n)).length) :
    EndsAlike events index heard (.error (i, cause)) (.error (j, cause))

namespace EndsAlike

variable {e : Event} {events : List Event} {index heard : Nat}
  {whole rest : Except (Nat × PostError) Unit}

theorem cons_silent (silent : e.isSilent) (alike : EndsAlike events (index + 1) heard whole rest) :
    EndsAlike (e :: events) index heard whole rest := by
  cases alike with
  | completed => exact .completed
  | failed n within i j cause fails moves =>
    refine .failed (n + 1) (by simpa using within) i j cause (by omega) ?_
    rw [List.take_succ_cons, audible_cons_silent silent, moves]

theorem cons_heard (audible : e.isSilent = false)
    (alike : EndsAlike events (index + 1) (heard + 1) whole rest) :
    EndsAlike (e :: events) index heard whole rest := by
  cases alike with
  | completed => exact .completed
  | failed n within i j cause fails moves =>
    refine .failed (n + 1) (by simpa using within) i j cause (by omega) ?_
    rw [List.take_succ_cons, audible_cons_heard audible, moves, List.length_cons]
    omega

theorem rest_eq (alike : EndsAlike events 0 0 whole rest) :
    rest = whole.mapError
      fun failure => (failure.1 - (events.take failure.1).countP isSilent, failure.2) := by
  cases alike with
  | completed => rfl
  | failed n within i j cause fails moves =>
    have total := length_audible (events.take i)
    rw [List.length_take] at total
    obtain rfl : n = i := by omega
    have index : j = n - (events.take n).countP isSilent := by omega
    rw [index]
    rfl

end EndsAlike

theorem postFrom_audible (h : Host σ) (events : List Event) (index heard : Nat) (s : Standing σ) :
    let whole := (postFrom index events).run h s
    let rest := (postFrom heard (audible events)).run h s
    EndsAlike events index heard whole.value rest.value ∧
      rest.standing = whole.standing ∧ rest.steps = recognized whole.steps := by
  -- the index of the whole gesture moves on with every event, the other with the audible ones
  induction events generalizing index heard s with
  | nil => exact ⟨.completed, rfl, rfl⟩
  | cons e events ih =>
    cases audible : e.isSilent with
    | true =>
      obtain ⟨steps, run, warnings⟩ := run_post_of_isSilent h audible s
      obtain ⟨value, standing, same⟩ := ih (index + 1) heard s
      rw [audible_cons_silent audible, postFrom, Dialogue.run_bind, run]
      refine ⟨value.cons_silent audible, standing, ?_⟩
      rw [Run.steps_followedBy, recognized_append, warnings, List.nil_append]
      exact same
    | false =>
      have kept := recognized_post h audible s
      rw [audible_cons_heard audible, postFrom, postFrom, Dialogue.run_bind, Dialogue.run_bind]
      cases outcome : (e.post.run h s).value with
      | error cause =>
        refine ⟨.failed 0 (by simp) _ _ cause rfl rfl, rfl, ?_⟩
        rw [Run.steps_followedBy, Run.steps_followedBy, recognized_append, kept]
        rfl
      | ok _ =>
        obtain ⟨value, standing, same⟩ := ih (index + 1) (heard + 1) (e.post.run h s).standing
        refine ⟨value.cons_heard audible, standing, ?_⟩
        rw [Run.steps_followedBy, Run.steps_followedBy, recognized_append, kept, ← same]

/-- Notifications and unrecognized events leave no trace in a gesture but the warnings about the
latter. Without them the device, the key mapping and the screen are asked the same and answer the
same, and the gesture comes to the same end; the index of a failing event is less by the number of
events left out before it. -/
theorem postAll_ignores_silent_events (h : Host σ) (events : List Event) (s : Standing σ) :
    let whole := (postAll events).run h s
    let rest := (postAll (events.filter fun e => !e.isSilent)).run h s
    rest.value = whole.value.mapError
      (fun failure => (failure.1 - (events.take failure.1).countP isSilent, failure.2)) ∧
    rest.standing = whole.standing ∧
    rest.sent = whole.sent ∧
    deviceCalls rest.steps = deviceCalls whole.steps ∧
    consultations rest.steps = consultations whole.steps ∧
    rest.notices = whole.notices.filter fun n => !n.isUnrecognized := by
  intro whole rest
  obtain ⟨alike, standing, steps⟩ := postFrom_audible h events 0 0 s
  have same : rest.steps = recognized whole.steps := steps
  refine ⟨alike.rest_eq, standing, ?_, ?_, ?_, ?_⟩
  · rw [Run.sent, same, descriptors_recognized, Run.sent]
  · rw [same, deviceCalls_recognized]
  · rw [same, consultations_recognized]
  · rw [Run.notices, same, notices_recognized, Run.notices]

/-- The rejected key is at index 2, and at index 0 without the two events before it. -/
example :
    let h : Host Nat := ⟨id, Extent.sequence [⟨1920, 1080⟩], Script.device ⟨[(0, 5)]⟩⟩
    let gesture : List Event := [⟨.unrecognized 99, .empty⟩, ⟨.hookEnabled, .empty⟩,
      .keyPressed 4 .empty, ⟨.hookDisabled, .empty⟩]
    ((postAll gesture).run h ⟨0, 0⟩).value = .error (2, .inject ⟨5⟩) ∧
    ((postAll (gesture.filter fun e => !e.isSilent)).run h ⟨0, 0⟩).value =
      .error (0, .inject ⟨5⟩) := by
  decide

end Event
end InputReplay

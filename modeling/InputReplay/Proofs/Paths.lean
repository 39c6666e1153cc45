import InputReplay.Proofs.Books
import InputReplay.Proofs.Submissions

/-! The three paths of an event agree. Resolving it, resolving or dropping it, and posting it find the
same descriptor or the same cause of failure, and up to the first call on the device they leave the
same records in the log. -/

namespace InputReplay

variable {σ : Type}

def Notice.record (n : Notice) : Level × String × List (String × String) :=
  (n.level, n.message, n.fields)

def records (steps : List Step) : List (Level × String × List (String × String)) :=
  (steps.filterMap Step.notice?).map Notice.record

theorem records_append (first second : List Step) :
    records (first ++ second) = records first ++ records second := by
  rw [records, List.filterMap_append, List.map_append]
  rfl

/-- The steps before the first call on the device. -/
def beforeDevice (steps : List Step) : List Step :=
  steps.takeWhile fun step => !step.isDeviceCall

/-- The records of the failure to resolve an event: one that gives its cause, or none. -/
def lossRecords (number : UInt32) :
    Except ResolveError (Option Descriptor) → List (Level × String × List (String × String))
  | .ok _ => []
  | .error cause =>
    [(.error, "dropping event, descriptor construction failed: " ++ cause.message,
      [("kind", toString number.toNat)])]

namespace Ending

variable {number : UInt32} {resolved : Except ResolveError (Option Descriptor)}
  {value : Except PostError Unit} {steps : List Step}

theorem resolve_iff (ending : Ending number resolved value steps) (cause : ResolveError) :
    value = .error (.resolve cause) ↔ resolved = .error cause := by
  cases ending <;> simp

theorem records_beforeDevice (ending : Ending number resolved value steps) :
    records (beforeDevice steps) = lossRecords number resolved := by
  cases ending <;> rfl

end Ending

namespace Event

variable (native : UInt16 → UInt16) (screen : Extent) (e : Event)

theorem records_loss (resolved : Except ResolveError (Option Descriptor)) :
    records (e.loss resolved) = lossRecords e.number resolved := by
  cases resolved <;> rfl

theorem beforeDevice_consultation (steps : List Step) :
    beforeDevice (e.consultation native screen ++ steps) =
      e.consultation native screen ++ beforeDevice steps := by
  have free := List.filter_eq_nil_iff.mp (e.deviceCalls_consultation native screen)
  exact List.takeWhile_append_of_pos fun step member => by simpa using free step member

theorem error_mem_levels_iff (resolved : Except ResolveError (Option Descriptor)) :
    .error ∈ levels (e.consultation native screen ++ e.loss resolved) ↔
      ∃ cause, resolved = .error cause := by
  have warning : .error ∉ levels (e.consultation native screen) := by
    rw [levels_consultation]
    split <;> simp
  have loss : .error ∈ levels (e.loss resolved) ↔ ∃ cause, resolved = .error cause := by
    cases resolved with
    | ok d => simp [Event.loss, levels]
    | error cause => simp [Event.loss, levels, Step.notice?, Notice.level]
  rw [levels_append, List.mem_append, loss]
  exact or_iff_right warning

theorem dropped_mem_notices_iff (resolved : Except ResolveError (Option Descriptor))
    (cause : ResolveError) :
    .dropped .resolution e.number cause ∈
        (e.consultation native screen ++ e.loss resolved).filterMap Step.notice? ↔
      resolved = .error cause := by
  have resolving : .dropped .resolution e.number cause ∉
      (e.consultation native screen).filterMap Step.notice? := by
    unfold consultation
    split
    case h_3 => split <;> simp [Step.notice?]
    all_goals simp [Step.notice?]
  have loss : .dropped .resolution e.number cause ∈ (e.loss resolved).filterMap Step.notice? ↔
      resolved = .error cause := by
    cases resolved with
    | ok d => simp [Event.loss]
    | error other => simp [Event.loss, Step.notice?, eq_comm]
  rw [List.filterMap_append, List.mem_append, loss]
  exact or_iff_right resolving

/-- On any host and from any standing, the three paths of an event agree. They come to the same
descriptor, which a post hands to the device and nothing else; where there is none, a post hands over
nothing. Exactly if resolving fails, a post fails for the same cause and dropping is noted as an
error. Before a post calls the device it leaves the records of dropping, which are those of resolving
and, exactly after a failure, one error. -/
theorem paths_agree (h : Host σ) (e : Event) (s : Standing σ) :
    let tried := e.resolve.run h s
    let kept := e.resolveOrDrop.run h s
    let posted := e.post.run h s
    (∀ d, (kept.value = some d ↔ tried.value = .ok (some d)) ∧
      (tried.value = .ok (some d) ↔ posted.sent = [d])) ∧
    (kept.value = none ↔ posted.sent = []) ∧
    (∀ cause, (posted.value = .error (.resolve cause) ↔ tried.value = .error cause) ∧
      (tried.value = .error cause ↔ .dropped .resolution e.number cause ∈ kept.notices)) ∧
    ((∃ cause, tried.value = .error cause) ↔ .error ∈ levels kept.steps) ∧
    records (beforeDevice posted.steps) = records kept.steps ∧
    records kept.steps = records tried.steps ++ lossRecords e.number tried.value := by
  intro tried kept posted
  obtain ⟨steps, ending, posting, -⟩ := e.post_ending h s
  have resolving : tried = _ := e.run_resolve h s
  have dropping : kept = _ := e.run_resolveOrDrop h s
  have left : kept.value = tried.value.toOption.join := by rw [dropping, resolving]
  have sent : posted.sent = kept.value.toList := by
    rw [Run.sent, show posted.steps = _ from posting, List.filterMap_append,
      descriptors_consultation, ending.sent, dropping]
    rfl
  have recorded : records kept.steps =
      records tried.steps ++ lossRecords e.number tried.value := by
    rw [dropping, resolving, records_append, records_loss]
  refine ⟨fun d => ⟨?_, ?_⟩, ?_, fun cause => ⟨?_, ?_⟩, ?_, ?_, recorded⟩
  · rw [left, toOption_join_eq_some_iff]
  · rw [sent, left, ← toOption_join_eq_some_iff]
    cases tried.value.toOption.join <;> simp
  · rw [sent]
    cases kept.value <;> simp
  · rw [resolving]
    exact ending.resolve_iff cause
  · rw [Run.notices, dropping, resolving]
    exact (e.dropped_mem_notices_iff _ _ _ cause).symm
  · rw [dropping, resolving]
    exact (e.error_mem_levels_iff _ _ _).symm
  · rw [show posted.steps = _ from posting, beforeDevice_consultation, records_append,
      ending.records_beforeDevice, recorded, resolving]

end Event
end InputReplay

import InputReplay.Posting
import InputReplay.Proofs.Resolved

/-! What posting one event comes to. A post resolves its event and then ends in one of four ways;
everything else about it follows from which. -/

namespace InputReplay

variable {σ : Type}

theorem Descriptor.run_inject (h : Host σ) (d : Descriptor) (s : Standing σ) :
    d.inject.run h s =
      let answer := h.device.send d s.device
      if answer.1 = 0 then
        let reason := h.device.lastError answer.2
        ⟨.error ⟨reason.1⟩, ⟨s.queries, reason.2⟩,
          [.sent d answer.1, .lastError reason.1, .noted (.rejected d reason.1)]⟩
      else ⟨.ok (), ⟨s.queries, answer.2⟩, [.sent d answer.1, .noted (.injected d)]⟩ := by
  by_cases refused : (h.device.send d s.device).1 = 0
  all_goals
    simp only [inject, Dialogue.run_bind, Dialogue.run_submit, refused, ↓reduceIte]
    rfl

/-- The ways a post can end once its event is resolved, each with the value of the post and the
steps it still takes. -/
inductive Ending (number : UInt32) :
    Except ResolveError (Option Descriptor) → Except PostError Unit → List Step → Prop
  | dropped (cause : ResolveError) :
    Ending number (.error cause) (.error (.resolve cause))
      [.noted (.dropped .posting number cause)]
  | silent : Ending number (.ok none) (.ok ()) []
  | rejected (d : Descriptor) (code : UInt32) :
    Ending number (.ok (some d)) (.error (.inject ⟨code⟩))
      [.sent d 0, .lastError code, .noted (.rejected d code)]
  | injected (d : Descriptor) (count : UInt32) (accepted : count ≠ 0) :
    Ending number (.ok (some d)) (.ok ()) [.sent d count, .noted (.injected d)]

namespace Ending

variable {number : UInt32} {resolved : Except ResolveError (Option Descriptor)}
  {value : Except PostError Unit} {steps : List Step}

theorem sent (ending : Ending number resolved value steps) :
    steps.filterMap Step.descriptor? = resolved.toOption.join.toList := by
  cases ending <;> rfl

theorem accepted_ok (ending : Ending number resolved (.ok ()) steps) :
    steps.filterMap Step.accepted? = resolved.toOption.join.toList := by
  cases ending with
  | silent => rfl
  | injected d count accepted =>
    simp [Step.accepted?, accepted, Except.toOption]

theorem accepted_error {cause : PostError} (ending : Ending number resolved (.error cause) steps) :
    steps.filterMap Step.accepted? = [] := by
  cases ending <;> rfl

theorem resolved_of_inject {reason : Rejection}
    (ending : Ending number resolved (.error (.inject reason)) steps) :
    ∃ d, resolved = .ok (some d) := by
  cases ending with
  | rejected d code => exact ⟨d, rfl⟩

theorem resolved_of_resolve {cause : ResolveError}
    (ending : Ending number resolved (.error (.resolve cause)) steps) :
    resolved = .error cause := by
  cases ending with
  | dropped => rfl

theorem resolved_of_ok (ending : Ending number resolved (.ok ()) steps) :
    ∃ d, resolved = .ok d := by
  cases ending with
  | silent => exact ⟨_, rfl⟩
  | injected d count accepted => exact ⟨_, rfl⟩

end Ending

namespace Event

theorem post_ending (h : Host σ) (e : Event) (s : Standing σ) :
    ∃ steps,
      Ending e.number (e.resolved h.native (h.screen s.queries)) (e.post.run h s).value steps ∧
      (e.post.run h s).steps = e.consultation h.native (h.screen s.queries) ++ steps ∧
      (e.post.run h s).standing.queries = s.queries + e.queries := by
  rw [post, Dialogue.run_bind, run_resolve]
  -- one case for each arm of `post`, and two for the answer of the device
  rcases e.resolved h.native (h.screen s.queries) with cause | _ | d
  · exact ⟨_, .dropped cause, rfl, rfl⟩
  · exact ⟨_, .silent, rfl, rfl⟩
  · simp only [Dialogue.run_bind, Descriptor.run_inject]
    by_cases refused : (h.device.send d s.device).1 = 0
    · simp only [refused, ↓reduceIte]
      exact ⟨_, .rejected d _, rfl, rfl⟩
    · simp only [refused, ↓reduceIte]
      exact ⟨_, .injected d _ refused, rfl, rfl⟩

theorem run_postQuietly (h : Host σ) (e : Event) (s : Standing σ) :
    e.postQuietly.run h s = ⟨(), (e.post.run h s).standing, (e.post.run h s).steps⟩ := by
  rw [postQuietly, Dialogue.run_return]

end Event
end InputReplay

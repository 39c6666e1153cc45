import InputReplay.Proofs.Turns

/-! What reaches the device when a list of events is posted. Which descriptors the events have is
settled by the key mapping and the screen sizes alone. Quiet posting hands over all of them whatever
the device answers; a gesture hands over those of the events through the first that fails. -/

namespace InputReplay

variable {σ τ : Type}

/-- The descriptors of events resolved in order, the first pointer event against the screen size
numbered `query`. An event that fails to resolve, or resolves to nothing, has none. -/
def descriptors (native : UInt16 → UInt16) (screen : Nat → Extent) :
    List Event → (query : Nat) → List Descriptor
  | [], _ => []
  | e :: events, query =>
    (e.resolved native (screen query)).toOption.join.toList ++
      descriptors native screen events (query + e.queries)

theorem descriptors_turns (h : Host σ) (events : List Event) (s : Standing σ) :
    (turns h events s).filterMap (Turn.descriptor? h) =
      descriptors h.native h.screen events s.queries := by
  induction events generalizing s with
  | nil => rfl
  | cons e events ih =>
    obtain ⟨-, -, -, queries⟩ := e.post_ending h s
    rw [turns, descriptors, ← queries, ← ih, List.filterMap_cons]
    cases found : Turn.descriptor? h ⟨e, s⟩ with
    | none =>
      have resolved : (e.resolved h.native (h.screen s.queries)).toOption.join = none := found
      rw [resolved]
      rfl
    | some d =>
      have resolved : (e.resolved h.native (h.screen s.queries)).toOption.join = some d := found
      rw [resolved]
      rfl

theorem turns_take (h : Host σ) (events : List Event) (n : Nat) (s : Standing σ) :
    turns h (events.take n) s = (turns h events s).take n := by
  induction events generalizing n s with
  | nil => rw [List.take_nil, turns, List.take_nil]
  | cons e events ih =>
    cases n with
    | zero => rfl
    | succ n => rw [List.take_succ_cons, turns, turns, List.take_succ_cons, ih]

theorem descriptors_before (h : Host σ) {events : List Event} {s : Standing σ}
    {before after : List (Turn σ)} (split : turns h events s = before ++ after) :
    before.filterMap (Turn.descriptor? h) =
      descriptors h.native h.screen (events.take before.length) s.queries := by
  rw [← descriptors_turns, turns_take, split, List.take_left]

namespace Event

theorem sent_postQuietly (h : Host σ) (events : List Event) (s : Standing σ) :
    ((events.forM postQuietly).run h s).sent =
      descriptors h.native h.screen events s.queries := by
  rw [Run.sent, steps_forM_postQuietly, sent_stepsOf, descriptors_turns]

theorem sent_postAll_begins (h : Host σ) (events : List Event) (s : Standing σ) :
    ((postAll events).run h s).sent <+: descriptors h.native h.screen events s.queries := by
  rw [Run.sent, steps_postAll, sent_stepsOf, ← descriptors_turns]
  exact (throughFailure_begins h _).filterMap _

theorem sent_postAll_ok (h : Host σ) {events : List Event} {s : Standing σ}
    (completes : ((postAll events).run h s).value = .ok ()) :
    ((postAll events).run h s).sent = descriptors h.native h.screen events s.queries := by
  rw [Run.sent, steps_postAll, throughFailure_of_postAll_ok h completes, sent_stepsOf,
    descriptors_turns]

theorem accepted_postAll (h : Host σ) (events : List Event) (s : Standing σ) :
    ∃ before after, turns h events s = before ++ after ∧
      (∀ t ∈ before, (t.run h).value = .ok ()) ∧
      ((postAll events).run h s).accepted = before.filterMap (Turn.descriptor? h) := by
  rcases run_postFrom h events 0 s with
    ⟨succeed, -, steps⟩ | ⟨before, failing, after, cause, split, succeed, fails, run⟩
  · refine ⟨turns h events s, [], (List.append_nil _).symm, succeed, ?_⟩
    rw [Run.accepted, ← accepted_stepsOf h succeed, postAll, steps]
  · refine ⟨before, failing :: after, split, succeed, ?_⟩
    rw [Run.accepted, postAll, run, accepted_stepsOf_fails h succeed fails]

/-- A gesture delivers exactly the descriptors of its events through the first that fails. If none
fails, every descriptor is submitted once and accepted. If event `i` fails, the events before it
succeed when posted one by one, it fails with the same cause when posted next, and the run is those
posts and nothing more. -/
theorem postAll_stops_at_first_failure (h : Host σ) (events : List Event) (s : Standing σ) :
    let run := (postAll events).run h s
    match run.value with
    | .ok () =>
      (∀ t ∈ turns h events s, (t.run h).value = .ok ()) ∧
      run.sent = descriptors h.native h.screen events s.queries ∧
      run.accepted = run.sent
    | .error (i, cause) =>
      i < events.length ∧
      ∃ before failing after,
        turns h events s = before ++ failing :: after ∧ before.length = i ∧
        events[i]? = some failing.event ∧
        (∀ t ∈ before, (t.run h).value = .ok ()) ∧
        (failing.run h).value = .error cause ∧
        run.steps = stepsOf h (before ++ [failing]) ∧
        run.standing = (failing.run h).standing ∧
        run.accepted = descriptors h.native h.screen (events.take i) s.queries ∧
        match cause with
        | .inject _ => ∃ d, failing.descriptor? h = some d ∧
            run.sent = descriptors h.native h.screen (events.take i) s.queries ++ [d]
        | .resolve _ => failing.descriptor? h = none ∧
            run.sent = descriptors h.native h.screen (events.take i) s.queries := by
  intro run
  rcases run_postFrom h events 0 s with
    ⟨succeed, value, steps⟩ | ⟨before, failing, after, cause, split, succeed, fails, stopped⟩
  · have completes : run.value = .ok () := value
    have sent : run.sent = descriptors h.native h.screen events s.queries :=
      sent_postAll_ok h completes
    have accepted : run.accepted = descriptors h.native h.screen events s.queries := by
      rw [Run.accepted, show run.steps = _ from steps, accepted_stepsOf h succeed,
        descriptors_turns]
    rw [completes]
    exact ⟨succeed, sent, accepted.trans sent.symm⟩
  · have stops : run = ⟨.error (before.length, cause), (failing.run h).standing,
        stepsOf h (before ++ [failing])⟩ := by
      rw [← Nat.zero_add before.length]
      exact stopped
    have within : before.length < events.length := by
      have total := congrArg List.length split
      rw [← event_turns h events s, List.length_map, total, List.length_append, List.length_cons]
      omega
    have event : events[before.length]? = some failing.event := by
      rw [← event_turns h events s, split]
      simp
    have sent : run.sent = descriptors h.native h.screen (events.take before.length) s.queries ++
        (failing.descriptor? h).toList := by
      rw [stops, Run.sent, sent_stepsOf, List.filterMap_append, descriptors_before h split,
        List.filterMap_eq_flatMap_toList _ [failing], List.flatMap_singleton]
    have accepted : run.accepted =
        descriptors h.native h.screen (events.take before.length) s.queries := by
      rw [stops, Run.accepted, accepted_stepsOf_fails h succeed fails, descriptors_before h split]
    rw [stops] at sent accepted ⊢
    refine ⟨within, before, failing, after, split, rfl, event, succeed, fails, rfl, rfl, accepted, ?_⟩
    cases cause with
    | inject reason =>
      obtain ⟨d, found⟩ := Turn.descriptor?_of_inject h fails
      exact ⟨d, found, by rw [sent, found]; rfl⟩
    | resolve cause =>
      have missing := Turn.descriptor?_of_resolve h fails
      exact ⟨missing, by rw [sent, missing]; exact List.append_nil _⟩

/-- What quiet posting submits does not depend on the device, and a gesture submits the beginning of
it, or all of it if it completes. -/
theorem sent_independent_of_device (native : UInt16 → UInt16) (screen : Nat → Extent)
    (P : Device σ) (Q : Device τ) (p : σ) (q : τ) (query : Nat) (events : List Event) :
    let overP := (events.forM postQuietly).run ⟨native, screen, P⟩ ⟨query, p⟩
    let overQ := (events.forM postQuietly).run ⟨native, screen, Q⟩ ⟨query, q⟩
    let gesture := (postAll events).run ⟨native, screen, P⟩ ⟨query, p⟩
    overP.sent = overQ.sent ∧
    overP.sent = descriptors native screen events query ∧
    overQ.sent = descriptors native screen events query ∧
    gesture.sent <+: overP.sent ∧
    (gesture.value = .ok () → gesture.sent = overP.sent) := by
  intro overP overQ gesture
  have quietP : overP.sent = descriptors native screen events query :=
    sent_postQuietly ⟨native, screen, P⟩ events ⟨query, p⟩
  have quietQ : overQ.sent = descriptors native screen events query :=
    sent_postQuietly ⟨native, screen, Q⟩ events ⟨query, q⟩
  refine ⟨quietP.trans quietQ.symm, quietP, quietQ, ?_, fun completes => ?_⟩
  · rw [quietP]
    exact sent_postAll_begins ⟨native, screen, P⟩ events ⟨query, p⟩
  · rw [quietP]
    exact sent_postAll_ok ⟨native, screen, P⟩ completes

end Event
end InputReplay

import InputReplay.Config.Basic
import InputReplay.Proofs.Crew
import InputReplay.Proofs.Turns

/-! Producers that share one recorder. Each posts on a poster of its own, in any schedule, and what they
submit all goes into one record. -/

namespace InputReplay

variable {ι α : Type}

def Recorder.host (r : Recorder) (native : UInt16 → UInt16) (screen : Extent) :
    Host (List Descriptor) :=
  ⟨native, screen.fixed, r.device⟩

namespace Recorder

variable (r : Recorder) (native : UInt16 → UInt16) (screen : Extent)

theorem steady_host : (r.host native screen).Steady :=
  ⟨fun _ _ => rfl, fun _ _ _ => rfl, fun _ _ => rfl⟩

theorem device_of_next? {p rest : Dialogue α} {s t : Standing (List Descriptor)} {step : Step}
    (next : p.next? (r.host native screen) s = some (step, rest, t)) :
    t.device = s.device ++ step.descriptor?.toList := by
  cases p <;> cases next <;> simp [Step.descriptor?, host, device]

end Recorder

/-- The descriptors among some steps, each under the party that submitted it. -/
def submissions (log : List (ι × Step)) : List (ι × Descriptor) :=
  log.filterMap fun e => e.2.descriptor?.map (e.1, ·)

theorem submissions_append_singleton (log : List (ι × Step)) (i : ι) (step : Step) :
    (submissions (log ++ [(i, step)])).map Prod.snd =
      (submissions log).map Prod.snd ++ step.descriptor?.toList := by
  rw [submissions, List.filterMap_append, List.map_append]
  cases found : step.descriptor? <;> simp [submissions, found]

namespace Crew

def Recorded (c : Crew ι (List Descriptor) α) : Prop :=
  (submissions c.log).map Prod.snd = c.standing.device

variable [DecidableEq ι] (r : Recorder) (native : UInt16 → UInt16) (screen : Extent)

theorem Recorded.turn (c : Crew ι (List Descriptor) α) (i : ι) (kept : c.Recorded) :
    (c.turn (r.host native screen) i).Recorded := by
  cases next : (c.parties i).next? (r.host native screen) c.standing with
  | none => exact (turn_of_none next).symm ▸ kept
  | some further =>
    rw [turn_of_next? next, Recorded, submissions_append_singleton, kept]
    exact (r.device_of_next? native screen next).symm

theorem recorded_follow (parties : ι → Dialogue α) (schedule : List ι) :
    ((start parties ⟨0, []⟩).follow (r.host native screen) schedule).Recorded := by
  have first : (start parties (⟨0, []⟩ : Standing (List Descriptor))).Recorded := rfl
  exact follow_induction first (Recorded.turn r native screen) schedule

end Crew

variable [DecidableEq ι]

/-- A list made up of one part for each party, each in its own order. -/
def IsInterleaving {β : Type} (parts : ι → List β) (whole : List β) : Prop :=
  ∃ entries : List (ι × β), entries.map Prod.snd = whole ∧ ∀ i, share i entries = parts i

/-- Producers that share a recorder lose nothing and duplicate nothing, however their steps fall
between one another. Once all have finished, the record is made up of the descriptors that each
submits alone, and each has the replies that it gets alone on a fresh recorder. Nobody has to wait:
a producer comes to its end by turns of its own. -/
theorem producers_lose_and_duplicate_nothing (r : Recorder) (native : UInt16 → UInt16)
    (screen : Extent) (producers : ι → List Call) (schedule : List ι) :
    let host := r.host native screen
    let fresh : Standing (List Descriptor) := ⟨0, []⟩
    let alone := fun i => (session (producers i)).run host fresh
    let crew := (Crew.start (fun i => session (producers i)) fresh).follow host schedule
    ((∀ i, (crew.parties i).value?.isSome) →
      IsInterleaving
        (fun i => (processed host (producers i) fresh).filterMap (Turn.descriptor? host))
        crew.standing.device ∧
      ∀ i, (crew.parties i).value? = some (alone i).value) ∧
    ∀ i, ∃ n, ((crew.follow host (List.replicate n i)).parties i).value? =
      some (alone i).value := by
  intro host fresh alone crew
  have undisturbed : crew.Undisturbed host (fun i => session (producers i)) fresh :=
    Crew.undisturbed_follow (r.steady_host native screen) _ _ schedule
  have recorded : crew.Recorded := Crew.recorded_follow r native screen _ schedule
  refine ⟨fun finished => ⟨⟨submissions crew.log, recorded, fun i => ?_⟩, fun i => ?_⟩, fun i => ?_⟩
  · obtain ⟨a, done⟩ := Option.isSome_iff_exists.mp (finished i)
    rw [submissions, share_filterMap, (undisturbed.of_value? done).2, steps_session, sent_stepsOf]
  · obtain ⟨a, done⟩ := Option.isSome_iff_exists.mp (finished i)
    rw [done, (undisturbed.of_value? done).1]
  · rw [← undisturbed.value i]
    exact crew.exists_finished host i

def crossedProducers : Bool → List Call
  | true => [.postAll [.keyPressed 4 .empty, .keyReleased 4 .empty]]
  | false => [.postQuietly (.mouseMoved 5 5), .postQuietly (.keyPressed 5 .empty)]

/-- Each producer submits between the other's submission and its question for the reason. -/
def crossedSchedule : List Bool :=
  [true, false, true, false, true, false, true, false, false, false, false, false]

theorem crossed_producers_lose_nothing :
    let host := (Recorder.rejecting 0x57).host id ⟨1920, 1080⟩
    let crew := (Crew.start (fun i => session (crossedProducers i)) ⟨0, []⟩).follow host
      crossedSchedule
    (∀ i, (crew.parties i).value?.isSome) ∧
    crew.standing.device =
      [.keyboard ⟨4, 0, .keyDown⟩, .mouse ⟨171, 304, 0, .absolute ||| .move⟩,
        .keyboard ⟨5, 0, .keyDown⟩] ∧
    (crew.parties true).value? = some [.postAll (.error (0, .inject ⟨0x57⟩))] ∧
    IsInterleaving
      (fun i => (processed host (crossedProducers i) ⟨0, []⟩).filterMap (Turn.descriptor? host))
      crew.standing.device ∧
    ∀ i, (crew.parties i).value? =
      some ((session (crossedProducers i)).run host ⟨0, []⟩).value := by
  intro host crew
  have finished : ∀ i, (crew.parties i).value?.isSome := by decide
  have shared := (producers_lose_and_duplicate_nothing (.rejecting 0x57) id ⟨1920, 1080⟩
    crossedProducers crossedSchedule).1 finished
  exact ⟨finished, by decide, rfl, shared⟩

end InputReplay

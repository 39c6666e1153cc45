import InputReplay.Proofs.Turns
import Mathlib.Data.List.Forall2

/-! What the device sees of an injector and the poster around it. Its calls come in blocks, one for
each descriptor: the submission, and after a rejection one question for the reason. The answer to
that question is the code which the injection reports. -/

namespace InputReplay

variable {σ α ε : Type}

def Step.isDeviceCall : Step → Bool
  | sent .. | lastError _ => true
  | native .. | extent _ | noted _ => false

/-- The calls that the device receives among some steps, each with its answer. -/
def deviceCalls (steps : List Step) : List Step := steps.filter Step.isDeviceCall

theorem deviceCalls_append (first second : List Step) :
    deviceCalls (first ++ second) = deviceCalls first ++ deviceCalls second :=
  List.filter_append ..

/-- In its first state the device answers these calls so, one after another, and is left in its
last. -/
def Device.Answers (device : Device σ) : List Step → (first last : σ) → Prop
  | [], first, last => first = last
  | .sent d count :: calls, first, last =>
    (device.send d first).1 = count ∧ device.Answers calls (device.send d first).2 last
  | .lastError code :: calls, first, last =>
    (device.lastError first).1 = code ∧ device.Answers calls (device.lastError first).2 last
  | _ :: _, _, _ => False

theorem Dialogue.run_answers (h : Host σ) (p : Dialogue α) (s : Standing σ) :
    h.device.Answers (deviceCalls (p.run h s).steps) s.device (p.run h s).standing.device := by
  induction p generalizing s with
  | done a => rfl
  | native code next ih => exact ih _ s
  | extent next ih => exact ih _ ⟨s.queries + 1, s.device⟩
  | send d next ih => exact ⟨rfl, ih _ ⟨s.queries, _⟩⟩
  | lastError next ih => exact ⟨rfl, ih _ ⟨s.queries, _⟩⟩
  | note n next ih => exact ih s

def failure? : Except ε Unit → Option ε
  | .ok _ => none
  | .error e => some e

def PostError.rejection? : PostError → Option Rejection
  | resolve _ => none
  | inject reason => some reason

/-- One submission as the device sees it. The device is asked for the reason of a rejection, and
never otherwise. -/
structure Submission where
  descriptor : Descriptor
  count : UInt32
  reason : Option UInt32
  asked : reason.isSome = true ↔ count = 0

namespace Submission

def calls (b : Submission) : List Step :=
  .sent b.descriptor b.count :: (b.reason.map Step.lastError).toList

/-- What an injection reports of its submission. -/
def outcome (b : Submission) : Except Rejection Unit :=
  match b.reason with
  | none => .ok ()
  | some code => .error ⟨code⟩

def accepted (d : Descriptor) (count : UInt32) (injects : count ≠ 0) : Submission :=
  ⟨d, count, none, by simp [injects]⟩

def rejected (d : Descriptor) (code : UInt32) : Submission := ⟨d, 0, some code, by simp⟩

end Submission

/-- Some steps show the device one block for each descriptor, and what is reported of the
injections is what the blocks say. -/
structure Seen (steps : List Step) (descriptors : List Descriptor)
    (reports : List (Except Rejection Unit)) (blocks : List Submission) : Prop where
  calls : deviceCalls steps = blocks.flatMap Submission.calls
  descriptors : blocks.map Submission.descriptor = descriptors
  reports : blocks.map Submission.outcome = reports

namespace Seen

theorem nil : Seen [] [] [] [] := ⟨rfl, rfl, rfl⟩

theorem append {earlier later : List Step} {ds es : List Descriptor}
    {rs qs : List (Except Rejection Unit)} {bs cs : List Submission}
    (a : Seen earlier ds rs bs) (b : Seen later es qs cs) :
    Seen (earlier ++ later) (ds ++ es) (rs ++ qs) (bs ++ cs) where
  calls := by rw [deviceCalls_append, a.calls, b.calls, List.flatMap_append]
  descriptors := by rw [List.map_append, a.descriptors, b.descriptors]
  reports := by rw [List.map_append, a.reports, b.reports]

theorem accepted (d : Descriptor) (count : UInt32) (injects : count ≠ 0) :
    Seen [.sent d count, .noted (.injected d)] [d] [.ok ()] [.accepted d count injects] :=
  ⟨rfl, rfl, rfl⟩

theorem rejected (d : Descriptor) (code : UInt32) :
    Seen [.sent d 0, .lastError code, .noted (.rejected d code)] [d] [.error ⟨code⟩]
      [.rejected d code] :=
  ⟨rfl, rfl, rfl⟩

end Seen

theorem Descriptor.seen_inject (h : Host σ) (d : Descriptor) (s : Standing σ) :
    ∃ block, Seen (d.inject.run h s).steps [d] [(d.inject.run h s).value] [block] := by
  rw [run_inject]
  by_cases refused : (h.device.send d s.device).1 = 0
  · simp only [refused, ↓reduceIte]
    exact ⟨_, .rejected d _⟩
  · simp only [refused, ↓reduceIte]
    exact ⟨_, .accepted d _ refused⟩

@[simp] theorem Event.deviceCalls_consultation (native : UInt16 → UInt16) (screen : Extent)
    (e : Event) : deviceCalls (e.consultation native screen) = [] := by
  unfold consultation
  split
  case h_3 => split <;> rfl
  all_goals rfl

namespace Turn

/-- What the injection of a turn's descriptor reports, if the turn comes to an injection. -/
def report? (h : Host σ) (t : Turn σ) : Option (Except Rejection Unit) :=
  match (t.run h).value with
  | .ok _ => (t.descriptor? h).map fun _ => .ok ()
  | .error (.inject reason) => some (.error reason)
  | .error (.resolve _) => none

def rejection? (h : Host σ) (t : Turn σ) : Option Rejection :=
  (failure? (t.run h).value).bind PostError.rejection?

theorem failure_report? (h : Host σ) (t : Turn σ) :
    (t.report? h).bind failure? = t.rejection? h := by
  unfold report? rejection?
  cases (t.run h).value with
  | ok _ => cases t.descriptor? h <;> rfl
  | error cause => cases cause <;> rfl

theorem rejection?_of_ok (h : Host σ) {t : Turn σ} (ok : (t.run h).value = .ok ()) :
    t.rejection? h = none := by
  rw [rejection?, ok]
  rfl

theorem seen_run (h : Host σ) (t : Turn σ) :
    ∃ blocks, Seen (t.run h).steps (t.descriptor? h).toList (t.report? h).toList blocks := by
  obtain ⟨steps, ending, eq⟩ := t.ending h
  have calls : deviceCalls (t.run h).steps = deviceCalls steps := by
    rw [eq, deviceCalls_append, Event.deviceCalls_consultation, List.nil_append]
  suffices ∃ blocks, Seen steps (t.descriptor? h).toList (t.report? h).toList blocks by
    obtain ⟨blocks, seen⟩ := this
    exact ⟨blocks, calls.trans seen.calls, seen.descriptors, seen.reports⟩
  unfold report? descriptor?
  generalize t.resolved h = resolved at ending
  generalize (t.run h).value = value at ending
  cases ending with
  | dropped cause => exact ⟨[], rfl, rfl, rfl⟩
  | silent => exact ⟨[], .nil⟩
  | rejected d code => exact ⟨_, .rejected d code⟩
  | injected d count injects => exact ⟨_, .accepted d count injects⟩

end Turn

theorem seen_stepsOf (h : Host σ) (ts : List (Turn σ)) :
    ∃ blocks, Seen (stepsOf h ts) (ts.filterMap (Turn.descriptor? h))
      (ts.filterMap (Turn.report? h)) blocks := by
  induction ts with
  | nil => exact ⟨[], .nil⟩
  | cons t ts ih =>
    obtain ⟨first, seen⟩ := t.seen_run h
    obtain ⟨rest, later⟩ := ih
    refine ⟨first ++ rest, ?_⟩
    simpa only [stepsOf, List.filterMap_eq_flatMap_toList, List.flatMap_cons] using
      seen.append later

theorem rejections_postAll (h : Host σ) (events : List Event) (s : Standing σ) :
    (throughFailure h (turns h events s)).filterMap (Turn.rejection? h) =
      ((failure? ((Event.postAll events).run h s).value).bind fun e => e.2.rejection?).toList := by
  have none_rejected {ts : List (Turn σ)} (succeed : ∀ t ∈ ts, (t.run h).value = .ok ()) :
      ts.filterMap (Turn.rejection? h) = [] :=
    List.filterMap_eq_nil_iff.mpr fun t member => t.rejection?_of_ok h (succeed t member)
  rcases Event.run_postFrom h events 0 s with
    ⟨succeed, value, -⟩ | ⟨before, failing, after, cause, split, succeed, fails, run⟩
  · rw [throughFailure_succeed h succeed, none_rejected succeed, Event.postAll, value]
    rfl
  · rw [split, throughFailure_fails h succeed fails, List.filterMap_append,
      none_rejected succeed, List.nil_append, Event.postAll, run,
      List.filterMap_eq_flatMap_toList, List.flatMap_singleton, Turn.rejection?, fails]
    rfl

/-- What may be asked of an injector and the poster around it. -/
inductive Request
  | inject (descriptor : Descriptor)
  | call (call : Call)

inductive Response
  | inject (result : Except Rejection Unit)
  | call (reply : Reply)

/-- The rejections that a response tells of. Quiet posting keeps them to itself. -/
def Response.rejections? : Response → Option (List Rejection)
  | inject result => some (failure? result).toList
  | call (.post result) => some ((failure? result).bind PostError.rejection?).toList
  | call .postQuietly => none
  | call (.postAll result) =>
    some ((failure? result).bind fun e => e.2.rejection?).toList

/-- What a response tells of rejections is what the blocks of its request say. -/
def Response.Tells (response : Response) (blocks : List Submission) : Prop :=
  ∀ told ∈ response.rejections?, blocks.filterMap (failure? ∘ Submission.outcome) = told

namespace Request

def dialogue : Request → Dialogue Response
  | inject d => return .inject (← d.inject)
  | call c => return .call (← c.dialogue)

def descriptors (h : Host σ) : Request → Standing σ → List Descriptor
  | inject d, _ => [d]
  | call c, s => (c.processed h s).filterMap (Turn.descriptor? h)

def reports (h : Host σ) : Request → Standing σ → List (Except Rejection Unit)
  | inject d, s => [(d.inject.run h s).value]
  | call c, s => (c.processed h s).filterMap (Turn.report? h)

theorem rejections_call (h : Host σ) (c : Call) (s : Standing σ) :
    ∀ told ∈ (Response.call (c.dialogue.run h s).value).rejections?,
      (c.processed h s).filterMap (Turn.rejection? h) = told := by
  intro told member
  cases c with
  | post e =>
    rw [Call.dialogue, Dialogue.run_return] at member
    obtain rfl := Option.some.inj member
    rw [Call.processed, List.filterMap_eq_flatMap_toList, List.flatMap_singleton]
    rfl
  | postQuietly e =>
    rw [Call.dialogue, Dialogue.run_return] at member
    cases member
  | postAll events =>
    rw [Call.dialogue, Dialogue.run_return] at member
    obtain rfl := Option.some.inj member
    exact rejections_postAll h events s

theorem seen_dialogue (h : Host σ) (request : Request) (s : Standing σ) :
    ∃ blocks, Seen (request.dialogue.run h s).steps (descriptors h request s)
        (reports h request s) blocks ∧
      (request.dialogue.run h s).value.Tells blocks := by
  cases request with
  | inject d =>
    obtain ⟨block, seen⟩ := d.seen_inject h s
    rw [dialogue, Dialogue.run_return]
    refine ⟨[block], seen, fun told member => ?_⟩
    obtain rfl := Option.some.inj member
    rw [← List.filterMap_map, seen.reports, List.filterMap_eq_flatMap_toList,
      List.flatMap_singleton]
  | call c =>
    obtain ⟨blocks, seen⟩ := seen_stepsOf h (c.processed h s)
    rw [dialogue, Dialogue.run_return]
    refine ⟨blocks, (c.steps_dialogue h s).symm ▸ seen, fun told member => ?_⟩
    rw [← List.filterMap_map, seen.reports, List.filterMap_filterMap]
    simp only [Turn.failure_report?]
    exact rejections_call h c s told member

end Request

/-- Requests one after another, with their responses. -/
def conversation (requests : List Request) : Dialogue (List Response) :=
  requests.mapM Request.dialogue

theorem run_conversation_cons (h : Host σ) (request : Request) (requests : List Request)
    (s : Standing σ) :
    (conversation (request :: requests)).run h s =
      let first := request.dialogue.run h s
      let rest := (conversation requests).run h first.standing
      ⟨first.value :: rest.value, rest.standing, first.steps ++ rest.steps⟩ :=
  Dialogue.run_mapM_cons h Request.dialogue request requests s

/-- A list read off each request at the standing where it is made, one after another. -/
def alongside {β : Type} (h : Host σ) (read : Request → Standing σ → List β) :
    List Request → Standing σ → List β
  | [], _ => []
  | request :: requests, s =>
    read request s ++ alongside h read requests (request.dialogue.run h s).standing

theorem seen_conversation (h : Host σ) (requests : List Request) (s : Standing σ) :
    ∃ blocks : List (List Submission),
      Seen ((conversation requests).run h s).steps
        (alongside h (Request.descriptors h) requests s)
        (alongside h (Request.reports h) requests s) blocks.flatten ∧
      List.Forall₂ Response.Tells ((conversation requests).run h s).value blocks := by
  induction requests generalizing s with
  | nil => exact ⟨[], .nil, .nil⟩
  | cons request requests ih =>
    obtain ⟨first, seen, tells⟩ := request.seen_dialogue h s
    obtain ⟨rest, later, others⟩ := ih (request.dialogue.run h s).standing
    rw [run_conversation_cons]
    exact ⟨first :: rest, seen.append later, .cons tells others⟩

/-- However an injector and its poster are used, the device sees one block for each descriptor, in
order: the descriptor is submitted once, and the reason is asked for once if that submission injects
nothing and not at all otherwise. Each injection reports what its own block says, so a failing one
gives the code that the device answered there; and every response but that of quiet posting passes
on just the rejections of its own blocks. -/
theorem conversation_in_blocks (h : Host σ) (requests : List Request) (s : Standing σ) :
    let run := (conversation requests).run h s
    h.device.Answers (deviceCalls run.steps) s.device run.standing.device ∧
    ∃ blocks : List (List Submission),
      deviceCalls run.steps = blocks.flatten.flatMap Submission.calls ∧
      blocks.flatten.map Submission.descriptor =
        alongside h (Request.descriptors h) requests s ∧
      blocks.flatten.map Submission.outcome = alongside h (Request.reports h) requests s ∧
      List.Forall₂ Response.Tells run.value blocks := by
  intro run
  obtain ⟨blocks, seen, tells⟩ := seen_conversation h requests s
  have answers := (conversation requests).run_answers h s
  exact ⟨answers, blocks, seen.calls, seen.descriptors, seen.reports, tells⟩

end InputReplay

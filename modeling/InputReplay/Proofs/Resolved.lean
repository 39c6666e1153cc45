import InputReplay.Host.Run
import InputReplay.Resolution

/-! What resolving an event comes to on a host. The result depends on the key mapping and on one
screen size; the device is never touched, and exactly the pointer events use up a screen query. -/

namespace InputReplay

variable {σ α β : Type}

namespace Run

def followedBy (first : Run σ α) (second : Run σ β) : Run σ β :=
  ⟨second.value, second.standing, first.steps ++ second.steps⟩

@[simp] theorem value_followedBy (first : Run σ α) (second : Run σ β) :
    (first.followedBy second).value = second.value := rfl

@[simp] theorem standing_followedBy (first : Run σ α) (second : Run σ β) :
    (first.followedBy second).standing = second.standing := rfl

@[simp] theorem steps_followedBy (first : Run σ α) (second : Run σ β) :
    (first.followedBy second).steps = first.steps ++ second.steps := rfl

end Run

namespace Dialogue

theorem run_pure (h : Host σ) (a : α) (s : Standing σ) :
    (pure a : Dialogue α).run h s = ⟨a, s, []⟩ := rfl

theorem run_bind (h : Host σ) (p : Dialogue α) (f : α → Dialogue β) (s : Standing σ) :
    (p >>= f).run h s =
      (p.run h s).followedBy ((f (p.run h s).value).run h (p.run h s).standing) :=
  run_andThen h p f s

theorem run_return (h : Host σ) (p : Dialogue α) (f : α → β) (s : Standing σ) :
    (p >>= fun a => pure (f a)).run h s =
      ⟨f (p.run h s).value, (p.run h s).standing, (p.run h s).steps⟩ := by
  rw [run_bind, run_pure, Run.followedBy, List.append_nil]

theorem run_askNative (h : Host σ) (keycode : UInt16) (s : Standing σ) :
    (askNative keycode).run h s =
      ⟨h.native keycode, s, [.native keycode (h.native keycode)]⟩ := rfl

theorem run_submit (h : Host σ) (d : Descriptor) (s : Standing σ) :
    (submit d).run h s =
      ⟨(h.device.send d s.device).1, ⟨s.queries, (h.device.send d s.device).2⟩,
        [.sent d (h.device.send d s.device).1]⟩ := rfl

def stages {β γ : Type} (h : Host σ) (dialogue : β → Dialogue γ) :
    List β → Standing σ → List (β × Standing σ)
  | [], _ => []
  | b :: bs, s => (b, s) :: stages h dialogue bs ((dialogue b).run h s).standing

theorem run_mapM_cons {β γ : Type} (h : Host σ) (dialogue : β → Dialogue γ) (b : β) (bs : List β)
    (s : Standing σ) :
    ((b :: bs).mapM dialogue).run h s =
      let first := (dialogue b).run h s
      let rest := (bs.mapM dialogue).run h first.standing
      ⟨first.value :: rest.value, rest.standing, first.steps ++ rest.steps⟩ := by
  rw [List.mapM_cons, run_bind, run_return]
  rfl

theorem value_mapM {β γ : Type} (h : Host σ) (dialogue : β → Dialogue γ) (bs : List β)
    (s : Standing σ) :
    ((bs.mapM dialogue).run h s).value =
      (stages h dialogue bs s).map fun stage => ((dialogue stage.1).run h stage.2).value := by
  induction bs generalizing s with
  | nil => rfl
  | cons b bs ih => simp only [run_mapM_cons, stages, List.map_cons, ih]

theorem steps_mapM {β γ : Type} (h : Host σ) (dialogue : β → Dialogue γ) (bs : List β)
    (s : Standing σ) :
    ((bs.mapM dialogue).run h s).steps =
      (stages h dialogue bs s).flatMap fun stage => ((dialogue stage.1).run h stage.2).steps := by
  induction bs generalizing s with
  | nil => rfl
  | cons b bs ih => simp only [run_mapM_cons, stages, List.flatMap_cons, ih]

end Dialogue

namespace Event

/-- What an event resolves to under a key mapping and a screen size. -/
def resolved (native : UInt16 → UInt16) (screen : Extent) (e : Event) :
    Except ResolveError (Option Descriptor) :=
  match e.payload.gesture with
  | .none | .unknown _ => .ok none
  | .key direction keycode =>
    .ok (some (.keyboard (.ofNative (native keycode) e.mask direction)))
  | .pointer x y flags data =>
    (MouseInput.onScreen screen x y flags data).map fun input => some (.mouse input)

def queries (e : Event) : Nat :=
  match e.payload.gesture with
  | .pointer .. => 1
  | _ => 0

/-- The steps of resolving an event. -/
def consultation (native : UInt16 → UInt16) (screen : Extent) (e : Event) : List Step :=
  match e.payload.gesture with
  | .none => []
  | .unknown number => [.noted (.unrecognized number)]
  | .key _ keycode =>
    .native keycode (native keycode) ::
      if native keycode = 0 then [.noted (.unmapped keycode)] else []
  | .pointer .. => [.extent screen]

theorem run_resolve (h : Host σ) (e : Event) (s : Standing σ) :
    e.resolve.run h s =
      ⟨e.resolved h.native (h.screen s.queries), ⟨s.queries + e.queries, s.device⟩,
        e.consultation h.native (h.screen s.queries)⟩ := by
  unfold resolve resolved queries consultation
  cases e.payload.gesture with
  | none => rfl
  | unknown number => rfl
  | key direction keycode =>
    by_cases unmapped : h.native keycode = 0
    all_goals
      simp only [Dialogue.run_bind, Dialogue.run_askNative, unmapped, ↓reduceIte]
      rfl
  | pointer x y flags data => rfl

/-- The notice of an event that is dropped, if it is. -/
def loss (e : Event) : Except ResolveError (Option Descriptor) → List Step
  | .ok _ => []
  | .error cause => [.noted (.dropped .resolution e.number cause)]

theorem run_resolveOrDrop (h : Host σ) (e : Event) (s : Standing σ) :
    e.resolveOrDrop.run h s =
      ⟨(e.resolved h.native (h.screen s.queries)).toOption.join,
        ⟨s.queries + e.queries, s.device⟩,
        e.consultation h.native (h.screen s.queries) ++
          e.loss (e.resolved h.native (h.screen s.queries))⟩ := by
  rw [resolveOrDrop, Dialogue.run_bind, run_resolve]
  cases e.resolved h.native (h.screen s.queries) <;> rfl

theorem toOption_join_eq_some_iff {resolved : Except ResolveError (Option Descriptor)}
    {d : Descriptor} : resolved.toOption.join = some d ↔ resolved = .ok (some d) := by
  cases resolved <;> simp [Except.toOption]

theorem descriptor_of_resolved {native : UInt16 → UInt16} {screen : Extent} {e : Event}
    {d : Option Descriptor} (resolved : e.resolved native screen = .ok d) :
    match e.payload.gesture with
    | .none | .unknown _ => d = none
    | .key direction keycode =>
      d = some (.keyboard (.ofNative (native keycode) e.mask direction))
    | .pointer _ _ flags data => ∃ dx dy, d = some (.mouse ⟨dx, dy, data, flags⟩) := by
  unfold Event.resolved at resolved
  generalize e.payload.gesture = gesture at resolved ⊢
  cases gesture with
  | pointer x y flags data =>
    unfold MouseInput.onScreen at resolved
    cases position : screen.normalize x y with
    | error cause => simp [position, Except.map] at resolved
    | ok point =>
      simp only [position, Except.map, Except.ok.injEq] at resolved
      exact ⟨point.1, point.2, resolved.symm⟩
  | _ => exact (Except.ok.inj resolved).symm

theorem said_of_resolved {native : UInt16 → UInt16} {screen : Extent} {e : Event}
    {input : MouseInput} {x y data : Int32} {flags : MouseFlags}
    (pointer : e.payload.gesture = .pointer x y flags data)
    (resolved : e.resolved native screen = .ok (some (.mouse input))) :
    input.flags = flags ∧ input.data = data := by
  have shape := descriptor_of_resolved resolved
  rw [pointer] at shape
  obtain ⟨dx, dy, same⟩ := shape
  cases same
  exact ⟨rfl, rfl⟩

@[simp] theorem descriptors_consultation (native : UInt16 → UInt16) (screen : Extent) (e : Event) :
    (e.consultation native screen).filterMap Step.descriptor? = [] := by
  unfold consultation
  split
  case h_3 => split <;> rfl
  all_goals rfl

@[simp] theorem accepted_consultation (native : UInt16 → UInt16) (screen : Extent) (e : Event) :
    (e.consultation native screen).filterMap Step.accepted? = [] := by
  unfold consultation
  split
  case h_3 => split <;> rfl
  all_goals rfl

end Event

end InputReplay

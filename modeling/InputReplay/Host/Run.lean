import InputReplay.Native.Descriptor
import InputReplay.Notice

/-! Hosts, dialogues with a host, and their runs.

A device answers a submission with the number of records it injected, 0 for a rejection, and keeps the
reason of a rejection to be asked for separately. A dialogue asks for native key codes and screen
sizes, hands descriptors to the device, reads its last error, and leaves notices; it ends in a value.
Each request is one node, so a dialogue can be run on its own or in turns with others. A run gives the
value, what the host stands at afterwards, and every step between in order. -/

namespace InputReplay

structure Device (σ : Type) where
  send : Descriptor → σ → UInt32 × σ
  lastError : σ → UInt32 × σ

/-- A device that keeps what it is sent, and rejects everything or nothing. -/
structure Recorder where
  rejects : Bool
  code : UInt32
  deriving DecidableEq

namespace Recorder

/-- The code of a rejection when none is chosen: access denied. -/
def defaultCode : UInt32 := 5

def accepting : Recorder := ⟨false, defaultCode⟩

def rejecting (code : UInt32) : Recorder := ⟨true, code⟩

/-- The state is the list of everything submitted, rejected descriptors included. -/
def device (r : Recorder) : Device (List Descriptor) where
  send d kept := (if r.rejects then 0 else 1, kept ++ [d])
  lastError kept := (if r.rejects then r.code else 0, kept)

end Recorder

/-- A count and an error code for each submission in turn. -/
structure Script where
  replies : List (UInt32 × UInt32)

namespace Script

/-- The state is the number of submissions so far. After the last reply everything is accepted. -/
def device (s : Script) : Device Nat where
  send _ n := (((s.replies[n]?).map Prod.fst).getD 1, n + 1)
  lastError
    | 0 => (0, 0)
    | n + 1 => (((s.replies[n]?).map Prod.snd).getD 0, n + 1)

end Script

inductive Dialogue (α : Type) : Type
  | done (value : α)
  | native (keycode : UInt16) (next : UInt16 → Dialogue α)
  | extent (next : Extent → Dialogue α)
  | send (descriptor : Descriptor) (next : UInt32 → Dialogue α)
  | lastError (next : UInt32 → Dialogue α)
  | note (notice : Notice) (next : Dialogue α)

namespace Dialogue

variable {α β γ : Type}

/-- Continue a dialogue from its value. -/
def andThen (f : α → Dialogue β) : Dialogue α → Dialogue β
  | done a => f a
  | native code next => native code fun n => (next n).andThen f
  | extent next => extent fun e => (next e).andThen f
  | send d next => send d fun n => (next n).andThen f
  | lastError next => lastError fun n => (next n).andThen f
  | note n next => note n (next.andThen f)

instance : Monad Dialogue where
  pure := done
  bind p f := p.andThen f

theorem andThen_done (p : Dialogue α) : p.andThen done = p := by
  induction p <;> simp_all [andThen]

theorem andThen_andThen (p : Dialogue α) (f : α → Dialogue β) (g : β → Dialogue γ) :
    (p.andThen f).andThen g = p.andThen fun a => (f a).andThen g := by
  induction p <;> simp_all [andThen]

@[simp] theorem pure_eq_done (a : α) : (pure a : Dialogue α) = done a := rfl

@[simp] theorem bind_eq_andThen (p : Dialogue α) (f : α → Dialogue β) :
    p >>= f = p.andThen f := rfl

instance : LawfulMonad Dialogue :=
  LawfulMonad.mk' Dialogue andThen_done (fun _ _ => rfl) andThen_andThen

def askNative (keycode : UInt16) : Dialogue UInt16 := native keycode done

/-- The size of the primary screen at this moment. -/
def askExtent : Dialogue Extent := extent done

/-- How many records the device injected. -/
def submit (d : Descriptor) : Dialogue UInt32 := send d done

def askLastError : Dialogue UInt32 := lastError done

def leave (n : Notice) : Dialogue Unit := note n (done ())

end Dialogue

/-- A key mapping, the answer to every screen query by its number, and a device. -/
structure Host (σ : Type) where
  native : UInt16 → UInt16
  screen : Nat → Extent
  device : Device σ

/-- Screen queries answered so far and the state of the device. -/
structure Standing (σ : Type) where
  queries : Nat
  device : σ

/-- A request with its answer, or a notice. -/
inductive Step
  | native (keycode answer : UInt16)
  | extent (answer : Extent)
  | sent (descriptor : Descriptor) (count : UInt32)
  | lastError (code : UInt32)
  | noted (notice : Notice)
  deriving DecidableEq

namespace Step

def notice? : Step → Option Notice
  | noted n => some n
  | _ => none

def descriptor? : Step → Option Descriptor
  | sent d _ => some d
  | _ => none

/-- The descriptor of a submission that injected something. -/
def accepted? : Step → Option Descriptor
  | sent d count => if count = 0 then none else some d
  | _ => none

def keycode? : Step → Option UInt16
  | native code _ => some code
  | _ => none

end Step

structure Run (σ α : Type) where
  value : α
  standing : Standing σ
  steps : List Step

namespace Run

variable {σ α : Type}

def after (step : Step) (r : Run σ α) : Run σ α :=
  { r with steps := step :: r.steps }

def notices (r : Run σ α) : List Notice := r.steps.filterMap Step.notice?

/-- Descriptors submitted, rejected ones included. -/
def sent (r : Run σ α) : List Descriptor := r.steps.filterMap Step.descriptor?

def accepted (r : Run σ α) : List Descriptor := r.steps.filterMap Step.accepted?

def keycodes (r : Run σ α) : List UInt16 := r.steps.filterMap Step.keycode?

@[simp] theorem value_after (s : Step) (r : Run σ α) : (r.after s).value = r.value := rfl

@[simp] theorem standing_after (s : Step) (r : Run σ α) :
    (r.after s).standing = r.standing := rfl

@[simp] theorem steps_after (s : Step) (r : Run σ α) : (r.after s).steps = s :: r.steps := rfl

end Run

namespace Dialogue

variable {σ α β : Type}

def run (h : Host σ) : Dialogue α → Standing σ → Run σ α
  | done a, s => ⟨a, s, []⟩
  | native code next, s =>
    ((next (h.native code)).run h s).after (.native code (h.native code))
  | extent next, s =>
    ((next (h.screen s.queries)).run h ⟨s.queries + 1, s.device⟩).after
      (.extent (h.screen s.queries))
  | send d next, s =>
    let answer := h.device.send d s.device
    ((next answer.1).run h ⟨s.queries, answer.2⟩).after (.sent d answer.1)
  | lastError next, s =>
    let answer := h.device.lastError s.device
    ((next answer.1).run h ⟨s.queries, answer.2⟩).after (.lastError answer.1)
  | note n next, s => (next.run h s).after (.noted n)

theorem run_andThen (h : Host σ) (p : Dialogue α) (f : α → Dialogue β) (s : Standing σ) :
    (p.andThen f).run h s =
      let first := p.run h s
      let second := (f first.value).run h first.standing
      ⟨second.value, second.standing, first.steps ++ second.steps⟩ := by
  induction p generalizing s <;> simp_all [andThen, run, Run.after]

end Dialogue

/-- Answers from a list, the last of which repeats. -/
def Extent.sequence (answers : List Extent) (query : Nat) : Extent :=
  answers.getD query (answers.getLastD default)

end InputReplay

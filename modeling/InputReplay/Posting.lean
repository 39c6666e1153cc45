import InputReplay.Resolution

/-! Injecting descriptors and posting events. Every failure is noted once, and nothing is tried
twice. -/

namespace InputReplay

/-- Submits a descriptor once. Only after a rejection is the device asked for the reason. -/
def Descriptor.inject (d : Descriptor) : Dialogue (Except Rejection Unit) := do
  if (← .submit d) = 0 then
    let code ← .askLastError
    .leave (.rejected d code)
    return .error ⟨code⟩
  else
    .leave (.injected d)
    return .ok ()

namespace Event

/-- Resolves an event and injects what it resolves to. An event that resolves to nothing succeeds
without touching the device. -/
def post (e : Event) : Dialogue (Except PostError Unit) := do
  match ← e.resolve with
  | .error cause =>
    .leave (.dropped .posting e.number cause)
    return .error (.resolve cause)
  | .ok none => return .ok ()
  | .ok (some d) => return (← d.inject).mapError .inject

/-- As `post`, but a failure is only noted. -/
def postQuietly (e : Event) : Dialogue Unit := do
  let _ ← e.post
  return ()

def postFrom (index : Nat) : List Event → Dialogue (Except (Nat × PostError) Unit)
  | [] => return .ok ()
  | e :: events => do
    match ← e.post with
    | .error cause => return .error (index, cause)
    | .ok () => postFrom (index + 1) events

/-- Posts a whole gesture. It stops at the first failure, so that a key is not released whose press
was rejected; the failure comes with the index of its event. -/
def postAll (events : List Event) : Dialogue (Except (Nat × PostError) Unit) :=
  postFrom 0 events

end Event
end InputReplay

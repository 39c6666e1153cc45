import InputReplay.Native.Descriptor

/-! What a pointer does, in device units.

Positions go one axis at a time. The device scale has 65536 units whatever the resolution. A result is
moved one unit away from the origin: up for positive coordinates, down for all others, zero included,
so no result is 0. One detent of the wheel is 120 units. Whatever leaves 32 bits becomes the nearer end
of the range.

The first three mouse buttons have flags of their own; every other ordinal is an extended button, told
apart by an index in the descriptor's data. -/

namespace InputReplay

/-- The signed 32-bit word nearest to `n`. -/
def saturate (n : Int) : Int32 :=
  Int32.ofInt (max (-2147483648) (min n 2147483647))

theorem toInt_saturate (n : Int) :
    (saturate n).toInt = max (-2147483648) (min n 2147483647) := by
  rw [saturate, Int32.toInt_ofInt]
  rw [Int.bmod_eq_of_le] <;> simp only [Int32.size] <;> omega

structure BadExtent where
  extent : Int32
  deriving DecidableEq, Inhabited

def BadExtent.message (e : BadExtent) : String :=
  "screen extent must be positive, got " ++ toString e.extent.toInt

namespace Axis

def range : Int := 65536

/-- The position of a coordinate on an axis of `extent` pixels, over the integers. -/
def exact (coordinate extent : Int) : Int :=
  (coordinate * range).tdiv extent + if 0 < coordinate then 1 else -1

def normalize (coordinate extent : Int32) : Except BadExtent Int32 :=
  if extent ≤ 0 then .error ⟨extent⟩
  else .ok (saturate (exact coordinate.toInt extent.toInt))

end Axis

/-- Screen size in pixels. -/
structure Extent where
  width : Int32
  height : Int32
  deriving DecidableEq, Inhabited

/-- Both axes of a position in device units. Of two bad extents the width is reported. -/
def Extent.normalize (screen : Extent) (x y : Int32) : Except BadExtent (Int32 × Int32) := do
  let dx ← Axis.normalize x screen.width
  let dy ← Axis.normalize y screen.height
  return (dx, dy)

namespace Wheel

def detent : Int32 := 120

/-- The signed distance of a turn in native units. -/
def distance (amount rotation : Int32) : Int32 :=
  saturate ((saturate (amount.toInt * rotation.toInt)).toInt * detent.toInt)

end Wheel

namespace Button

inductive Action
  | down
  | up
  deriving DecidableEq

def extended1 : Int32 := 1
def extended2 : Int32 := 2

/-- The index of an extended button. -/
def index : UInt16 → Int32
  | 4 => extended1
  | 5 => extended2
  | ordinal => Int32.ofInt (ordinal.toNat - 3)

/-- Flags and data that describe an action on a button. -/
def encode (ordinal : UInt16) : Action → MouseFlags × Int32
  | .down =>
    match ordinal with
    | 1 => (.leftDown, 0)
    | 2 => (.rightDown, 0)
    | 3 => (.middleDown, 0)
    | _ => (.xDown, index ordinal)
  | .up =>
    match ordinal with
    | 1 => (.leftUp, 0)
    | 2 => (.rightUp, 0)
    | 3 => (.middleUp, 0)
    | _ => (.xUp, index ordinal)

end Button

end InputReplay

import PoolCheck.Keystream
import PoolCheck.Tensor

/-!
# Seeded random tensors

Each element is drawn from `[low, high)` with one keystream word: its upper 23 bits make a number
in `[0, 1)`, which is scaled and shifted. The scale is the width of the range, lowered until the
largest draw stays below `high`.
-/

set_option autoImplicit false

namespace PoolCheck

inductive RandomFault where
  | emptyRange (low high : Binary32)
  | infiniteRange
  | tooLarge
  deriving DecidableEq

namespace Tensor

def unitDraw (word : UInt32) : Binary32 := ⟨(word >>> 9) ||| 0x3f800000⟩ - .one

def draw (low scale : Binary32) (word : UInt32) : Binary32 := unitDraw word * scale + low

/-- The first scale, going down from the given bits, whose largest draw is below `high`. -/
def fitScale (low high : Binary32) : Nat → Binary32
  | 0 => ⟨0⟩
  | n + 1 =>
    let scale : Binary32 := ⟨UInt32.ofNat (n + 1)⟩
    if high.lessOrEqual (draw low scale 0xffffffff) then fitScale low high n else scale

def random (low high : Binary32) (shape : Shape) (seed : Nat) : Except RandomFault Tensor :=
  let width := high - low
  if !low.less high then .error (.emptyRange low high)
  else if !(low.isFinite && high.isFinite && width.isFinite) then .error .infiniteRange
  else if !holdable shape then .error .tooLarge
  else
    let scale := fitScale low high width.bits.toNat
    let words := (Keystream.words (Keystream.seedKey (UInt64.ofNat seed)) (volume shape)).toArray
    .ok ⟨shape, Array.ofFn (n := volume shape) fun k => draw low scale (words.getD k 0), by simp⟩

end Tensor

end PoolCheck

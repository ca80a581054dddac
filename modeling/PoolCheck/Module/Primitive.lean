import PoolCheck.Pool.Forward

/-!
# Primitives

The instructions of a converted module. Each one works on a whole feature map: it pads explicitly,
slides an unpadded window, or divides. Primitives come from files, so every one of them checks
what it needs before it looks at an element.
-/

set_option autoImplicit false

namespace PoolCheck

inductive PadValue where
  | zero
  | negInfinity
  deriving DecidableEq

def PadValue.value : PadValue → Binary32
  | zero => .zero
  | negInfinity => .negInfinity

inductive Primitive where
  | pad (top bottom left right : Nat) (value : PadValue)
  | windowSum (kernel stride : Pair)
  | windowMax (kernel stride : Pair)
  | divideByMap (height width : Nat) (divisors : Array Binary32)
  | divideByScalar (divisor : Binary32)
  deriving DecidableEq

namespace FeatureMap

def pad (top bottom left right : Nat) (v : Binary32) (x : FeatureMap) :
    Except LoadFault FeatureMap :=
  let h := x.shape.height
  let w := x.shape.width
  let out := x.shape.resize (top + h + bottom) (left + w + right)
  if holdable out.toShape then
    .ok (ofFn out fun b c i j =>
      if top ≤ i ∧ i < top + h ∧ left ≤ j ∧ j < left + w then x.entry b c (i - top) (j - left)
      else v)
  else .error .tooLarge

def slide (kernel stride : Pair) (combine : List Binary32 → Binary32) (x : FeatureMap) :
    Except LoadFault FeatureMap :=
  let h := x.shape.height
  let w := x.shape.width
  if kernel.h = 0 ∨ kernel.w = 0 ∨ stride.h = 0 ∨ stride.w = 0 then
    .error (.badWindow kernel stride)
  else if h < kernel.h ∨ w < kernel.w then .error (.windowTooLarge kernel h w)
  else
    let out := x.shape.resize ((h - kernel.h) / stride.h + 1) ((w - kernel.w) / stride.w + 1)
    .ok (ofFn out fun b c i j =>
      let rows := ⟨i * stride.h, i * stride.h + kernel.h, kernel.h⟩
      let cols := ⟨j * stride.w, j * stride.w + kernel.w, kernel.w⟩
      combine (patch rows cols (x.entry b c)))

/-- Divides every plane by a table. A zero in the table gives zero. -/
def divideByMap (height width : Nat) (divisors : Array Binary32) (x : FeatureMap) :
    Except LoadFault FeatureMap :=
  if x.shape.height = height ∧ x.shape.width = width ∧ divisors.size = height * width then
    .ok (ofFn x.shape fun b c i j =>
      let d := divisors.getD (i * width + j) .zero
      if d.equal .zero then .zero else x.entry b c i j / d)
  else .error (.tableSize height width divisors.size x.shape.height x.shape.width)

def divideByScalar (d : Binary32) (x : FeatureMap) : Except LoadFault FeatureMap :=
  if d.equal .zero then .error .zeroDivisor
  else .ok (ofFn x.shape fun b c i j => x.entry b c i j / d)

end FeatureMap

namespace Primitive

def step : Primitive → FeatureMap → Except LoadFault FeatureMap
  | pad top bottom left right v, x => x.pad top bottom left right v.value
  | windowSum kernel stride, x => x.slide kernel stride sum
  | windowMax kernel stride, x => x.slide kernel stride maximum
  | divideByMap height width divisors, x => x.divideByMap height width divisors
  | divideByScalar d, x => x.divideByScalar d

def run : List Primitive → FeatureMap → Except LoadFault FeatureMap
  | [], x => .ok x
  | p :: ps, x => do run ps (← p.step x)

end Primitive

end PoolCheck

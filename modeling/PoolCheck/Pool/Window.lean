import PoolCheck.Fault

/-!
# Windows along one dimension

Parameters are 64-bit words and positions are signed, so a word from `2 ^ 63` on stands for a
negative number, and a negative extent is given back as a word. For the parameters that `check`
accepts, below `2 ^ 62`, both readings are the identity.

Window `o` covers `kernel` positions from `o * stride - padding` on. It is cut at the end of the
padded line, and what remains of it on the line itself is what pooling sees. A number on the way
that no word reads as ends the program.
-/

set_option autoImplicit false

namespace PoolCheck

/-- The positions from `start` to before `stop`, and the length before the padding was cut off. -/
structure Window where
  start : Nat
  stop : Nat
  paddedLength : Nat
  deriving DecidableEq, Inhabited

namespace Window

def length (w : Window) : Nat := w.stop - w.start

def isEmpty (w : Window) : Bool := w.length = 0

def positions (w : Window) : List Nat := List.range' w.start w.length

end Window

namespace Axis

def check (op : String) (along : Dimension) (a : Axis) : Except ConfigFault Unit :=
  if a.kernel = 0 then .error (.kernelNotPositive op along)
  else if a.stride = 0 then .error (.strideNotPositive op along)
  else if a.kernel / 2 < a.padding then .error (.paddingTooLarge op along a.padding a.kernel)
  else .ok ()

def span (a : Axis) (input : Nat) : Int :=
  signed input + 2 * signed a.padding - signed a.kernel

def spanFits (a : Axis) (input : Nat) : Bool :=
  let padded := signed input + 2 * signed a.padding
  isReading (2 * signed a.padding) && isReading padded && isReading (a.span input)

def steps (a : Axis) (ceilMode : Bool) (input : Nat) : Int :=
  let s := signed a.stride
  if ceilMode then -((-a.span input).fdiv s) else (a.span input).fdiv s

def stepsFit (a : Axis) (ceilMode : Bool) (input : Nat) : Bool :=
  let n := a.steps ceilMode input
  isReading (n + 1) && (!ceilMode ||
    (isReading (n * signed a.stride) && isReading (signed input + signed a.padding)))

/-- The number of windows. Rounding up adds a window that the padded line does not fill; it is
dropped again when it starts behind the line. -/
def windowCount (a : Axis) (ceilMode : Bool) (input : Nat) : Int :=
  let n := a.steps ceilMode input
  if ceilMode && n * signed a.stride ≥ signed input + signed a.padding then n else n + 1

def extent (a : Axis) (ceilMode : Bool) (input : Nat) : Except ConfigFault Nat :=
  if input = 0 then .error .emptyLine
  else if a.stride = 0 then .error .strideZero
  else if !a.spanFits input then .error .tooLarge
  else if a.span input < 0 then
    .error (.kernelTooLarge (signed a.kernel) (signed input + 2 * signed a.padding))
  else if !a.stepsFit ceilMode input then .error .tooLarge
  else .ok (word (a.windowCount ceilMode input))

def window (a : Axis) (input o : Nat) : Window :=
  let low := signed (o * a.stride) - signed a.padding
  let high := min (low + signed a.kernel) (signed input + signed a.padding)
  let start := max low 0
  ⟨word start, word (max (min high (signed input)) start), word (max (high - low) 0)⟩

def windowFits (a : Axis) (input o : Nat) : Bool :=
  let low := signed (o * a.stride) - signed a.padding
  let behind := signed input + signed a.padding
  o * a.stride < wordLimit && isReading low && isReading (low + signed a.kernel) &&
    isReading behind && isReading (min (low + signed a.kernel) behind - low)

/-- Each window lies further to the right, so the outermost two stand for all of them. -/
def windowsFit (a : Axis) (input count : Nat) : Bool :=
  count = 0 || (a.windowFits input 0 && a.windowFits input (count - 1))

def windows (a : Axis) (input count : Nat) : List Window :=
  (List.range count).map (a.window input)

/-- What has to be added behind the line so that `out` windows end where the padded line does. -/
def trailing (a : Axis) (input out : Nat) : Nat :=
  (out - 1) * a.stride + a.kernel - (input + a.padding)

def trailingFits (a : Axis) (input out : Nat) : Bool :=
  out ≠ 0 && (out - 1) * a.stride + a.kernel < wordLimit && input + a.padding < wordLimit

end Axis

namespace Geometry

def check (op : String) (g : Geometry) : Except ConfigFault Unit := do
  g.rows.check op .height
  g.cols.check op .width

end Geometry

namespace Operator

def check : Operator → Except ConfigFault Unit
  | avg p => do
    p.geometry.check (avg p).kind
    if p.divisorOverride = some 0 then .error .divisorNotPositive else .ok ()
  | max p => p.geometry.check (max p).kind

end Operator

end PoolCheck

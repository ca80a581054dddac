import PoolCheck.Pool.Sequence

/-!
# Parameter spaces

For each family of operators one fixed sequence of parameters to test: square and oblong kernels,
strides below, at and above the kernel, with and without padding, rounding up where a window is
dropped.
-/

set_option autoImplicit false

namespace PoolCheck

inductive Family where
  | avg
  | max
  deriving DecidableEq, Inhabited

namespace Family

def text : Family → String
  | avg => "avg_pool2d"
  | max => "max_pool2d"

def ofText? (s : String) : Option Family :=
  if s = "avg_pool2d" then some avg
  else if s = "max_pool2d" then some max
  else none

def averages : List AvgPool :=
  [ .ofKernel (.square 3),
    ⟨⟨.square 4, .square 2, .square 2, false⟩, true, none⟩,
    ⟨⟨⟨1, 3⟩, .square 1, ⟨0, 1⟩, false⟩, true, none⟩,
    ⟨⟨⟨4, 5⟩, ⟨1, 2⟩, ⟨1, 2⟩, true⟩, false, none⟩,
    ⟨⟨⟨5, 3⟩, ⟨2, 1⟩, .square 1, false⟩, true, none⟩,
    ⟨⟨.square 2, .square 1, .square 0, true⟩, true, none⟩,
    ⟨⟨⟨5, 4⟩, .square 1, .square 2, false⟩, false, some 18⟩,
    ⟨⟨⟨2, 1⟩, ⟨3, 2⟩, ⟨1, 0⟩, true⟩, false, none⟩ ]

def maxima : List MaxPool :=
  [ .ofKernel (.square 3),
    ⟨⟨⟨2, 3⟩, ⟨1, 2⟩, .square 1, true⟩⟩,
    ⟨⟨.square 2, .square 3, .square 1, false⟩⟩,
    ⟨⟨⟨3, 2⟩, .square 1, ⟨1, 0⟩, true⟩⟩,
    ⟨⟨.square 2, ⟨3, 2⟩, ⟨0, 0⟩, true⟩⟩ ]

def operators : Family → List Operator
  | avg => averages.map .avg
  | max => maxima.map .max

def sequence (f : Family) : OperatorSequence where
  operators := f.operators
  nonempty := by cases f <;> simp [operators, averages, maxima]
  valid := by
    cases f <;>
      exact OperatorSequence.check_of_checkFrom (show OperatorSequence.checkFrom 0 _ = _ from rfl)

end Family

end PoolCheck

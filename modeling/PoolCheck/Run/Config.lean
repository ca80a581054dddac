import PoolCheck.Path
import PoolCheck.Pool.Family

/-!
# Configuration of a run

What is tested, on which input, with which converter, and how results are compared.
-/

set_option autoImplicit false

namespace PoolCheck

structure Config where
  name : String
  family : Family
  sequence : Option OperatorSequence
  seed : Nat
  inputShape : Shape
  converter : Path
  timeoutSeconds : Option Nat
  policy : Policy
  workDirectory : Option Path
  keepArtifacts : Bool
  logLevel : String
  deriving DecidableEq

namespace Config

def standard : Config where
  name := "test_avg_pool2d"
  family := .avg
  sequence := none
  seed := 0
  inputShape := [1, 12, 128, 127]
  converter := "op_convert"
  timeoutSeconds := none
  policy := .exact
  workDirectory := none
  keepArtifacts := false
  logLevel := "info"

/-- The operators given, or else the parameter space of the family. -/
def operators (c : Config) : OperatorSequence := c.sequence.getD c.family.sequence

def checkPolicy : Policy → Except ConfigFault Unit
  | .exact => .ok ()
  | .tolerance abs rel =>
    if Binary32.zero.lessOrEqual abs && Binary32.zero.lessOrEqual rel then .ok ()
    else .error (.negativeTolerance abs rel)

def check (c : Config) : Except ConfigFault Unit := do
  if c.name = "" then throw .nameEmpty
  if c.inputShape.length ≠ 4 ∨ 0 ∈ c.inputShape then throw (.inputShape c.inputShape)
  checkPolicy c.policy
  if c.timeoutSeconds = some 0 then throw .timeoutZero

end Config

end PoolCheck

import PoolCheck.Pool.Forward

/-!
# Operator sequences

A sequence is applied to one tensor, each operator to the result of the one before. It has at
least one operator, and every operator in it passes its check, so a run can only fail on shapes.
Shapes are inferred for the whole sequence before anything is computed.
-/

set_option autoImplicit false

namespace PoolCheck

structure OperatorSequence where
  operators : List Operator
  nonempty : operators ≠ []
  valid : ∀ op ∈ operators, op.check = .ok ()
  deriving DecidableEq

namespace OperatorSequence

def checkFrom (step : Nat) : List Operator → Except ConfigFault Unit
  | [] => .ok ()
  | op :: rest =>
    match op.check with
    | .ok () => checkFrom (step + 1) rest
    | .error cause => .error (.atStep step op cause)

theorem check_of_checkFrom {step : Nat} {ops : List Operator}
    (h : checkFrom step ops = .ok ()) : ∀ op ∈ ops, op.check = .ok () := by
  induction ops generalizing step with
  | nil => simp
  | cons op rest ih =>
    simp only [checkFrom] at h
    split at h
    case h_1 heq => exact List.forall_mem_cons.2 ⟨heq, ih h⟩
    case h_2 => cases h

def ofList (ops : List Operator) : Except ConfigFault OperatorSequence :=
  if hne : ops = [] then .error .emptySequence
  else
    match h : checkFrom 0 ops with
    | .ok () => .ok ⟨ops, hne, check_of_checkFrom h⟩
    | .error cause => .error cause

def length (s : OperatorSequence) : Nat := s.operators.length

def shapesFrom (step : Nat) (s : Shape) : List Operator → Except ConfigFault (List Shape)
  | [] => .ok []
  | op :: rest =>
    match op.outputShape s with
    | .ok out => (shapesFrom (step + 1) out rest).map (out :: ·)
    | .error cause => .error (.atShape step op s cause)

def inferShapes (q : OperatorSequence) (s : Shape) : Except ConfigFault (List Shape) :=
  shapesFrom 0 s q.operators

def outputShape (q : OperatorSequence) (s : Shape) : Except ConfigFault Shape :=
  (q.inferShapes s).map fun shapes => shapes.getLastD s

def forwardAll (x : Tensor) : List Operator → Except Fault Tensor
  | [] => .ok x
  | op :: rest => do forwardAll (← op.forward x) rest

def run (q : OperatorSequence) (x : Tensor) : Except Fault Tensor := do
  let _ ← (q.inferShapes x.shape).mapError .configuration
  forwardAll x q.operators

end OperatorSequence

end PoolCheck

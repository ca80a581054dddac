import PoolCheck.Conversion.GraphFile

/-!
# Executing a converted module

The module is loaded with the tensor stored beside it, and run only when that tensor is the input
of the trusted run.
-/

set_option autoImplicit false

namespace PoolCheck

def readModule (fs : FileSystem) (p : Path) : Except LoadFault Module :=
  match fs.readText? p with
  | none => .error (.unreadableModule p)
  | some text =>
    match Module.ofText text with
    | .error _ => .error .malformedModule
    | .ok m => if m.version = formatVersion then .ok m else .error (.moduleVersion m.version)

def loadModule (fs : FileSystem) (a : Artifact) : Except LoadFault LoadedModule := do
  let m ← readModule fs a.modulePath
  let input ← (fs.readTensor a.paramPath).mapError .unreadableParams
  m.load input

def execute (a : Artifact) (input : Tensor) (expected : Shape) (fs : FileSystem) :
    Except Fault Tensor := do
  let m ← (loadModule fs a).mapError .load
  if !m.input.toTensor.equal input then throw (.load .otherInput)
  let candidate ← m.infer.mapError .load
  if candidate.shape ≠ expected then throw (.shapeMismatch expected candidate.shape .candidate)
  pure candidate

end PoolCheck

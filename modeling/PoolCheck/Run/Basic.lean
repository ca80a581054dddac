import PoolCheck.Conversion.Drive
import PoolCheck.Conversion.Export
import PoolCheck.Module.Execution
import PoolCheck.Run.Config
import PoolCheck.Tensor.Random

/-!
# A run

The same operators are applied to the same input twice: by their trusted meaning, and through
export, conversion and execution of the converted module. A run passes when the policy accepts
every pair of elements. The first fault stops it.
-/

set_option autoImplicit false

namespace PoolCheck

structure Report where
  name : String
  operatorCount : Nat
  outputShape : Shape
  verdict : Verdict
  artifacts : Option Path
  deriving DecidableEq

namespace FileSystem

def freshDirectory (fs : FileSystem) : Nat → Nat → Path
  | 0, n => s!"/tmp/op_parity_{n}"
  | fuel + 1, n =>
    let p : Path := s!"/tmp/op_parity_{n}"
    if (fs.find? p).isNone then p else freshDirectory fs fuel (n + 1)

def temporary (fs : FileSystem) : Path := fs.freshDirectory fs.entries.length 0

end FileSystem

namespace Config

def input (c : Config) : Except RandomFault Tensor :=
  Tensor.random .zero .one c.inputShape c.seed

def driver (c : Config) : Driver := ⟨c.converter, c.timeoutSeconds.map (1000 * ·)⟩

/-- From the export to the verdict, in a directory that is there. -/
def compareIn (c : Config) (launcher : Launcher) (input reference : Tensor) (dir : Path) :
    Action Fault Verdict := do
  let exported ← exportGraph c.operators input dir c.name
  let artifact ← (c.driver.drive launcher exported.graphPath exported.inputShape).mapFault
    .conversion
  let candidate ← Action.ask (execute artifact input reference.shape)
  let verdict ← Action.ask fun _ => c.policy.compare reference candidate
  Action.ask fun _ => verdict.settle

def makeWorkDirectory (dir : Path) : Action Fault Unit := fun fs =>
  let (fs', done) := fs.makeDirectories dir
  (if done then .ok () else .error (.conversion (.noWorkDirectory dir)), fs')

def makeTemporary : Action Fault Path := do
  let dir := (← get).temporary
  Action.change (fun fs => (fs.makeDirectory dir).toOption) (.conversion .noTemporaryDirectory)
  pure dir

def eraseDirectory (dir : Path) (fs : FileSystem) : FileSystem :=
  match fs.locate dir with
  | .ok place => fs.eraseTree place
  | .error _ => fs

/-- Provides the directory of a run. A temporary one is erased again unless it is to be kept. -/
def inWorkDirectory (c : Config) (body : Path → Action Fault Verdict) :
    Action Fault (Verdict × Option Path) := do
  match c.workDirectory, c.keepArtifacts with
  | some dir, _ =>
    makeWorkDirectory dir
    pure (← body dir, some dir)
  | none, true =>
    let dir ← makeTemporary
    pure (← body dir, some dir)
  | none, false =>
    let dir ← makeTemporary
    pure (← (body dir).endingWith (eraseDirectory dir), none)

def prepare (c : Config) : Except Fault (Tensor × Tensor) := do
  c.check.mapError .configuration
  let input ← c.input.mapError fun _ => Fault.tensor .tooLarge
  pure (input, ← c.operators.run input)

def run (c : Config) (launcher : Launcher) : Action Fault Report := do
  let (input, reference) ← Action.ask fun _ => c.prepare
  let (verdict, artifacts) ← c.inWorkDirectory (c.compareIn launcher input reference)
  pure ⟨c.name, c.operators.length, reference.shape, verdict, artifacts⟩

end Config

def exitCode : Except Fault Report → Nat
  | .ok report => if report.verdict.passed then 0 else 1
  | .error _ => 1

end PoolCheck

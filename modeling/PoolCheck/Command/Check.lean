import PoolCheck.Command.Options
import PoolCheck.Run.Basic

/-!
# The checker's command line

One line tells whether the run passed, or which stage stopped it. An unusable command line ends
with status two, a run that failed or was not begun with status one.
-/

set_option autoImplicit false

namespace PoolCheck.CheckCommand

structure Outcome where
  status : Nat
  output : String
  deriving DecidableEq

def logLevels : List String := ["off", "error", "warn", "info", "debug", "trace"]

def checkLogLevel (level : String) : Except ConfigFault Unit :=
  if String.ofList (Options.lower level.toList) ∈ logLevels then .ok ()
  else .error (.logLevel level)

/-- The converter to use when no file names one: the one beside this program, if it is there. -/
def standardConverter (fs : FileSystem) (beside : Path) : Path :=
  if fs.isFile beside then beside else Config.standard.converter

def configFor (o : Options) (fs : FileSystem) (beside : Path) : Except ConfigFault Config := do
  let c ← o.toConfig fs (standardConverter fs beside)
  checkLogLevel c.logLevel
  pure c

def outcome : Except Fault Report → Outcome
  | .ok report => ⟨exitCode (.ok report), "PASS " ++ report.name ++ "\n"⟩
  | .error fault =>
    if fault.aborts then ⟨abortStatus, ""⟩
    else ⟨exitCode (.error fault), "FAIL " ++ fault.stage ++ "\n"⟩

def run (args : List String) (beside : Path) (launcher : Launcher) (fs : FileSystem) :
    Outcome × FileSystem :=
  match Options.parse args with
  | .error .unusable => (⟨2, ""⟩, fs)
  | .error .information => (⟨0, ""⟩, fs)
  | .ok o =>
    match configFor o fs beside with
    | .error _ => (⟨1, ""⟩, fs)
    | .ok c =>
      let (result, fs') := c.run launcher fs
      (outcome result, fs')

end PoolCheck.CheckCommand

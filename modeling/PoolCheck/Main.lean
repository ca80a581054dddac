import PoolCheck.Command.Check
import PoolCheck.Script.Launcher

/-!
# The program

With `convert` as first argument the converter's command line, otherwise the checker's. The files
that a run may look at are read, the run is made on them, and what it changed is written back. The
converter of this program and scripts are run inside it.
-/

set_option autoImplicit false

namespace PoolCheck.Main

def installed : Path := "/op_convert"

def location (p : Path) : Location :=
  (p.segments.filter fun s => !Path.isIdle s).map String.ofList

def pathOf (place : Location) : Path := "/" ++ String.intercalate "/" place

def above (place : Location) : List Location :=
  (List.range place.length).map fun n => place.take (n + 1)

def readNode (fs : FileSystem) (p : Path) : IO FileSystem := do
  let full := (← IO.currentDir) / p
  let mut fs := fs
  let place := location full.toString
  for dir in above place do
    if ← ((← IO.currentDir) / pathOf dir).isDir then fs := fs.set dir .directory
  if ← full.pathExists then
    if !(← full.isDir) then fs := fs.set place (.file (← IO.FS.readBinFile full) true)
  return fs

def readDirectory (fs : FileSystem) (p : Path) : IO FileSystem := do
  let full := (← IO.currentDir) / p
  let mut fs ← readNode fs p
  if ← full.isDir then
    for entry in ← full.readDir do
      fs ← readNode fs entry.path.toString
  return fs

/-- The directories in which a run with these arguments finds its files. -/
def directories (args : List String) : List Path :=
  let values := args.map fun a => String.ofList ((a.toList.dropWhile (· ≠ '=')).drop 1)
  ["", "/tmp"] ++ (args ++ values).filterMap Path.parent?

def workDirectory (args : List String) (fs : FileSystem) : List Path :=
  match Options.parse args with
  | .error _ => []
  | .ok o =>
    match o.toConfig fs installed with
    | .ok c => c.workDirectory.toList
    | .error _ => []

def readFiles (args : List String) : IO FileSystem := do
  let start : FileSystem :=
    { entries := Script.Executable.kept, current := (← IO.currentDir).toString }
  let mut fs := start.set (location installed) (.file .empty true)
  for p in directories args do fs ← readDirectory fs p
  for p in workDirectory args fs do fs ← readDirectory fs p
  return fs

def writeFiles (before after : FileSystem) : IO Unit := do
  let base ← IO.currentDir
  for (place, _) in before.entries do
    if (after.node? place).isNone then
      if ← (base / pathOf place).pathExists then IO.FS.removeFile (base / pathOf place)
  for (place, node) in after.entries do
    if before.node? place ≠ some node then
      match node with
      | .directory => IO.FS.createDirAll (base / pathOf place)
      | .void => pure ()
      | .file content _ => IO.FS.writeBinFile (base / pathOf place) content

def convert (args : List String) : IO UInt32 := do
  let fs ← readFiles args
  let (r, after) := ConvertCommand.run args fs
  writeFiles fs after
  if let .error fault := r then IO.eprintln (Fault.conversion fault).text
  return UInt32.ofNat (ConvertCommand.status r)

def check (args : List String) : IO UInt32 := do
  let fs ← readFiles args
  let (o, after) := CheckCommand.run args installed (Script.launcher installed) fs
  writeFiles fs after
  IO.print o.output
  return UInt32.ofNat o.status

end PoolCheck.Main

def main : List String → IO UInt32
  | "convert" :: args => PoolCheck.Main.convert args
  | args => PoolCheck.Main.check args

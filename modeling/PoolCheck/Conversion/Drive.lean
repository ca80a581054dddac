import PoolCheck.Conversion.Argument
import PoolCheck.Conversion.GraphFile

/-!
# Driving a converter

A converter is a program that gets the path of a graph and a shape argument, works in the
directory of the graph, and writes what it has to say to a log. It may do anything with the files.
Converted files of an earlier run are removed before it starts, so what is there afterwards was
made by this run.
-/

set_option autoImplicit false

namespace PoolCheck

structure Invocation where
  program : Path
  arguments : List String
  directory : Path
  log : Path
  /-- In milliseconds. -/
  limit : Option Nat
  deriving DecidableEq

inductive Ending where
  | notStarted
  | exited (status : ExitStatus)
  | timedOut
  deriving DecidableEq

abbrev Launcher := Invocation → FileSystem → Ending × FileSystem

structure Driver where
  converter : Path
  limit : Option Nat
  deriving DecidableEq

/-- A bare name is looked up where programs are kept; any other path is taken from the current
directory. -/
def resolveProgram (fs : FileSystem) (program : Path) : Path :=
  if 1 < program.componentCount then fs.absolute program else program

def logTail (fs : FileSystem) (log : Path) : Option String :=
  match fs.readText? log with
  | none => none
  | some text =>
    let lines := Text.lines text.toList
    let tail := Text.join ['\n'] (lines.drop (lines.length - 20))
    if Text.trim tail = [] then none else some (String.ofList tail)

def removeStale (p : Path) : Action ConversionFault Unit := fun fs =>
  match fs.remove p with
  | .ok fs' => (.ok (), fs')
  | .error .missing => (.ok (), fs)
  | .error .blocked => (.error (.staleArtifact p), fs)

namespace Driver

def invocation (d : Driver) (fs : FileSystem) (graph : Path) (shape : Shape) : Invocation where
  program := resolveProgram fs d.converter
  arguments := [graph, ShapeArgument.format shape]
  directory := (Path.parent? graph).getD "."
  log := graph.withExtension "convert.log"
  limit := d.limit

def collect (i : Invocation) (a : Artifact) (ending : Ending) (fs : FileSystem) :
    Except ConversionFault Artifact :=
  match ending with
  | .notStarted => .error (.notStarted i.program)
  | .timedOut => .error (.timedOut (i.limit.getD 0) (logTail fs i.log))
  | .exited status =>
    if status ≠ .code 0 then .error (.failed status (logTail fs i.log))
    else if !fs.isFile a.modulePath then
      .error (.missingArtifact a.modulePath (logTail fs i.log))
    else if !fs.isFile a.paramPath then
      .error (.missingArtifact a.paramPath (logTail fs i.log))
    else .ok a

def launch (launcher : Launcher) (i : Invocation) : Action ConversionFault Ending := fun fs =>
  let (ending, fs') := launcher i fs
  (.ok ending, fs')

def drive (d : Driver) (launcher : Launcher) (graph : Path) (shape : Shape) :
    Action ConversionFault Artifact := do
  let graph := (← get).absolute graph
  let i := d.invocation (← get) graph shape
  let a ← Action.ask fun _ => convertedPaths graph
  removeStale a.modulePath
  removeStale a.paramPath
  Action.change (·.write? i.log .empty) .noLog
  let ending ← launch launcher i
  Action.ask (collect i a ending)

end Driver

end PoolCheck

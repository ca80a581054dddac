import PoolCheck.Command.Convert
import PoolCheck.Conversion.Drive
import PoolCheck.Script.Schedule

/-!
# Launching converters

A converter is the one of this program, a small program, or a script. A time limit is looked at
every fifty milliseconds, so a converter lives until the first such look that is not before its
limit, and what it leaves running goes on until somebody looks at its end.
-/

set_option autoImplicit false

namespace PoolCheck.Script

def converter : Program := fun c => do
  let (r, fs) := ConvertCommand.run (c.arguments.map Chars.text) (← Program.files)
  Program.setFiles fs
  Program.setStatus (ConvertCommand.status r)

def interval : Nat := 50

def lifetime (limit : Nat) : Nat := (limit + interval - 1) / interval * interval

def nextLook (now : Nat) : Nat := (now / interval + 1) * interval

/-- How many steps a shell takes at most in some milliseconds. -/
def stepsIn (limit : Option Nat) : Nat :=
  match limit with
  | some n => min (20000 + 1000 * n) 2000000
  | none => 2000000

def pause : Int := 10000000

def waitingShell (environment : List (String × Chars)) (descriptors : List (Nat × Nat)) : Shell :=
  { (default : Shell) with
    bindings := environment.map fun (name, value) => (name, .fromOutside value)
    descriptors := descriptors
    mask := 18 }

/-- The session in which a converter runs. Nothing can be read, and what is printed and what is
complained about go to the log. -/
def Session.opening (installed : Installed) (fs : FileSystem) (log : Path)
    (limit : Option Nat) (environment : List (String × Chars)) : Session :=
  let target := match fs.locate log with
    | .ok place => Target.file place
    | .error _ => .void
  { installed
    shell := waitingShell environment [(0, 0), (1, 1), (2, 1)]
    waiting := []
    files := fs.setClock (fs.clock + pause)
    origin := fs.clock + pause
    opened := #[⟨.void, 0, false, true, false, 0⟩, ⟨target, 0, false, false, true, 0⟩]
    documents := #[]
    now := 0
    horizon := 0
    started := []
    living := []
    ended := []
    signals := []
    processes := 1000
    patience := stepsIn limit
    share := stepsIn limit }

/-- How a converter has ended. One that does not end and has no limit is not waited for. -/
def endingOf (limit : Option Nat) : Except Halt Finish → Ending
  | .ok (.exited n) => .exited (.code n)
  | .ok (.killed n) => .exited (.signal n)
  | .error (.killed _ n) => .exited (.signal n)
  | .error .expired => if limit.isSome then .timedOut else .exited (.code 0)
  | .error _ => .exited (.code 2)

def turnLimit : Nat := 4000000

def toEnd (limit : Option Nat) (s : Session) (act : Run Finish) :
    Except Halt Finish × FileSystem :=
  let deadline := match limit with
    | some n => lifetime n * Run.pace
    | none => stepsIn none * Run.pace
  let x := (Schedule.opening s act).upTo deadline turnLimit
  match x.result with
  | none | some (.error .expired) => (.error .expired, x.session.files)
  | some r =>
    let look := nextLook (x.session.now / Run.pace) * Run.pace
    let y := { x with result := none }.upTo look turnLimit
    (r, y.session.files)

def standardEnvironment : List (String × Chars) :=
  [("PATH", standardPath), ("HOME", "/root".toList)]

def startNamed (installed : Installed) (fs : FileSystem) (program : Path)
    (arguments : List String) : Except ExecutionFault Start := do
  let name := Chars.ofString program
  let path ← if name.contains '/' then pure name else searchPath installed fs standardPath name
  start installed fs standardEnvironment path name (arguments.map Chars.ofString)

/-- A launcher under which the converter of this program is at a path of its own. -/
def launcher (installed : Path) : Launcher := fun i fs =>
  let kept : Installed := match fs.locate installed with
    | .ok place => [(place, converter)]
    | .error _ => []
  match fs.locate (fs.absolute i.directory) with
  | .error _ => (.notStarted, fs)
  | .ok place =>
    let inside := { fs with current := "/" ++ String.intercalate "/" place }
    match startNamed kept inside i.program i.arguments with
    | .error _ => (.notStarted, fs)
    | .ok st =>
      if i.limit = some 0 then (.timedOut, fs)
      else
        let session := Session.opening kept inside i.log i.limit standardEnvironment
        let (r, after) := toEnd i.limit session (runStart runTask st)
        (endingOf i.limit r, { after.dropNameless with current := fs.current })

end PoolCheck.Script

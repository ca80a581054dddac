import PoolCheck.Script.Program.Options

/-!
# Other places for files

A file or a directory gets another place in one step. What is there already makes way if it is of
the same kind, and a directory only if it is empty.
-/

set_option autoImplicit false

namespace PoolCheck.Script.Program

/-- The files when something has another place. Its time and its permissions go with it, but a void
stays where it is. -/
def relocated (fs : FileSystem) (here there : Location) : FileSystem :=
  let cleared := fs.eraseTree there
  let moved (place : Location) : Location :=
    if here.isPrefixOf place then there ++ place.drop here.length else place
  let times := cleared.entries.map fun e => (e.1, cleared.time e.1)
  let changed (place : Location) : Bool := place = here.dropLast || place = there.dropLast
  { cleared with
    entries := cleared.entries.map fun e =>
      match e.2 with
      | .void => e
      | n => (moved e.1, n)
    times := (times.filter fun t => !changed t.1).map fun t => (moved t.1, t.2)
    modes := cleared.modes.map fun m => (moved m.1, m.2)
    fitting := by
      intro e he
      obtain ⟨old, hold, rfl⟩ := List.mem_map.1 he
      have hfits := cleared.fitting old hold
      rcases old with ⟨q, _ | _ | _⟩
      · exact .directory
      · exact hfits
      · exact .file }

def relocate (here there : Location) : StateM Effect Unit :=
  modify fun e => { e with
    files := relocated e.files here there
    moved := (here, there) :: e.moved }

/-- Why something cannot get another place: something is there, a directory would be below itself,
what is there cannot make way, or another cause. -/
inductive RenameFault where
  | taken
  | inside
  | held (cause : Chars)
  | other (cause : Chars)

def RenameFault.cause : RenameFault → Chars
  | .taken => text "File exists"
  | .inside => text "Invalid argument"
  | .held cause | .other cause => cause

def notDirectory : Chars := text "Not a directory"

def busy : Chars := text "Device or resource busy"

def isNameless (path : Chars) : Bool :=
  let last := lastName path
  last = [] || last = ['.'] || last = ['.', '.']

def relocation (fs : FileSystem) (replaces : Bool) (source target : Chars) :
    Except RenameFault (Location × Location) := do
  let place (path : Chars) : Except RenameFault Location :=
    match fs.locate (Chars.text (withoutSlashes path)) with
    | .ok p => .ok p
    | .error _ => .error (.other (accessText fs path))
  let here ← place source
  let there ← place target
  let isSlashed := source.getLast? = some '/' || target.getLast? = some '/'
  if isNameless source then .error (.other busy)
  else if isNameless target then .error (if replaces then .other busy else .taken)
  else
    match fs.node? here, fs.node? there with
    | none, _ => .error (.other missingText)
    | some node, old =>
      let isDir := node = .directory
      if fs.node? nullDevice = some .void && here.isPrefixOf nullDevice then .error (.other busy)
      else if old.isSome && !replaces then .error .taken
      else if !isDir && isSlashed then .error (.other notDirectory)
      else if here = there then .ok (here, there)
      else if isDir && here.isPrefixOf there then .error .inside
      else if there.isPrefixOf here then .error (.held (text "Directory not empty"))
      else
        match old with
        | none => .ok (here, there)
        | some .directory =>
          if !isDir then .error (.held (text "Is a directory"))
          else if fs.names there ≠ [] then .error (.held (text "Directory not empty"))
          else .ok (here, there)
        | some _ => if isDir then .error (.other notDirectory) else .ok (here, there)

end PoolCheck.Script.Program

import PoolCheck.Script.Program.Options

/-!
# Programs that remove

Directories are removed with all that is below them only if that is asked for, and the user may be
asked about each thing.
-/

set_option autoImplicit false

namespace PoolCheck.Script.Program

/-! ## Options -/

inductive Asking where
  | never
  | once
  | always
  deriving DecidableEq

structure RemoveSettings where
  recursive : Bool := false
  directories : Bool := false
  verbose : Bool := false
  asking : Option Asking := none
  forgives : Bool := false
  guardsRoot : Bool := true

namespace RemoveSettings

def ask (s : RemoveSettings) : Asking → RemoveSettings
  | .never => { s with asking := some .never }
  | a => { s with asking := some a, forgives := false }

def isShortened (name : String) (arg : Chars) : Bool :=
  3 ≤ arg.length && arg.isPrefixOf name.toList && arg ≠ name.toList

def add (c : Call) (s : RemoveSettings) : String × Option Chars → Settling RemoveSettings
  | ("d", _) => pure { s with directories := true }
  | ("f", _) => pure { s.ask .never with forgives := true }
  | ("i", _) | ("interactive", none) => pure (s.ask .always)
  | ("I", _) => pure (s.ask .once)
  | ("interactive", some arg) => do
    let a ← choose c "--interactive" [("never", Asking.never), ("no", .never), ("none", .never),
      ("once", .once), ("always", .always), ("yes", .always)] arg
    pure (s.ask a)
  | ("no-preserve-root", _) =>
    if c.arguments.any (isShortened "--no-preserve-root") then
      refusing (refuse c (text "you may not abbreviate the --no-preserve-root option"))
    else pure { s with guardsRoot := false }
  | ("preserve-root", arg) =>
    match arg with
    | none => pure { s with guardsRoot := true }
    | some arg =>
      if arg = text "all" then pure { s with guardsRoot := true }
      else refusing (refuse c (text "unrecognized --preserve-root argument: " ++ quotedName arg))
  | ("r", _) | ("R", _) => pure { s with recursive := true }
  | ("v", _) => pure { s with verbose := true }
  | _ => pure s

end RemoveSettings

def rmGrammar : Grammar where
  flags := "dfiIrRv"
  valued := ""
  long := [⟨"force", "f", .nothing⟩, ⟨"interactive", "interactive", .perhaps⟩,
    ⟨"one-file-system", "one-file-system", .nothing⟩,
    ⟨"no-preserve-root", "no-preserve-root", .nothing⟩,
    ⟨"preserve-root", "preserve-root", .perhaps⟩,
    ⟨"-presume-input-tty", "presume-input-tty", .nothing⟩, ⟨"recursive", "r", .nothing⟩,
    ⟨"dir", "d", .nothing⟩, ⟨"verbose", "v", .nothing⟩]
  anywhere := true

/-! ## Removing -/

/-- The path of something below a directory that is walked through. Of the slashes at the end of
the directory one is shown. -/
def walkedPath (path : Chars) : Chars :=
  if 2 < path.length && path.getLast? = some '/' then withoutSlashes path ++ ['/'] else path

structure Removing where
  call : Call
  settings : RemoveSettings

namespace Removing

def fail (r : Removing) (path cause : Chars) : StateM Effect Bool := do
  refuse r.call (text "cannot remove " ++ quotedName path ++ text ": " ++ cause)
  pure true

def asks (r : Removing) (question path : Chars) : StateM Effect Bool :=
  if r.settings.asking = some .always then agrees r.call (question ++ quotedName path)
  else pure true

def take (r : Removing) (path : Chars) (place : Location) (isDir : Bool) :
    StateM Effect Bool := do
  let fs ← files
  if isDir && (place = [] || fs.names place ≠ []) then r.fail path (text "Directory not empty")
  else
    setFiles (fs.erase place)
    let kind := if isDir then "directory " else ""
    if r.settings.verbose then
      print (text ("removed " ++ kind) ++ quotedName path ++ ['\n'])
    pure false

def objection? (r : Removing) (path : Chars) (place : Location) (isEmpty : Bool) :
    Option (StateM Effect Unit) :=
  let s := r.settings
  let last := lastName path
  if !(s.recursive || (s.directories && isEmpty)) then
    some (refuse r.call (text "cannot remove " ++ quotedName path ++
      text (if s.directories then ": Directory not empty" else ": Is a directory")))
  else if last = ['.'] || last = ['.', '.'] then
    some (refuse r.call (text "refusing to remove '.' or '..' directory: skipping " ++
      quotedName path))
  else if place = [] && s.guardsRoot then
    let note := if path = ['/'] then [] else text " (same as '/')"
    some (do
      refuse r.call (text "it is dangerous to operate recursively on " ++ quotedName path ++ note)
      refuse r.call (text "use --no-preserve-root to override this failsafe"))
  else none

/-- Removes what is at a path with all that is below it, up to a depth. The result tells whether the
directories above it are to stay. -/
def remove (r : Removing) : Nat → Chars → StateM Effect Bool
  | 0, _ => pure true
  | n + 1, path => do
    let s := r.settings
    let fs ← files
    let missing (cause : Chars) : StateM Effect Bool :=
      if s.forgives then pure false else r.fail path cause
    match fs.locate (Chars.text path) with
    | .error _ =>
      let cause := accessText fs path
      if cause = text "File name too long" then r.fail path cause else missing cause
    | .ok place =>
      match fs.node? place with
      | none => missing missingText
      | some .directory =>
        let names := fs.names place
        match r.objection? path place names.isEmpty with
        | some refusal => do
          refusal
          pure true
        | none =>
          let question := if names.isEmpty then "remove directory " else "descend into directory "
          let entered ← r.asks (text question) path
          if !entered then pure true
          else if names.isEmpty then r.take path place true
          else
            let kept ← names.filterM fun name => remove r n (below path (Chars.ofString name))
            if !kept.isEmpty then pure true
            else
              let agreed ← r.asks (text "remove directory ") path
              if agreed then r.take path place true else pure false
      | some node => do
        let kind := match node with
          | .file content _ => if content.size = 0 then "regular empty file " else "regular file "
          | _ => "character special file "
        let agreed ← r.asks (text ("remove " ++ kind)) path
        if agreed then r.take path place false else pure false

end Removing

def permitsAll (c : Call) (s : RemoveSettings) (count : Nat) : StateM Effect Bool :=
  if s.asking = some .once && (s.recursive || 3 < count) then
    let noun := if count = 1 then " argument" else " arguments"
    let manner := if s.recursive then " recursively" else ""
    agrees c (text ("remove " ++ toString count ++ noun ++ manner))
  else pure true

def adviseRemoval (c : Call) : StateM Effect Unit := do
  let fs ← files
  let isThere (arg : Chars) : Bool :=
    2 ≤ arg.length && arg.head? = some '-' && (fs.find? (Chars.text arg)).isSome
  match c.arguments.find? isThere with
  | some arg =>
    complain (text "Try '" ++ c.name ++ text " ./" ++ shownName arg ++
      text "' to remove the file " ++ quotedName arg ++ text ".\n")
  | none => pure ()

def rm : Program := fun c => closingInput c <|
  withAdvice (adviseRemoval c) rmGrammar {} (RemoveSettings.add c) c fun s operands => do
    if operands = [] then
      if s.forgives then pure () else misuse c (text "missing operand")
    else
      let permitted ← permitsAll c s operands.length
      if permitted then
        operands.forM fun path => do
          let depth := (← files).entries.length + 2
          let _ ← (⟨c, s⟩ : Removing).remove depth (walkedPath path)

/-! ## Empty directories -/

def emptyDirectory (fs : FileSystem) (path : Chars) : Except Chars Location :=
  match fs.locate (Chars.text path) with
  | .error _ => .error (accessText fs path)
  | .ok place =>
    let last := lastName path
    match fs.node? place with
    | none => .error missingText
    | some .directory =>
      if last = ['.', '.'] then .error (text "Directory not empty")
      else if last = ['.'] then .error (text "Invalid argument")
      else if last = [] then .error (text "Device or resource busy")
      else if fs.names place ≠ [] then .error (text "Directory not empty")
      else .ok place
    | some _ => .error (text "Not a directory")

def removeEmpty (c : Call) (o : Options) (isAbove : Bool) (path : Chars) :
    StateM Effect Bool := do
  if o.has "v" then
    print (c.name ++ text ": removing directory, " ++ quotedName path ++ ['\n'])
  let fs ← files
  match emptyDirectory fs path with
  | .ok place =>
    setFiles (fs.erase place)
    pure true
  | .error cause =>
    let isFull := cause = text "Directory not empty"
    let noun := if isAbove && cause ≠ text "Not a directory" then "directory " else ""
    if !(isFull && o.has "ignore-fail-on-non-empty") then
      refuse c (text ("failed to remove " ++ noun) ++ quotedName path ++ text ": " ++ cause)
    pure false

def pathsAbove : Nat → Chars → List Chars
  | 0, _ => []
  | n + 1, path =>
    if path.contains '/' then
      let up := (path.reverse.dropWhile (· ≠ '/')).reverse
      let shown := withoutSlashes up
      if shown = path then [] else shown :: pathsAbove n shown
    else []

def removeWhile (c : Call) (o : Options) : List Chars → StateM Effect Unit
  | [] => pure ()
  | path :: rest => do
    let isGone ← removeEmpty c o true path
    if isGone then removeWhile c o rest

def rmdirGrammar : Grammar where
  flags := "pv"
  valued := ""
  long := [⟨"ignore-fail-on-non-empty", "ignore-fail-on-non-empty", .nothing⟩,
    ⟨"path", "p", .nothing⟩, ⟨"parents", "p", .nothing⟩, ⟨"verbose", "v", .nothing⟩]
  anywhere := true

def rmdir : Program := fun c => withOptions rmdirGrammar c fun o =>
  if o.operands = [] then misuse c (text "missing operand")
  else
    o.operands.forM fun path => do
      let isGone ← removeEmpty c o false path
      if isGone && o.has "p" then
        removeWhile c o (pathsAbove path.length (withoutSlashes path))

end PoolCheck.Script.Program

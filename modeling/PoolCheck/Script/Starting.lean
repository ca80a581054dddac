import PoolCheck.Script.Subshell

/-!
# Starting programs and shells

What a program has done is taken over by the session, and time passes as it says. A shell that is
started reads its arguments, and runs a text, a file or its input.
-/

set_option autoImplicit false

namespace PoolCheck.Script

open Run

section

variable (self : Task → Run Unit)

/-! ## Programs -/

def placeAfter? (fs : FileSystem) (moved : List (Location × Location)) (place : Location) :
    Option Location :=
  let follow (place : Option Location) (m : Location × Location) : Option Location :=
    match place with
    | some p =>
      if m.2.isPrefixOf p then none
      else if m.1.isPrefixOf p then some (m.2 ++ p.drop m.1.length)
      else some p
    | none => none
  match moved.reverse.foldl follow (some place) with
  | some p =>
    match fs.node? p with
    | some (.file _ _) => some p
    | _ => none
  | none => none

/-- Where the places of open files are now. Those that have lost their names are kept. -/
def placesAfter (before : FileSystem) (moved : List (Location × Location)) :
    FileSystem → List Location → FileSystem × List (Location × Location)
  | fs, [] => (fs, [])
  | fs, place :: rest =>
    let (fs, now) :=
      match placeAfter? fs moved place, before.node? place with
      | none, some (.file content executable) => fs.keepNameless content executable
      | now, _ => (fs, now.getD place)
    let (fs, places) := placesAfter before moved fs rest
    (fs, (place, now) :: places)

def follow (before : FileSystem) (moved : List (Location × Location)) : Run Unit :=
  modify fun s =>
    let open? (f : OpenFile) : Option Location :=
      match f.target with
      | .file place => some place
      | _ => none
    let (fs, places) := placesAfter before moved s.files (s.opened.toList.filterMap open?).eraseDups
    let retarget (f : OpenFile) : OpenFile :=
      match (open? f).bind fun p => places.lookup p with
      | some place => { f with target := .file place }
      | none => f
    { s with files := fs, opened := s.opened.map retarget }

def putOut (fine : Bool) : List (Nat × ByteArray) → Run Delivery
  | [] => pure (if fine then .taken else .refused)
  | (d, bytes) :: rest => do
    match ← deliver d bytes with
    | .taken => putOut fine rest
    | .refused => putOut (fine && d ≠ 1) rest
    | .broken =>
      if Signal.reaction (← shell).traps Signal.ofPipe = .ignored then putOut (fine && d ≠ 1) rest
      else pure .broken

def absorb (name : Chars) (e : Effect) : Run Finish := do
  let before := (← get).files
  let fs := { e.files with current := before.current }
  modify fun s => { s with files := fs }
  if !e.moved.isEmpty || fs.entries.length < before.entries.length then follow before e.moved
  consume 0 e.taken
  if e.output.any fun part => part.1 = 2 then spend complaining
  match ← putOut true e.output.reverse with
  | .broken => pure (.killed Signal.ofPipe)
  | delivery =>
    let fine := match delivery with
      | .taken => true
      | _ => false
    if !fine then
      let _ ← writeChars 2 (name ++ ": write error: Bad file descriptor\n".toList)
    if e.endless then throw .expired
    if e.milliseconds ≠ 0 then elapse e.milliseconds
    pure (.exited (if fine then e.status else 1))

def blockSize : Nat := 4096

def openedOf (files : FileSystem) (f : OpenFile) : Opened :=
  let stream := match f.target with
    | .file place => .file place
    | .directory => .directory
    | .memory _ | .pipe _ => .pipe
    | .void => .void
  ⟨stream, unread? files f⟩

def openedFiles : Run (List (Nat × Opened)) := do
  let s ← get
  pure (s.shell.descriptors.filterMap fun (d, i) =>
    if d < 10 then (s.opened[i]?).map fun f => (d, openedOf s.files f) else none)

def effectOf (p : Program) (st : Start) : Run Effect := do
  present
  let s ← get
  let call : Call := ⟨st.name, st.arguments, st.environment, s.shell.mask, ← openedFiles⟩
  let e := ((p call).run (.start s.files)).2
  match call.descriptors.lookup 0 with
  | some ⟨.pipe, some all⟩ =>
    let blocks := (e.taken + blockSize - 1) / blockSize
    pure { e with taken := min all.size (blocks * blockSize) }
  | _ => pure e

/-- Whether a program hands on its input as it comes. -/
def handsOn (st : Start) : Bool :=
  (Text.split '/' st.name).getLast? = some "cat".toList && st.arguments = []

def handOn (p : Program) (st : Start) (last : Finish) : Run (Finish × Bool) := do
  let rest ← someInput? 0
  if (rest.map ByteArray.size).getD 0 = 0 then pure (last, false)
  else
    let f ← absorb st.name (← effectOf p st)
    pure (f, f = .exited 0)

def runProgram (p : Program) (st : Start) : Run Finish := do
  let e ← effectOf p st
  if !e.reads then absorb st.name e
  else
    let isPiped := match (← openFile? 0).map fun f => f.2.target with
      | some (.memory _) => true
      | _ => false
    if isPiped && handsOn st then repeated (handOn p st) (.exited 0)
    else
      let _ ← input? 0
      absorb st.name (← effectOf p st)

/-! ## Shells that are started -/

def freshShell (name : Chars) (env : List (String × Chars)) (sh : Shell) : Shell where
  process := sh.process
  root := sh.process
  name := name
  caller := none
  line := 0
  reached := 0
  base := 1
  arguments := []
  bindings := env.map fun (name, value) => (name, .fromOutside value)
  locals := []
  depth := 0
  functions := []
  aliases := []
  located := []
  options := []
  descriptors := sh.descriptors
  held := []
  traps := sh.traps.filter fun t => t.2 = [] && t.1 ≠ Signal.ofExit
  status := 0
  outputStatus := 0
  interrupted := none
  loops := 0
  children := []
  latestChild := none
  optionCursor := .start
  mask := sh.mask
  limits := sh.limits
  isNew := false
  ends := false

def standardVariables : List (String × Option Chars × Bool) :=
  [("OPTIND", some ['1'], true), ("PS4", some ['+', ' '], false), ("PS2", some ['>', ' '], false),
    ("PS1", some ['#', ' '], false), ("PATH", some standardPath, false),
    ("MAILPATH", none, false), ("MAIL", none, false), ("IFS", some blanks, true)]

def withStandardVariables (sh : Shell) (parent : Nat) (directory : Chars) : Shell :=
  let isOutside (name : String) : Bool := (sh.stored? name).isSome
  let kept := standardVariables.map fun (name, value, isFixed) =>
    let outside := (sh.stored? name).bind Variable.value
    let value := if isFixed then value else outside.orElse fun _ => value
    (name, ⟨value, isOutside name, false, true⟩)
  let own : List (String × Variable) :=
    [("PPID", ⟨some (numberChars parent), isOutside "PPID", false, false⟩),
      ("PWD", .fromOutside directory)]
  let given := sh.bindings.filter fun v =>
    isName v.1.toList && (standardVariables.lookup v.1).isNone
  own.foldl (fun sh (name, v) => sh.setVariable name v) { sh with bindings := kept ++ given }

/-- What a shell was asked to run by its arguments. A text may be followed by the input. -/
inductive Order where
  | text (cs : Chars) (thenInput : Bool)
  | file (path : Chars)
  | input

def shellOrder (args : List Chars) : Run Order := do
  let (found, rest, _) ← Builtin.setOptions ['c', 'l'] [] (args.length + 1) args
  let takesInput := (← shell).hasOption 's'
  match found.contains 'c', rest with
  | true, [] => faultText "-c requires an argument"
  | true, text :: rest =>
    match rest with
    | [] => pure ()
    | name :: rest => changeShell fun sh => { sh with name := name, arguments := rest }
    pure (.text text takesInput)
  | false, [] =>
    Builtin.setOption 's' true
    pure .input
  | false, path :: rest =>
    if takesInput then
      changeShell fun sh => { sh with arguments := path :: rest }
      pure .input
    else
      changeShell fun sh => { sh with name := path, arguments := rest }
      pure (.file path)

/-- The text of a script. Zeros in it are passed over. -/
def scriptText (content : ByteArray) : Chars := (Chars.ofBytes content).filter (· ≠ '\x00')

def sourceText? (path : Chars) : Run (Option Chars) := do
  match ← openPath (Chars.text path) .read false with
  | .error _ => pure none
  | .ok i =>
    let sh ← shell
    connect 10 i
    let content := (← input? 10).getD .empty
    consume 10 content.size
    changeShell fun inner => { inner with descriptors := sh.descriptors }
    pure (some (scriptText content))

def runInput : Run Unit := do
  let content := (← input? 0).getD .empty
  consume 0 content.size
  self (.text false .script (scriptText content))

def runShell (args : List Chars) : Run Unit := do
  let given := (← shell).name
  match ← shellOrder args with
  | .text cs thenInput =>
    self (.text false .words cs)
    if thenInput then runInput self
  | .input => runInput self
  | .file path =>
    match ← sourceText? path with
    | some cs => self (.text false .script cs)
    | none =>
      changeShell fun sh => { sh with name := given, line := 0 }
      fault ("cannot open ".toList ++ path ++ ": No such file".toList)

def runStart (st : Start) : Run Finish := do
  let s ← get
  match st.action with
  | .program p => do
    spendStart
    spend becoming
    succumb
    changeShell Shell.makeRoom
    let f ← runProgram p st
    spend ending
    lookAtChildren
    pure f
  | .shell =>
    let place := match s.files.locate "." with
      | .ok place => Chars.ofString ("/" ++ String.intercalate "/" place)
      | .error _ => Chars.ofString s.files.current
    let logical := (st.environment.lookup "PWD").filter fun d =>
      d.head? = some '/' && Condition.isSameFile s.files d ['.']
    separately self
      (fun sh => withStandardVariables (freshShell st.name st.environment sh) s.shell.process
        (logical.getD place))
      (do spend becoming; runShell self st.arguments)

end

end PoolCheck.Script

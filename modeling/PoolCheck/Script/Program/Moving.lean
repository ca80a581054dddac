import PoolCheck.Script.Program.Copying

/-!
# The program that moves files

Moving is an attempt to give something another path where nothing may be in the way. If something
is, it is looked at, and the next attempt may replace it.
-/

set_option autoImplicit false

namespace PoolCheck.Script.Program

/-! ## Options -/

/-- Adds an option. That nothing may be replaced goes before what is said about updates. -/
def addMoving (c : Call) (s : CopySettings) : String × Option Chars → Settling CopySettings
  | ("f", _) => pure { s with overwriting := .always }
  | ("n", _) => pure { s with overwriting := .never }
  | ("u", some arg) => if s.overwriting = .never then pure s else s.update c arg
  | ("Z", _) | ("no-copy", _) => pure s
  | option => s.add c option

def mvGrammar : Grammar where
  flags := "bfinuvTZ"
  valued := "tS"
  long := [⟨"backup", "b", .perhaps⟩, ⟨"context", "Z", .nothing⟩, ⟨"debug", "debug", .nothing⟩,
    ⟨"force", "f", .nothing⟩, ⟨"interactive", "i", .nothing⟩, ⟨"no-clobber", "n", .nothing⟩,
    ⟨"no-copy", "no-copy", .nothing⟩, ⟨"no-target-directory", "T", .nothing⟩,
    ⟨"strip-trailing-slashes", "strip-trailing-slashes", .nothing⟩, ⟨"suffix", "S", .value⟩,
    ⟨"target-directory", "t", .value⟩, ⟨"update", "u", .perhaps⟩, ⟨"verbose", "v", .nothing⟩]
  anywhere := true

/-! ## Moving one thing -/

/-- How something is moved. `tracked` tells that more is moved into the same directory, and
`isLast` that nothing comes behind. -/
structure Moving where
  call : Call
  settings : CopySettings
  tracked : Bool
  isLast : Bool

abbrev Mover := StateT (List Location) (StateM Effect)

namespace Moving

def fail (m : Moving) (cause : Chars) : Mover Unit := liftM (refuse m.call cause)

def succeed (m : Moving) (source target : Chars) (backup : Option Chars) (here there : Location) :
    Mover Unit := do
  if here ≠ there then liftM (relocate here there)
  let note := match backup with
    | some b => text " (backup: " ++ quotedName b ++ text ")"
    | none => []
  if m.settings.verbose then
    liftM (print (Copying.between source target "renamed " " -> " "" ++ note ++ ['\n']))
  if !m.isLast then modify (there :: ·)

def refuseRenaming (m : Moving) (source target : Chars) : RenameFault → Mover Unit
  | .inside => m.fail (Copying.between source target "cannot move "
      " to a subdirectory of itself, " "")
  | .held cause => m.fail (text "cannot overwrite " ++ quotedName target ++ text ": " ++ cause)
  | fault => m.fail (Copying.between source target "cannot move " " to " "" ++ text ": " ++
      fault.cause)

def rename (m : Moving) (source target : Chars) (backup : Option Chars) : Mover Unit := do
  match relocation (← liftM files) true source target with
  | .ok (here, there) => m.succeed source target backup here there
  | .error fault => m.refuseRenaming source target fault

def permits (m : Moving) (target : Chars) : Mover Bool := do
  let skip (fails : Bool) : Mover Bool := do
    if m.settings.tellsHow then liftM (print (text "skipped " ++ quotedName target ++ ['\n']))
    if fails then liftM (setStatus 1)
    pure false
  match m.settings.overwriting with
  | .always => pure true
  | .skip => skip false
  | .never =>
    m.fail (text "not replacing " ++ quotedName target)
    pure false
  | .ask =>
    let agreed ← liftM (agreesTo m.call target)
    if agreed then pure true else skip true

def collision? (m : Moving) (fs : FileSystem) (known : List Location) (source target : Chars)
    (here there : Location) : Option Chars :=
  let isDir (p : Location) : Bool := fs.node? p = some .directory
  let keeps := m.settings.backups ≠ .none
  let isFresh := m.tracked && m.settings.backups ≠ .numbered && known.contains there
  if !isDir there && isDir here && !keeps then
    some (Copying.between target source "cannot overwrite non-directory " " with directory " "")
  else if !isDir there && isFresh then
    some (Copying.between target source "will not overwrite just-created " " with " "")
  else if isDir there && !isDir here && !keeps then
    some (text "cannot overwrite directory " ++ quotedName target ++ text " with non-directory")
  else none

def replace (m : Moving) (source target : Chars) (here there : Location) : Mover Unit := do
  let s := m.settings
  let fs ← liftM files
  let isDir := fs.node? here = some .directory
  let decides := s.overwriting = .skip || s.overwriting = .never
  if !decides && here = there then
    m.fail (Copying.between source target "" " and " " are the same file")
  else if s.onlyNewer && s.overwriting ≠ .never && !isDir && fs.time here ≤ fs.time there then
    if s.tellsHow then liftM (print (text "skipped " ++ quotedName target ++ ['\n']))
  else
    let permitted ← m.permits target
    if permitted then
      match m.collision? fs (← get) source target here there with
      | some cause => m.fail cause
      | none =>
        let last := lastName source
        if s.backups ≠ .none && last ≠ ['.'] && last ≠ ['.', '.'] then
          let backup ← liftM (setAside m.call s "moved" source target (.place here))
          if backup.isSome then m.rename source target backup
        else m.rename source target none

def target? (fs : FileSystem) (target : Chars) : Except Chars (Option Location) :=
  match fs.locate (Chars.text (if target = [] then ['.'] else target)) with
  | .ok p => .ok (if (fs.node? p).isSome then some p else none)
  | .error .missing => .ok none
  | .error .blocked => .error (accessText fs target)

def moveAgain (m : Moving) (source target : Chars) (fault : RenameFault) : Mover Unit := do
  let fs ← liftM files
  let cannotStat (path cause : Chars) : Mover Unit :=
    m.fail (text "cannot stat " ++ quotedName path ++ text ": " ++ cause)
  let decides := m.settings.overwriting = .skip || m.settings.overwriting = .never
  let isTaken := match fault with
    | .taken => true
    | _ => false
  if isTaken && decides then let _ ← m.permits target
  else
    match fs.locate (Chars.text source) with
    | .error _ => cannotStat source (accessText fs source)
    | .ok here =>
      if (fs.node? here).isNone then cannotStat source missingText
      else
        match target? fs target with
        | .error cause => cannotStat target cause
        | .ok (some there) => m.replace source target here there
        | .ok none => m.refuseRenaming source target fault

def move (m : Moving) (source target : Chars) : Mover Unit := do
  match relocation (← liftM files) false source target with
  | .ok (here, there) => m.succeed source target none here there
  | .error fault => m.moveAgain source target fault

end Moving

/-! ## The program -/

def completeMoving (c : Call) (s : CopySettings) : Settling CopySettings := do
  if s.withBackup && s.overwriting = .never then
    refusing (misuse c (text "options --backup and --no-clobber are mutually exclusive"))
  let kind ← s.backupKind c
  pure { s with backups := kind, backupSuffix := some (s.suffix c) }

def strippedBy (s : CopySettings) (path : Chars) : Chars :=
  if s.stripsSlashes then withoutSlashes path else path

def moveInto (c : Call) (s : CopySettings) (dir : Chars) (sources : List Chars) :
    StateM Effect Unit := do
  match ← (completeMoving c s).run with
  | .error _ => pure ()
  | .ok s =>
    let all := sources.zipIdx.forM fun (source, i) =>
      let source := strippedBy s source
      let m : Moving := ⟨c, s, 2 ≤ sources.length, i + 1 = sources.length⟩
      m.move source (below dir (lastName source))
    let _ ← all.run []

/-- Moves one thing to a path. The attempt to do so comes before a look at the settings. -/
def moveTo (c : Call) (s : CopySettings) (source target : Chars)
    (attempt : Except RenameFault (Location × Location)) : StateM Effect Unit := do
  match attempt with
  | .ok (here, there) =>
    relocate here there
    match ← (completeMoving c s).run with
    | .error _ => pure ()
    | .ok s =>
      let m : Moving := ⟨c, s, false, true⟩
      let _ ← (m.succeed (strippedBy s source) (strippedBy s target) none there there).run []
  | .error fault =>
    match ← (completeMoving c s).run with
    | .error _ => pure ()
    | .ok s =>
      let m : Moving := ⟨c, s, false, true⟩
      let _ ← (m.moveAgain (strippedBy s source) (strippedBy s target) fault).run []

def moveAll (c : Call) (s : CopySettings) (operands : List Chars) : StateM Effect Unit := do
  let fs ← files
  let isDir (path : Chars) : Bool := fs.isDirectory (Chars.text path)
  match s.directory, operands with
  | _, [] => misuse c (text "missing file operand")
  | some dir, sources =>
    if s.noDirectory then
      refuse c (text ("cannot combine --target-directory (-t) " ++
        "and --no-target-directory (-T)"))
    else if isDir dir then moveInto c s dir sources
    else refuse c (text "target directory " ++ quotedName dir ++ text ": " ++ targetCause fs dir)
  | none, [only] => misuse c (text "missing destination file operand after " ++ quotedName only)
  | none, [source, target] =>
    if s.noDirectory then
      match ← (completeMoving c s).run with
      | .error _ => pure ()
      | .ok s =>
        let m : Moving := ⟨c, s, false, true⟩
        let _ ← (m.move (strippedBy s source) (strippedBy s target)).run []
    else
      match relocation fs false source target with
      | .ok places => moveTo c s source target (.ok places)
      | .error fault =>
        if isDir target then moveInto c s target [source]
        else moveTo c s source target (.error fault)
  | none, operands =>
    let target := operands.getLast?.getD []
    if s.noDirectory then misuse c (text "extra operand " ++ quotedName (operands[2]?.getD []))
    else if isDir target then moveInto c s target operands.dropLast
    else
      refuse c (text "target " ++ quotedName target ++ text ": " ++ targetCause fs target)

def mv : Program := fun c => closingInput c <|
  withSettings mvGrammar {} (addMoving c) c fun s operands => moveAll c s operands

end PoolCheck.Script.Program

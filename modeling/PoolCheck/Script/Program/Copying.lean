import PoolCheck.Script.Program.Renaming

/-!
# The program that copies files

It copies files and directories, keeps or replaces what is in the way, and can take over times and
permissions. Files that would be linked are copied, as there are no links.
-/

set_option autoImplicit false

namespace PoolCheck.Script.Program

/-! ## Settings -/

inductive Overwriting where
  | always
  | ask
  | skip
  | never
  deriving DecidableEq

inductive BackupKind where
  | none
  | simple
  | existing
  | numbered
  deriving DecidableEq

inductive Attribute where
  | mode
  | time
  | context
  | other
  | all
  deriving DecidableEq

inductive Update where
  | all
  | none
  | older
  deriving DecidableEq

inductive When where
  | never
  | auto
  | always
  deriving DecidableEq

structure CopySettings where
  recursive : Bool := false
  contents : Bool := false
  literal : Option Bool := none
  verbose : Bool := false
  tellsHow : Bool := false
  force : Bool := false
  removes : Bool := false
  overwriting : Overwriting := .always
  onlyNewer : Bool := false
  keepsMode : Bool := false
  dropsMode : Bool := false
  keepsTime : Bool := false
  keepsContext : Bool := false
  hardLinks : Bool := false
  symbolicLinks : Bool := false
  attributesOnly : Bool := false
  sparse : When := .auto
  cloning : When := .auto
  withBackup : Bool := false
  backupControl : Option Chars := none
  backupSuffix : Option Chars := none
  backups : BackupKind := .none
  withParents : Bool := false
  stripsSlashes : Bool := false
  directory : Option Chars := none
  noDirectory : Bool := false

namespace CopySettings

def attributes : List (String × Attribute) :=
  [("mode", .mode), ("timestamps", .time), ("ownership", .other), ("links", .other),
    ("context", .context), ("xattr", .other), ("all", .all)]

def attributeNames : List (String × Nat) :=
  (attributes.map Prod.fst).zipIdx

def keep (on : Bool) (s : CopySettings) (a : Attribute) : CopySettings :=
  match a with
  | .mode => { s with keepsMode := on, dropsMode := !on }
  | .time => { s with keepsTime := on }
  | .context => { s with keepsContext := on }
  | .other => s
  | .all => { s with keepsMode := on, dropsMode := !on, keepsTime := on }

def keepList (c : Call) (on : Bool) (s : CopySettings) (arg : Chars) : Settling CopySettings :=
  (Text.split ',' arg).foldlM (fun s name => do
    let i ← choose c (if on then "--preserve" else "--no-preserve") attributeNames name
    pure (match attributes[i]? with
      | some (_, a) => s.keep on a
      | none => s)) s

def keepUsual (s : CopySettings) : CopySettings := { s with keepsMode := true, keepsTime := true }

def update (c : Call) (s : CopySettings) (arg : Chars) : Settling CopySettings := do
  match ← choose c "--update" [("all", Update.all), ("none", .none), ("older", .older)] arg with
  | .all => pure { s with onlyNewer := false, overwriting := .always }
  | .none => pure { s with onlyNewer := false, overwriting := .skip }
  | .older => pure { s with onlyNewer := true, overwriting := .always }

def withDirectory (c : Call) (s : CopySettings) (dir : Chars) : Settling CopySettings :=
  match s.directory with
  | some _ => refusing (refuse c (text "multiple target directories specified"))
  | none => pure { s with directory := some dir }

/-- Tells that skipping may come to mean something else. -/
def skipping (c : Call) (s : CopySettings) : Settling CopySettings := do
  liftM (complain (c.name ++ text (": warning: behavior of -n is non-portable and may change in " ++
    "future; use --update=none instead\n")))
  pure { s with overwriting := .skip }

def add (c : Call) (s : CopySettings) : String × Option Chars → Settling CopySettings
  | ("a", _) => pure { s.keep true .all with recursive := true, literal := some true }
  | ("attributes-only", _) => pure { s with attributesOnly := true }
  | ("b", control) =>
    pure { s with withBackup := true, backupControl := control <|> s.backupControl }
  | ("copy-contents", _) => pure { s with contents := true }
  | ("debug", _) => pure { s with verbose := true, tellsHow := true }
  | ("d", _) | ("P", _) => pure { s with literal := some true }
  | ("f", _) => pure { s with force := true }
  | ("H", _) | ("L", _) => pure { s with literal := some false }
  | ("i", _) => pure { s with overwriting := .ask }
  | ("l", _) => pure { s with hardLinks := true }
  | ("n", _) => s.skipping c
  | ("no-preserve", some arg) => s.keepList c false arg
  | ("preserve", some arg) => s.keepList c true arg
  | ("p", _) | ("preserve", none) => pure s.keepUsual
  | ("parents", _) => pure { s with withParents := true }
  | ("r", _) | ("R", _) => pure { s with recursive := true }
  | ("reflink", none) => pure { s with cloning := .always }
  | ("reflink", some arg) => do
    let w ← choose c "--reflink" [("auto", When.auto), ("always", .always), ("never", .never)] arg
    pure { s with cloning := w }
  | ("remove-destination", _) => pure { s with removes := true }
  | ("sparse", some arg) => do
    let w ← choose c "--sparse" [("never", When.never), ("auto", .auto), ("always", .always)] arg
    pure { s with sparse := w }
  | ("strip-trailing-slashes", _) => pure { s with stripsSlashes := true }
  | ("s", _) => pure { s with symbolicLinks := true }
  | ("S", suffix) => pure { s with withBackup := true, backupSuffix := suffix }
  | ("t", some dir) => s.withDirectory c dir
  | ("T", _) => pure { s with noDirectory := true }
  | ("u", none) => pure { s with onlyNewer := true }
  | ("u", some arg) => s.update c arg
  | ("v", _) => pure { s with verbose := true }
  | ("Z", some _) => do
    liftM (complain (c.name ++
      text ": warning: ignoring --context; it requires an SELinux-enabled kernel\n"))
    pure s
  | _ => pure s

def backupKinds : List (String × BackupKind) :=
  [("none", .none), ("off", .none), ("simple", .simple), ("never", .simple),
    ("existing", .existing), ("nil", .existing), ("numbered", .numbered), ("t", .numbered)]

def backupKind (c : Call) (s : CopySettings) : Settling BackupKind :=
  if !s.withBackup then pure .none
  else
    match s.backupControl, (c.environment.lookup "VERSION_CONTROL").filter (· ≠ []) with
    | some [], none | none, none => pure .existing
    | some (d :: ds), _ => choose c "backup type" backupKinds (d :: ds)
    | _, some control => choose c "$VERSION_CONTROL" backupKinds control

def suffix (c : Call) (s : CopySettings) : Chars :=
  match s.backupSuffix <|> c.environment.lookup "SIMPLE_BACKUP_SUFFIX" with
  | some cs => if cs ≠ [] && !(withoutSlashes cs).contains '/' then cs else ['~']
  | none => ['~']

def complete (c : Call) (s : CopySettings) : Settling CopySettings := do
  if s.hardLinks && s.symbolicLinks then
    refusing (misuse c (text "cannot make both hard and symbolic links"))
  if s.cloning = .always && s.sparse ≠ .auto then
    refusing (misuse c (text "--reflink can be used only with --sparse=auto"))
  let kind ← s.backupKind c
  if s.keepsContext then
    refusing (refuse c
      (text "cannot preserve security context without an SELinux-enabled kernel"))
  pure { s with backups := kind, backupSuffix := some (s.suffix c) }

def isLiteral (s : CopySettings) : Bool := s.literal.getD (s.recursive && !s.hardLinks)

end CopySettings

/-! ## Backups -/

def backupNumber? (name backup : Chars) : Option Nat :=
  match Text.stripFront? (name ++ ['.', '~']) backup with
  | some cs =>
    let ds := cs.dropLast
    if cs.getLast? = some '~' && ds.head?.any (fun d => '1' ≤ d && d ≤ '9') &&
      ds.all Char.isDigit then some (Nat.ofDigitChars 10 ds 0) else none
  | none => none

def backupName (fs : FileSystem) (s : CopySettings) (path : Chars) : Chars :=
  let bare := withoutSlashes path
  let numbers := match fs.locate (Chars.text bare) with
    | .ok place =>
      (fs.names place.dropLast).filterMap fun n =>
        backupNumber? (lastName bare) (Chars.ofString n)
    | .error _ => []
  let numbered := s.backups = .numbered || (s.backups = .existing && numbers ≠ [])
  if numbered then
    bare ++ ['.', '~'] ++ (toString (numbers.foldl max 0 + 1)).toList ++ ['~']
  else bare ++ s.backupSuffix.getD ['~']

def isSame : Entry → Entry → Bool
  | .place p, .place q => p = q
  | .stream d _, .stream e _ => d = e
  | _, _ => false

/-- Gives what is in the way of a source the name of a backup, which is the result. Nothing if it
cannot be done. The participle tells what is to be done to the source. -/
def setAside (c : Call) (s : CopySettings) (participle : String) (source target : Chars)
    (here : Entry) : StateM Effect (Option Chars) := do
  let fs ← files
  let suffix := s.backupSuffix.getD ['~']
  let isOwnBackup := s.backups ≠ .numbered && lastName source = lastName target ++ suffix &&
    (match entry c fs (withoutSlashes target ++ suffix) with
      | .ok e => isSame here e
      | .error _ => false)
  let backup := backupName fs s target
  if isOwnBackup then
    refuse c (text "backing up " ++ quotedName target ++ text " might destroy source;  " ++
      quotedName source ++ text (" not " ++ participle))
    pure none
  else
    match relocation fs true (withoutSlashes target) backup with
    | .ok (place, free) =>
      relocate place free
      pure (some backup)
    | .error fault =>
      refuse c (text "cannot backup " ++ quotedName target ++ text ": " ++ fault.cause)
      pure none

def agreesTo (c : Call) (target : Chars) : StateM Effect Bool :=
  agrees c (text "overwrite " ++ quotedName target)

/-! ## Copying -/

/-- What was copied by one call: the places of the files that were named, the files that were made
of them, and what was made of directories, by name and place. -/
structure CopyMemory where
  sources : List Location
  targets : List Location
  directories : List (Location × Chars × Location)

abbrev Copier := StateT CopyMemory (StateM Effect)

structure Source where
  stream : Option Nat
  isRegular : Bool
  isVoid : Bool
  content : ByteArray
  mode : Nat
  time : Int

/-- How one thing is copied. The names of what the user has named go along. `tracked` tells whether
more than one thing is copied into a directory, and `isNew` that nothing can be in the way. -/
structure Copying where
  call : Call
  settings : CopySettings
  tracked : Bool
  outerSource : Chars
  outerTarget : Chars

namespace Copying

def fail (k : Copying) (cause : Chars) : Copier Unit := liftM (refuse k.call cause)

def between (source target : Chars) (first second : String) (third : String) : Chars :=
  text first ++ quotedName source ++ text second ++ quotedName target ++ text third

def announce (source target : Chars) (backup : Option Chars) : Copier Unit :=
  let note := match backup with
    | some b => text " (backup: " ++ quotedName b ++ text ")"
    | none => []
  liftM (print (quotedName source ++ text " -> " ++ quotedName target ++ note ++ ['\n']))

def makingCause (fs : FileSystem) (target : Chars) : Chars :=
  match fs.locate (Chars.text (withoutSlashes target)) with
  | .ok _ => if target = [] then missingText else text "Not a directory"
  | .error _ => accessText fs target

def sourceOf (k : Copying) (fs : FileSystem) (e : Entry) : Source :=
  match e with
  | .stream d o =>
    ⟨some d, false, false, if d = 0 then .empty else o.input.getD .empty, 0o600, fs.clock⟩
  | .place p =>
    match fs.node? p with
    | some (.file content _) => ⟨none, true, false, content, fs.mode p, fs.time p⟩
    | _ =>
      ⟨none, false, k.settings.recursive && !k.settings.contents, .empty, fs.mode p, fs.time p⟩

def manner (s : CopySettings) (x : Source) : String :=
  if s.sparse = .never || s.cloning = .never then
    "copy offload: avoided, reflink: no, sparse detection: no\n"
  else if !x.isRegular then
    "copy offload: unsupported, reflink: unsupported, sparse detection: no\n"
  else if s.sparse = .always then
    "copy offload: avoided, reflink: unsupported, sparse detection: zeros\n"
  else if x.content.size = 0 then
    "copy offload: unknown, reflink: unsupported, sparse detection: no\n"
  else "copy offload: yes, reflink: unsupported, sparse detection: no\n"

def finish (k : Copying) (x : Source) (place : Location) (isNew : Bool) : Copier Unit := do
  let s := k.settings
  let fs ← liftM files
  let mode :=
    if s.keepsMode || s.hardLinks then some x.mode
    else if !isNew then none
    else if s.dropsMode then some (0o666 - (0o666 &&& k.call.mask))
    else some ((x.mode &&& 0o777) - (x.mode &&& 0o777 &&& k.call.mask))
  let fs := match mode, fs.node? place with
    | some m, some (.file _ _) => fs.setMode place m
    | _, _ => fs
  liftM (setFiles (if s.keepsTime || s.hardLinks then fs.setTime place x.time else fs))

def putFile (k : Copying) (x : Source) (source target : Chars) (there : Option Entry) :
    Copier Unit := do
  let s := k.settings
  let input ← if x.stream = some 0 then liftM (takeInput k.call) else pure none
  let content := if s.attributesOnly then .empty else input.getD x.content
  let clones := s.cloning = .always && !s.attributesOnly
  let fs ← liftM files
  let noClone : Copier Unit :=
    k.fail (between target source "failed to clone " " from " ": Operation not supported")
  match there with
  | some (.stream d _) => if clones then noClone else liftM (give d content)
  | some (.place place) =>
    match fs.node? place with
    | some (.file old executable) =>
      let content := if s.attributesOnly then old else if clones then .empty else content
      if !s.attributesOnly then liftM (setFiles (fs.set place (.file content executable)))
      if clones then noClone else k.finish x place false
    | _ => if clones then noClone
  | none =>
    match fs.locate (Chars.text target), fs.write? (Chars.text target) content with
    | .ok place, some fs =>
      if clones then noClone
      else
        liftM (setFiles fs)
        k.finish x place true
    | _, _ =>
      k.fail (text "cannot create regular file " ++ quotedName target ++ text ": " ++
        makingCause fs target)
  let isLink := s.hardLinks || s.symbolicLinks
  if s.tellsHow && !clones && !isLink && !s.attributesOnly then liftM (print (text (manner s x)))

def refuseVoid (k : Copying) (target : Chars) (there : Option Entry) : Copier Unit := do
  let fs ← liftM files
  let cause := match there, fs.locate (Chars.text target) with
    | some _, _ => text "File exists"
    | none, .ok _ => text "Operation not permitted"
    | none, .error _ => accessText fs target
  k.fail (text "cannot create special file " ++ quotedName target ++ text ": " ++ cause)

def isHere (fs : FileSystem) (path : Chars) : Bool :=
  let dir := (withoutSlashes path).reverse.dropWhile (· ≠ '/')
  match fs.locate ".", fs.locate (Chars.text (withoutSlashes dir.reverse)) with
  | .ok here, .ok place => dir = [] || place = here
  | _, _ => true

def putLink (k : Copying) (x : Source) (source target : Chars) (there : Option Entry) :
    Copier Unit := do
  let fs ← liftM files
  let s := k.settings
  let kind := if s.symbolicLinks then "symbolic" else "hard"
  let replaces := s.force || (s.hardLinks && s.overwriting = .ask)
  if s.symbolicLinks && source.head? ≠ some '/' && !isHere fs target then
    k.fail (shownName target ++
      text ": can make relative symbolic links only in current directory")
  else if there.isSome && !replaces then
    k.fail (between target source ("cannot create " ++ kind ++ " link ") " to " ": File exists")
  else k.putFile x source target there

/-! ## What is in the way -/

inductive Verdict where
  | refuse (cause : Chars)
  | skip (fails : Bool)
  | pass

def isDirectoryEntry (fs : FileSystem) : Entry → Bool
  | .place p => fs.node? p = some .directory
  | .stream _ o =>
    match o.stream with
    | .directory => true
    | _ => false

def entryTime (fs : FileSystem) : Entry → Int
  | .place p => fs.time p
  | .stream _ _ => fs.clock

def objection? (k : Copying) (fs : FileSystem) (source target : Chars) (here there : Entry) :
    Option Verdict :=
  let s := k.settings
  let isDir := isDirectoryEntry fs here
  if s.overwriting ≠ .skip && isSame here there then
    if s.hardLinks then some (.skip false)
    else some (.refuse (between source target "" " and " " are the same file"))
  else if s.onlyNewer && !isDir && entryTime fs here ≤ entryTime fs there then some (.skip false)
  else if !isDir && s.overwriting = .skip then some (.skip false)
  else none

/-- What speaks against replacing something by what is to be copied. -/
def collision (k : Copying) (fs : FileSystem) (source target : Chars) (isOuter : Bool)
    (known : List Location) (here there : Entry) : Verdict :=
  let isDir := isDirectoryEntry fs here
  let isFresh : Bool := match there with
    | .place p => isOuter && k.tracked && k.settings.backups ≠ .numbered && known.contains p
    | .stream _ _ => false
  if isDirectoryEntry fs there then
    if isDir then .pass
    else .refuse (text "cannot overwrite directory " ++ quotedName target ++
      text " with non-directory")
  else if isDir then
    .refuse (between target source "cannot overwrite non-directory " " with directory " "")
  else if isFresh then
    .refuse (between target source "will not overwrite just-created " " with " "")
  else .pass

def judge (k : Copying) (source target : Chars) (isOuter : Bool) (here there : Entry) :
    Copier Verdict := do
  let fs ← liftM files
  match k.objection? fs source target here there with
  | some v => pure v
  | none =>
    let asks := !isDirectoryEntry fs here && k.settings.overwriting = .ask
    let agreed ← if asks then liftM (agreesTo k.call target) else pure true
    if agreed then
      pure (k.collision fs source target isOuter (← get).targets here there)
    else pure (.skip true)

/-- Takes what is in the way out of it, if that is wanted. Gives what is left in the way, and the
name of a backup. Nothing if it cannot be done. -/
def clear (k : Copying) (x : Source) (source target : Chars) (here there : Entry) :
    Copier (Option (Option Entry × Option Chars)) := do
  let s := k.settings
  let fs ← liftM files
  let last := lastName source
  match there with
  | .stream _ _ => pure (some (some there, none))
  | .place p =>
    if s.backups ≠ .none && last ≠ ['.'] && last ≠ ['.', '.'] then
      let backup ← liftM (setAside k.call s "copied" source target here)
      pure (backup.map fun b => (none, some b))
    else if s.removes || (!s.attributesOnly && s.isLiteral && !x.isRegular) then
      liftM (setFiles (fs.erase p))
      if s.verbose then liftM (print (text "removed " ++ quotedName target ++ ['\n']))
      pure (some (none, none))
    else pure (some (some there, none))

/-! ## Files and directories -/

def target? (k : Copying) (target : Chars) (isNew : Bool) :
    Copier (Except Chars (Option Entry)) := do
  let fs ← liftM files
  if isNew then pure (.ok none)
  else
    match entry k.call fs target with
    | .ok (.place p) => pure (.ok (if (fs.node? p).isSome then some (.place p) else none))
    | .ok e => pure (.ok (some e))
    | .error .missing => pure (.ok none)
    | .error .blocked => pure (.error (accessText fs target))

def copyFile (k : Copying) (source target : Chars) (here : Entry) (isOuter isNew : Bool) :
    Copier Unit := do
  let s := k.settings
  let place := match here with
    | .place p => some p
    | .stream _ _ => none
  let m ← get
  if isOuter && k.tracked && s.backups = .none && place.any m.sources.contains then
    liftM (complain (k.call.name ++ text ": warning: source file " ++ quotedName source ++
      text " specified more than once\n"))
  else
    if isOuter then modify fun m => { m with sources := place.toList ++ m.sources }
    match ← k.target? target isNew with
    | .error cause => k.fail (text "cannot stat " ++ quotedName target ++ text ": " ++ cause)
    | .ok there =>
      let verdict ← match there with
        | some e => k.judge source target isOuter here e
        | none => pure .pass
      match verdict with
      | .refuse cause => k.fail cause
      | .skip fails =>
        if s.tellsHow then liftM (print (text "skipped " ++ quotedName target ++ ['\n']))
        if fails then liftM (setStatus 1)
      | .pass =>
        let x := k.sourceOf (← liftM files) here
        let cleared ← match there with
          | some e => k.clear x source target here e
          | none => pure (some (none, none))
        match cleared with
        | none => pure ()
        | some (there, backup) =>
          if s.verbose then announce source target backup
          if s.symbolicLinks || s.hardLinks then k.putLink x source target there
          else if x.isVoid && !x.isRegular then k.refuseVoid target there
          else k.putFile x source target there
          if isOuter then
            match (← liftM files).locate (Chars.text target) with
            | .ok p => modify fun m => { m with targets := p :: m.targets }
            | .error _ => pure ()

def makeDirectory (k : Copying) (source target : Chars) (mode : Nat) : Copier Bool := do
  let fs ← liftM files
  match fs.makeDirectory (Chars.text target), fs.locate (Chars.text (withoutSlashes target)) with
  | .ok made, .ok place =>
    let allowed := (mode &&& 0o1777) - (mode &&& 0o777 &&& k.call.mask)
    liftM (setFiles (made.setMode place (allowed ||| (fs.mode place.dropLast &&& 0o2000))))
    if k.settings.verbose then announce source target none
    pure true
  | _, _ =>
    k.fail (text "cannot create directory " ++ quotedName target ++ text ": " ++
      accessText fs target)
    pure false

def remember (place : Location) (target : Chars) : Copier (Option (Chars × Location)) := do
  let m ← get
  let fs ← liftM files
  match m.directories.lookup place, fs.locate (Chars.text (withoutSlashes target)) with
  | some e, _ => pure (some e)
  | none, .ok there => do
    set { m with directories := (place, target, there) :: m.directories }
    pure none
  | none, .error _ => pure none

/-- Copies what is below a directory. Each step gives whether a directory was found to be copied
into itself, which ends it. -/
def untilInside (step : Chars → Copier Bool) : List Chars → Copier Bool
  | [] => pure false
  | name :: names => do
    if ← step name then pure true else untilInside step names

/-- Copies a directory with all that is below it, for which `next` is. `before` are the files as
they were before. -/
def copyInside (k : Copying) (next : Bool → Bool → Chars → Chars → Copier Bool)
    (before : FileSystem) (here : Location) (made isNew : Bool) (source target : Chars) :
    Copier Bool := do
  let mode := before.mode here
  let time := before.time here
  let isThere ← if isNew then k.makeDirectory source target mode else pure true
  if !isThere then pure false
  else
    let there := ((← liftM files).locate (Chars.text (withoutSlashes target))).toOption
    if isNew && !made then
      match there with
      | some place => let _ ← remember place target
      | none => pure ()
    let names := ((← liftM files).names here).map Chars.ofString
    let inside ← untilInside (fun name =>
      next (made || isNew) isNew (below source name) (below target name)) names
    match there with
    | some place =>
      let fs ← liftM files
      let fs := if k.settings.keepsMode then fs.setMode place mode else fs
      liftM (setFiles (if k.settings.keepsTime then fs.setTime place time else fs))
    | none => pure ()
    pure inside

/-- Copies what a path leads to. `made` tells that a directory was made for the path that the user
has named. The result is whether a directory was to be copied into itself. -/
def copy (k : Copying) : Nat → Bool → Bool → Bool → Chars → Chars → Copier Bool
  | 0, _, _, _, _, _ => pure false
  | n + 1, isOuter, made, isNew, source, target => do
    let s := k.settings
    let fs ← liftM files
    let cannotStat (cause : Chars) : Copier Bool := do
      k.fail (text "cannot stat " ++ quotedName source ++ text ": " ++ cause)
      pure false
    match entry k.call fs source with
    | .error _ => cannotStat (accessText fs source)
    | .ok (.stream d o) => do
      k.copyFile source target (.stream d o) isOuter isNew
      pure false
    | .ok (.place here) =>
      match fs.node? here with
      | none => cannotStat missingText
      | some .void | some (.file _ _) => do
        k.copyFile source target (.place here) isOuter isNew
        pure false
      | some .directory =>
        if !s.recursive then
          k.fail (text "-r not specified; omitting directory " ++ quotedName source)
          pure false
        else
          match ← k.target? target isNew with
          | .error cause =>
            k.fail (text "cannot stat " ++ quotedName target ++ text ": " ++ cause)
            pure false
          | .ok there =>
            let verdict ← match there with
              | some e => k.judge source target isOuter (.place here) e
              | none => pure .pass
            match verdict with
            | .refuse cause => k.fail cause; pure false
            | .skip _ => pure false
            | .pass =>
              let m ← get
              let earlier ← if isOuter then remember here target
                else pure (m.directories.lookup here)
              let places := (fs.locate (Chars.text (withoutSlashes target))).toOption
              match earlier with
              | some (name, place) =>
                if place = here then
                  k.fail (between k.outerSource k.outerTarget "cannot copy a directory, "
                    ", into itself, " "")
                  pure true
                else if places = some place then
                  liftM (complain (k.call.name ++ text ": warning: source directory " ++
                    quotedName k.outerSource ++ text " specified more than once\n"))
                  pure false
                else if s.literal = some false then
                  k.copyInside (copy k n false) fs here made there.isNone source target
                else
                  k.fail (between target name "will not create hard link " " to directory " "")
                  pure false
              | none => k.copyInside (copy k n false) fs here made there.isNone source target

end Copying

/-! ## Parents -/

/-- Makes the directories along the way to a copy, as they are along the way to the source. The
result is their paths with those of the source, or nothing if it cannot be done. `sofar` is the
part of the source that was walked. -/
def makeParents (k : Copying) (dir sofar : Chars) :
    List Chars → Copier (Option (List (Chars × Chars)))
  | [] | [_] => pure (some [])
  | s :: rest => do
    let path := sofar ++ s
    if s = [] then makeParents k dir (path ++ ['/']) rest
    else
      let fs ← liftM files
      let target := below dir path
      let onward : Copier (Option (List (Chars × Chars))) := do
        pure ((← makeParents k dir (path ++ ['/']) rest).map ((path, target) :: ·))
      let isThere := (fs.find? (Chars.text target)).isSome
      let isKept := k.settings.keepsMode || k.settings.keepsTime
      if (!isThere || isKept) && !fs.isDirectory (Chars.text path) then
        let cause := if (fs.find? (Chars.text path)).isSome then text "Not a directory"
          else accessText fs path
        k.fail (text "failed to get attributes of " ++ quotedName path ++ text ": " ++ cause)
        pure none
      else if !isThere then
        match fs.makeDirectory (Chars.text target), fs.locate (Chars.text target),
          fs.locate (Chars.text path) with
        | .ok made, .ok place, .ok here =>
          let mode := fs.mode here
          liftM (setFiles (made.setMode place
            ((mode &&& 0o1777) - (mode &&& 0o777 &&& k.call.mask))))
          if k.settings.verbose then liftM (print (path ++ text " -> " ++ target ++ ['\n']))
          onward
        | _, _, _ =>
          k.fail (text "cannot make directory " ++ quotedName target ++ text ": " ++
            accessText fs target)
          pure none
      else if !fs.isDirectory (Chars.text target) then
        k.fail (quotedName target ++ text " exists but is not a directory")
        pure none
      else onward

def settleParents (k : Copying) (pairs : List (Chars × Chars)) : Copier Unit :=
  pairs.reverse.forM fun (path, target) => do
    let fs ← liftM files
    match fs.locate (Chars.text path), fs.locate (Chars.text target) with
    | .ok here, .ok place =>
      let fs := if k.settings.keepsMode then fs.setMode place (fs.mode here) else fs
      liftM (setFiles (if k.settings.keepsTime then fs.setTime place (fs.time here) else fs))
    | _, _ => pure ()

/-! ## The program -/

def copyDepth : Nat := 50

def copyInto (c : Call) (s : CopySettings) (tracked : Bool) (dir source : Chars) :
    Copier Unit := do
  let source := if s.stripsSlashes then withoutSlashes source else source
  if s.withParents then
    let target := below dir (withoutSlashes source)
    let k : Copying := ⟨c, s, tracked, source, target⟩
    let fs ← liftM files
    let above := withoutSlashes (target.reverse.dropWhile (· ≠ '/')).reverse
    let pairs ←
      if fs.isDirectory (Chars.text above) then pure (some [])
      else if (fs.find? (Chars.text above)).isSome then do
        k.fail (quotedName above ++ text " exists but is not a directory")
        pure none
      else makeParents k dir [] (Text.split '/' (withoutSlashes source))
    match pairs with
    | none => pure ()
    | some pairs =>
      let _ ← k.copy copyDepth true false false source target
      settleParents k pairs
  else
    let name := lastName source
    let target := below dir (if name = ['.', '.'] then ['.'] else name)
    let k : Copying := ⟨c, s, tracked, source, target⟩
    let _ ← k.copy copyDepth true false false source target

/-- Copies one thing to a path. A forced backup of a file on itself is a copy. -/
def copyTo (c : Call) (s : CopySettings) (source target : Chars) : Copier Unit := do
  let fs ← liftM files
  let isNew := match fs.locate (Chars.text target) with
    | .ok p => (fs.node? p).isNone
    | .error .missing => true
    | .error .blocked => false
  let isFile := fs.isFile (Chars.text target)
  let (s, target) :=
    if s.force && s.backups ≠ .none && source = target && isFile then
      ({ s with backups := .none }, backupName fs s target)
    else (s, target)
  let _ ← Copying.copy ⟨c, s, false, source, target⟩ copyDepth true false
    (isNew && (namedDescriptor? (Chars.text target)).isNone) source target

def targetCause (fs : FileSystem) (target : Chars) : Chars :=
  if (fs.find? (Chars.text target)).isSome then text "Not a directory" else accessText fs target

def copyAll (c : Call) (s : CopySettings) (operands : List Chars) : StateM Effect Unit := do
  let fs ← files
  let run (act : Copier Unit) : StateM Effect Unit := do
    let _ ← act.run ⟨[], [], []⟩
  let into (dir : Chars) (sources : List Chars) : StateM Effect Unit :=
    run (sources.forM (copyInto c s (2 ≤ sources.length) dir))
  let whole (source target : Chars) : StateM Effect Unit :=
    if s.withParents then
      misuse c (text "with --parents, the destination must be a directory")
    else run (copyTo c s source target)
  match s.directory, operands with
  | _, [] => misuse c (text "missing file operand")
  | some dir, sources =>
    if s.noDirectory then
      refuse c (text ("cannot combine --target-directory (-t) " ++
        "and --no-target-directory (-T)"))
    else if fs.isDirectory (Chars.text dir) then into dir sources
    else refuse c (text "target directory " ++ quotedName dir ++ text ": " ++ targetCause fs dir)
  | none, [only] => misuse c (text "missing destination file operand after " ++ quotedName only)
  | none, [source, target] =>
    if !s.noDirectory && fs.isDirectory (Chars.text target) then into target [source]
    else whole source target
  | none, operands =>
    let target := operands.getLast?.getD []
    if s.noDirectory then misuse c (text "extra operand " ++ quotedName (operands[2]?.getD []))
    else if fs.isDirectory (Chars.text target) then into target operands.dropLast
    else
      refuse c (text "target " ++ quotedName target ++ text ": " ++ targetCause fs target)

def cpGrammar : Grammar where
  flags := "abdfHilLnprsuvxPRTZ"
  valued := "tS"
  long := [⟨"archive", "a", .nothing⟩, ⟨"attributes-only", "attributes-only", .nothing⟩,
    ⟨"backup", "b", .perhaps⟩, ⟨"copy-contents", "copy-contents", .nothing⟩,
    ⟨"debug", "debug", .nothing⟩, ⟨"dereference", "L", .nothing⟩, ⟨"force", "f", .nothing⟩,
    ⟨"interactive", "i", .nothing⟩, ⟨"link", "l", .nothing⟩, ⟨"no-clobber", "n", .nothing⟩,
    ⟨"no-dereference", "P", .nothing⟩, ⟨"no-preserve", "no-preserve", .value⟩,
    ⟨"no-target-directory", "T", .nothing⟩, ⟨"one-file-system", "x", .nothing⟩,
    ⟨"parents", "parents", .nothing⟩, ⟨"preserve", "preserve", .perhaps⟩,
    ⟨"recursive", "R", .nothing⟩, ⟨"remove-destination", "remove-destination", .nothing⟩,
    ⟨"reflink", "reflink", .perhaps⟩, ⟨"sparse", "sparse", .value⟩,
    ⟨"strip-trailing-slashes", "strip-trailing-slashes", .nothing⟩, ⟨"suffix", "S", .value⟩,
    ⟨"symbolic-link", "s", .nothing⟩, ⟨"target-directory", "t", .value⟩,
    ⟨"update", "u", .perhaps⟩, ⟨"verbose", "v", .nothing⟩, ⟨"context", "Z", .perhaps⟩]
  anywhere := true

def cp : Program := fun c => closingInput c <|
  withSettings cpGrammar {} (CopySettings.add c) c fun s operands => do
    match ← (s.complete c).run with
    | .ok s => copyAll c s operands
    | .error _ => pure ()

end PoolCheck.Script.Program

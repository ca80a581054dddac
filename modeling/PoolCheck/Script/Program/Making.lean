import PoolCheck.Script.Date.Reader
import PoolCheck.Script.Mode
import PoolCheck.Script.Program.Options

/-!
# Programs that make files

They make directories and empty files, and set times and permissions. The clock of the files is at
zero at a certain time, to which dates relate.
-/

set_option autoImplicit false

namespace PoolCheck.Script.Program

/-! ## Directories -/

/-- The permissions of new directories: changes, if any were asked for, and the mask. -/
structure DirectoryMode where
  changes : Option (List ModeChange)
  mask : Nat

namespace DirectoryMode

/-- The group of a directory goes to what is made in it, unless that is said otherwise. -/
def inherited (fs : FileSystem) (place : Location) : Nat := fs.mode place.dropLast &&& 0o2000

def above (m : DirectoryMode) (fs : FileSystem) (place : Location) : Nat :=
  ModeChange.without 0o777 (ModeChange.without m.mask 0o300) ||| inherited fs place

def last (m : DirectoryMode) (fs : FileSystem) (place : Location) : Nat :=
  match m.changes with
  | none => ModeChange.without 0o777 m.mask ||| inherited fs place
  | some ms =>
    let isSaid := ms.any fun x => x.named &&& 0o2000 ≠ 0
    ModeChange.applyAll true m.mask 0o777 ms ||| (if isSaid then 0 else inherited fs place)

end DirectoryMode

def tell (c : Call) (o : Options) (name : Chars) : StateM Effect Unit :=
  if o.has "v" then print (c.name ++ text ": created directory " ++ quoted name ++ ['\n'])
  else pure ()

def cannotMake (c : Call) (name cause : Chars) : StateM Effect Unit :=
  refuse c (text "cannot create directory " ++ quoted name ++ text ": " ++ cause)

def withDirectory? (fs : FileSystem) (path : Chars)
    (mode : FileSystem → Location → Nat) : Option FileSystem :=
  match fs.makeDirectory (Chars.text path), fs.locate (Chars.text (withoutSlashes path)) with
  | .ok made, .ok place => some (made.setMode place (mode fs place))
  | _, _ => none

def makeAlong (c : Call) (o : Options) (m : DirectoryMode) (sofar : Chars) :
    List Chars → StateM Effect Unit
  | [] => pure ()
  | s :: rest => do
    let path := sofar ++ s
    let fs ← files
    let isLast := rest.all fun r => r = []
    if s = [] then makeAlong c o m (sofar ++ ['/']) rest
    else
      match fs.find? (Chars.text path) with
      | some .directory => makeAlong c o m (path ++ ['/']) rest
      | some _ => cannotMake c path (text (if isLast then "File exists" else "Not a directory"))
      | none =>
        match withDirectory? fs path (if isLast then m.last else m.above) with
        | some fs =>
          setFiles fs
          tell c o path
          makeAlong c o m (path ++ ['/']) rest
        | none => cannotMake c path (accessText fs path)

def makeOne (c : Call) (o : Options) (m : DirectoryMode) (name : Chars) :
    StateM Effect Unit := do
  let fs ← files
  let bare := withoutSlashes name
  if name = [] then cannotMake c name missingText
  else if o.has "p" then makeAlong c o m [] (Text.split '/' name)
  else
    match withDirectory? fs bare m.last with
    | some fs => setFiles fs; tell c o name
    | none =>
      if (fs.find? (Chars.text bare)).isSome then cannotMake c name (text "File exists")
      else cannotMake c name (accessText fs bare)

def mkdirGrammar : Grammar where
  flags := "pvZ"
  valued := "m"
  long := [⟨"context", "Z", .perhaps⟩, ⟨"mode", "m", .value⟩, ⟨"parents", "p", .nothing⟩,
    ⟨"verbose", "v", .nothing⟩]
  anywhere := true

def mkdirOption (c : Call) (o : Options) (g : String × Option Chars) : Settling Options := do
  if g.1 = "Z" && g.2.isSome then
    liftM (complain (c.name ++
      text ": warning: ignoring --context; it requires an SELinux/SMACK-enabled kernel\n"))
  pure (o.add g.1 g.2)

def mkdir : Program := fun c =>
  withSettings mkdirGrammar .none (mkdirOption c) c fun o operands =>
    if operands = [] then misuse c (text "missing operand")
    else
      match (o.value? "m").map fun arg => (arg, ModeChange.list? arg) with
      | some (arg, none) => refuse c (text "invalid mode " ++ quoted arg)
      | some (_, some ms) => operands.forM (makeOne c o ⟨some ms, c.mask⟩)
      | none => operands.forM (makeOne c o ⟨none, c.mask⟩)

/-! ## Times -/

/-- The time, in seconds, at which the clock of the files is at zero. -/
def beginning : Int := 1795064400

def timeRange : Int × Int := (-2147483648, 15032385535)

def storable (t : Int) : Int :=
  let s := max timeRange.1 (min timeRange.2 (t / Date.second))
  if timeRange.1 < s && s < timeRange.2 then t else s * Date.second

def onClock (t : Int) : Int := storable t - beginning * Date.second

def ofClock (t : Int) : Int := t + beginning * Date.second

structure TimeSettings where
  accessOnly : Bool
  modified : Bool
  create : Bool
  direct : Bool
  date : Option Chars
  stamp : Option Int
  reference : Option Chars

namespace TimeSettings

def start : TimeSettings := ⟨false, false, true, false, none, none, none⟩

def words : List (String × Bool) :=
  [("atime", true), ("access", true), ("use", true), ("mtime", false), ("modify", false)]

def only (s : TimeSettings) (isAccess : Bool) : TimeSettings :=
  if isAccess then { s with accessOnly := true } else { s with modified := true }

def badDate (c : Call) (arg : Chars) : StateM Effect Unit :=
  refuse c (text "invalid date format " ++ quoted arg)

def add (c : Call) (s : TimeSettings) : String × Option Chars → Settling TimeSettings
  | ("a", _) => pure (s.only true)
  | ("m", _) => pure (s.only false)
  | ("c", _) => pure { s with create := false }
  | ("h", _) => pure { s with direct := true }
  | ("d", some arg) => pure { s with date := some arg }
  | ("r", some arg) => pure { s with reference := some arg }
  | ("t", some arg) => do
    match Date.stamp? (ofClock (← liftM files).clock) arg with
    | some t => pure { s with stamp := some t }
    | none => refusing (badDate c arg)
  | ("time", some arg) => do pure (s.only (← choose c "--time" words arg))
  | _ => pure s

def changes (s : TimeSettings) : Bool := s.modified || !s.accessOnly

def dated (c : Call) (present : Int) (arg : Chars) : Settling Int :=
  match Date.read? present arg with
  | some t => pure t
  | none => refusing (badDate c arg)

def time? (c : Call) (s : TimeSettings) : Settling (Option Int) := do
  if s.stamp.isSome && (s.date.isSome || s.reference.isSome) then
    refusing (misuse c (text "cannot specify times from more than one source"))
  let fs ← liftM files
  match s.reference, s.date with
  | some path, date =>
    match entry c fs path with
    | .ok (.place p) =>
      if (fs.node? p).isNone then
        refusing (refuse c (text "failed to get attributes of " ++ quotedName path ++
          text ": " ++ missingText))
      match date with
      | some arg => do pure (some (← dated c (ofClock (fs.time p)) arg))
      | none => pure (some (ofClock (fs.time p)))
    | .ok (.stream _ _) => pure none
    | .error _ =>
      refusing (refuse c (text "failed to get attributes of " ++ quotedName path ++
        text ": " ++ accessText fs path))
  | none, some arg => do pure (some (← dated c (ofClock fs.clock) arg))
  | none, none => pure s.stamp

end TimeSettings

def touchPlace (s : TimeSettings) (t : Option Int) (place : Location) : StateM Effect Unit := do
  let fs ← files
  if s.changes && place ≠ [] then
    setFiles (fs.setTime place ((t.map onClock).getD fs.clock))

def touchOne (c : Call) (s : TimeSettings) (t : Option Int) (name : Chars) :
    StateM Effect Unit := do
  let fs ← files
  let cannot (label : String) : StateM Effect Unit :=
    refuse c (text label ++ quotedName name ++ text ": " ++ accessText fs name)
  if name = ['-'] then
    match c.descriptors.lookup 1 with
    | some ⟨.file place, _⟩ => touchPlace s t place
    | some _ => pure ()
    | none =>
      if s.create then refuse c (text "setting times of '-': Bad file descriptor")
  else
    let there := entry c fs name
    let isThere := match there with
      | .ok (.place p) => (fs.node? p).isSome
      | .ok (.stream _ _) => true
      | .error _ => false
    match there with
    | .ok (.stream _ _) => pure ()
    | .ok (.place p) =>
      if isThere then touchPlace s t p
      else if s.direct then
        if s.create then cannot "setting times of "
      else if s.create then
        match fs.write? (Chars.text name) .empty with
        | some fs =>
          setFiles fs
          touchPlace s t p
        | none => cannot "cannot touch "
    | .error fault =>
      if s.create then
        let isNew := match fs.locate (Chars.text (withoutSlashes name)) with
          | .ok place => (fs.node? place).isNone && name ≠ []
          | .error _ => false
        cannot (if isNew || s.direct then "setting times of " else "cannot touch ")
      else if fault ≠ .missing then cannot "setting times of "

def touchGrammar : Grammar where
  flags := "acfhm"
  valued := "drt"
  long := [⟨"time", "time", .value⟩, ⟨"no-create", "c", .nothing⟩, ⟨"date", "d", .value⟩,
    ⟨"reference", "r", .value⟩, ⟨"no-dereference", "h", .nothing⟩]
  anywhere := true

def touch : Program := fun c =>
  withSettings touchGrammar .start (TimeSettings.add c) c fun s operands => do
    match ← (s.time? c).run with
    | .error _ => pure ()
    | .ok t =>
      if operands = [] then misuse c (text "missing file operand")
      else operands.forM (touchOne c s t)

/-! ## Permissions -/

def chmodOne (c : Call) (ms : List ModeChange) (name : Chars) : StateM Effect Unit := do
  let fs ← files
  match fs.find? (Chars.text name), fs.locate (Chars.text name) with
  | some node, .ok place =>
    setFiles (fs.setMode place
      (ModeChange.applyAll (node = .directory) c.mask (fs.mode place) ms))
  | _, _ =>
    refuse c (text "cannot access " ++ quotedName name ++ text ": " ++ accessText fs name)

def chmod : Program := fun c =>
  match c.arguments with
  | [] => misuse c (text "missing operand")
  | [mode] => misuse c (text "missing operand after " ++ quotedName mode)
  | mode :: names =>
    match ModeChange.list? mode with
    | some ms => names.forM (chmodOne c ms)
    | none => misuse c (text "invalid mode: " ++ quotedName mode)

end PoolCheck.Script.Program

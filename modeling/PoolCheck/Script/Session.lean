import PoolCheck.Script.Run

/-!
# Sessions

Variables, calls, open files and complaints: what the commands of a shell come down to.
-/

set_option autoImplicit false

namespace PoolCheck.Script

/-! ## Variables -/

def blanks : Chars := [' ', '\t', '\n']

namespace Shell

def stored? (sh : Shell) (name : String) : Option Variable := sh.bindings.lookup name

def value? (sh : Shell) (name : String) : Option Chars := (sh.stored? name).bind Variable.value

def changing (sh : Shell) (name : String) : Shell :=
  if name = "PATH" then { sh with located := [] } else sh

def setVariable (sh : Shell) (name : String) (v : Variable) : Shell :=
  let bindings :=
    if (sh.stored? name).isSome then sh.bindings.map fun w => if w.1 = name then (name, v) else w
    else sh.bindings ++ [(name, v)]
  { sh.changing name with bindings := bindings }

def hasOption (sh : Shell) (c : Char) : Bool := sh.options.contains c

/-- Unsets a variable. One that is kept, or that the options export, loses its value only. -/
def dropVariable (sh : Shell) (name : String) : Shell :=
  let old := sh.stored? name
  let isKept := old.any Variable.kept
  let exporting := sh.hasOption 'a'
  if isKept || exporting then
    sh.setVariable name ⟨none, exporting || old.any Variable.exported, false, isKept⟩
  else { sh.changing name with bindings := sh.bindings.filter fun w => w.1 ≠ name }

def following (sh : Shell) (name : String) (value : Chars) : Shell :=
  if name = "OPTIND" then
    { sh with optionCursor := ⟨max (Nat.ofDigitChars 10 value 0) 1, none⟩ }
  else sh

def putBack (sh : Shell) : Outside → Shell
  | .options letters => { sh with options := letters }
  | .binding name (some v) => (sh.following name (v.value.getD [])).setVariable name v
  | .binding name none =>
    let inner := (sh.stored? name).getD (.plain [])
    (sh.setVariable name { inner with readOnly := false, kept := false }).dropVariable name

def separators (sh : Shell) : Chars := (sh.value? "IFS").getD blanks

def joint (sh : Shell) : Chars :=
  match sh.value? "IFS" with
  | some cs => cs.take 1
  | none => [' ']

def group (name : String) : Nat :=
  let codes := (Chars.ofString name).map Char.toNat
  codes.foldl (· + ·) (16 * codes.headD 0) % 39

def environment (sh : Shell) : List (String × Chars) :=
  let given := sh.bindings.filterMap fun (name, v) =>
    if v.exported then v.value.map fun value => (name, value) else none
  given.mergeSort fun a b => group a.1 ≤ group b.1

/-- The number of the next job. A job that has ended and was waited for makes room. -/
def nextNumber (sh : Shell) : Nat :=
  let isTaken (n : Nat) : Bool :=
    sh.children.any fun c => c.number = n && !(c.finish.isSome && c.waited)
  ((List.range' 1 (sh.children.length + 1)).find? fun n => !isTaken n).getD 1

def makeRoom (sh : Shell) : Shell :=
  { sh with children := sh.children.filter fun c => c.number ≠ sh.nextNumber }

end Shell

def numberChars (n : Nat) : Chars := (toString n).toList

def integerChars (n : Int) : Chars := (toString n).toList

def Shell.parameter? (sh : Shell) (name : String) : Option Chars :=
  if name = "?" then some (numberChars sh.status)
  else if name = "#" then some (numberChars sh.arguments.length)
  else if name = "$" then some (numberChars sh.root)
  else if name = "!" then sh.latestChild.map numberChars
  else if name = "-" then some sh.options
  else if name.toList.all Char.isDigit then
    let n := Nat.ofDigitChars 10 name.toList 0
    if n = 0 then some sh.name else sh.arguments[n - 1]?
  else sh.value? name

/-! ## Writing and reading -/

def overlay (content : ByteArray) (offset : Nat) (bytes : ByteArray) : ByteArray :=
  if offset = content.size then content ++ bytes
  else
    let gap : ByteArray := ⟨(List.replicate (offset - content.size) 0).toArray⟩
    content.extract 0 offset ++ gap ++ bytes ++
      content.extract (offset + bytes.size) content.size

namespace Run

def openFile? (descriptor : Nat) : Run (Option (Nat × OpenFile)) := do
  let s ← get
  pure do
    let i ← s.shell.descriptors.lookup descriptor
    let f ← s.opened[i]?
    pure (i, f)

def setOpenFile (i : Nat) (f : OpenFile) : Run Unit :=
  modify fun s => { s with opened := s.opened.setIfInBounds i f }

/-! ### Pipes -/

def pipeSize : Nat := 65536

inductive Delivery where
  | taken
  | refused
  | broken

def touchPipe (outlet : Nat) (f : OpenFile) : Run Unit := do
  let now := (← get).now
  setOpenFile outlet { f with changed := now }
  modify fun s => { s with horizon := min s.horizon now }

def fillPipe (outlet : Nat) (bytes : ByteArray) : Run Delivery := do
  let s ← get
  let isOwn := s.shells.any fun sh => sh.uses outlet
  match s.opened[outlet]? with
  | some f =>
    if !isOwn && pipeSize ≤ f.unread then await (.room outlet)
  | none => pure ()
  let s ← get
  match s.opened[outlet]? with
  | some { target := .memory content, offset, appends, readable, writable, .. } =>
    if isOwn || s.others.any fun sh => sh.uses outlet then
      touchPipe outlet ⟨.memory (content ++ bytes), offset, appends, readable, writable, 0⟩
      pure .taken
    else pure .broken
  | _ => pure .broken

def deliver (descriptor : Nat) (bytes : ByteArray) : Run Delivery := do
  match ← openFile? descriptor with
  | none => pure (if bytes.size = 0 then .taken else .refused)
  | some (i, f) =>
    if bytes.size = 0 then pure .taken
    else if !f.writable then pure .refused
    else
      match f.target with
      | .void => pure .taken
      | .directory | .memory _ => pure .refused
      | .pipe outlet => fillPipe outlet bytes
      | .file place =>
        let s ← get
        match s.files.node? place with
        | some (.file content executable) =>
          let offset := if f.appends then content.size else f.offset
          setOpenFile i { f with offset := offset + bytes.size }
          modify fun s => { s with
            files := s.files.set place (.file (overlay content offset bytes) executable) }
        | _ => pure ()
        pure .taken

def write (descriptor : Nat) (bytes : ByteArray) : Run Bool := do
  match ← deliver descriptor bytes with
  | .taken => pure true
  | .refused => pure false
  | .broken =>
    let s ← get
    match Signal.reaction s.shell.traps Signal.ofPipe with
    | .ignored => pure ()
    | .caught => set { s with
        signals := s.signals ++ [(⟨s.shell.process, Signal.ofPipe, s.now⟩ : Message)] }
    | _ => throw (.killed s.shell.process Signal.ofPipe)
    pure false

def writeChars (descriptor : Nat) (cs : Chars) : Run Bool := write descriptor (Chars.bytes cs)

def unread? (files : FileSystem) (f : OpenFile) : Option ByteArray :=
  if !f.readable then none
  else
    match f.target with
    | .void => some .empty
    | .directory | .pipe _ => none
    | .memory content => some (content.extract f.offset content.size)
    | .file place =>
      match files.node? place with
      | some (.file content _) => some (content.extract f.offset content.size)
      | _ => some .empty

/-- What is left to read, if the descriptor can be read. A pipe is waited for until there is enough
in it, or nobody writes to it any more. -/
def inputBy (wait : Nat → Wait) (isEnough : ByteArray → Bool) (descriptor : Nat) :
    Run (Option ByteArray) := do
  match ← openFile? descriptor with
  | none => pure none
  | some (i, f) =>
    let s ← get
    match unread? s.files f, f.target with
    | some rest, .memory _ =>
      if !isEnough rest && s.feeds i s.others then await (wait i)
    | _, _ => pure ()
    let s ← get
    pure ((s.opened[i]?).bind (unread? s.files))

def input? (descriptor : Nat) : Run (Option ByteArray) :=
  inputBy .all (fun _ => false) descriptor

def hasLine (bytes : ByteArray) : Bool := (bytes.findIdx? fun b => b = 10).isSome

def lineInput? (descriptor : Nat) : Run (Option ByteArray) :=
  inputBy .line hasLine descriptor

def someInput? (descriptor : Nat) : Run (Option ByteArray) :=
  inputBy .some (fun rest => rest.size ≠ 0) descriptor

def consume (descriptor count : Nat) : Run Unit := do
  match ← openFile? descriptor with
  | some (i, f) =>
    let f := { f with offset := f.offset + count }
    match f.target with
    | .memory _ => touchPipe i f
    | _ => setOpenFile i f
  | none => pure ()

/-! ## Jobs -/

def lookAtChildren : Run Unit := modify fun s =>
  let isOver (process : Nat) : Bool :=
    (s.ended.lookup process).any fun (time, _) => time ≤ s.now
  let seen (c : Child) : Child :=
    if c.finish.isNone && c.processes.all isOver then
      { c with finish := (s.ended.lookup c.process).map Prod.snd }
    else c
  { s with shell := { s.shell with children := s.shell.children.map seen } }

/-! ## Complaints -/

def complaint (text : Chars) : Run Chars := do
  let sh ← shell
  let caller := match sh.caller with
    | some c => c ++ [':', ' ']
    | none => []
  pure (sh.name ++ ": ".toList ++ numberChars sh.line ++ ": ".toList ++ caller ++ text ++ ['\n'])

def complain (text : Chars) : Run Unit := do
  let _ ← writeChars 2 (← complaint text)

def fault {α : Type} (text : Chars) : Run α := do
  complain text
  setStatus 2
  throw .fault

def faultText {α : Type} (text : String) : Run α := fault text.toList

/-! ## Assignments -/

def isReadOnly (name : String) : Run Bool := do
  pure (((← shell).stored? name).any Variable.readOnly)

def badNumber {α : Type} (cs : Chars) : Run α := fault ("Illegal number: ".toList ++ cs)

def number (cs : Chars) : Run Nat := do
  match Arithmetic.decimal? cs with
  | some n => if 0 ≤ n ∧ n < 2147483648 then pure n.toNat else badNumber cs
  | none => badNumber cs

def checkChange (name : String) (value : Chars) : Run Unit := do
  if ← isReadOnly name then fault (name.toList ++ ": is read only".toList)
  if name = "OPTIND" then
    let _ ← number value

def assign (name : String) (value : Chars) (exported : Bool) : Run Unit := do
  checkChange name value
  changeShell fun sh =>
    let old := sh.stored? name
    let exported := exported || sh.hasOption 'a' || old.any Variable.exported
    (sh.following name value).setVariable name
      ⟨some value, exported, false, old.any Variable.kept⟩

def unsetVariable (name : String) : Run Unit := do
  checkChange name []
  changeShell fun sh => sh.dropVariable name

/-! ## Calls -/

def makeLocal (name : Chars) (value : Option Chars) (exported : Bool) : Run Unit := do
  let key := String.ofList name
  let old := (← shell).stored? key
  match value with
  | some value => assign key value exported
  | none =>
    if old.isNone then
      if !isName name then fault (name ++ ": bad variable name".toList)
      changeShell fun sh => sh.setVariable key ⟨none, exported || sh.hasOption 'a', false, true⟩
  changeShell fun sh =>
    let sh := (sh.stored? key).elim sh fun v => sh.setVariable key { v with kept := true }
    { sh with locals := sh.locals.modifyHead (Outside.binding key old :: ·) }

/-- Puts back what a call has changed. A variable that has no name for one cannot be unset. -/
def leaveCall : List Outside → Run Unit
  | [] => pure ()
  | change :: rest => do
    match change with
    | .binding name none =>
      if !isName name.toList then fault (name.toList ++ ": bad variable name".toList)
    | _ => pure ()
    changeShell fun sh => sh.putBack change
    leaveCall rest

def leaveCalls (remaining : Nat) : Run Unit := do
  let calls := (← shell).locals
  (calls.take (calls.length - remaining)).forM fun call => do
    changeShell fun sh => { sh with locals := sh.locals.drop 1 }
    leaveCall call

/-! ## Opening -/

inductive OpenFault where
  | missing
  | directory
  | existing
  | tooLong
  deriving DecidableEq

namespace OpenFault

def text (creates : Bool) : OpenFault → String
  | missing => if creates then "Directory nonexistent" else "No such file"
  | directory => "Is a directory"
  | existing => "File exists"
  | tooLong => "File name too long"

end OpenFault

def newOpenFile (f : OpenFile) : Run Nat := do
  let i := (← get).opened.size
  modify fun s => { s with opened := s.opened.push f }
  pure i

def locateFault (p : Path) : OpenFault :=
  if FileSystem.pathLimit ≤ p.utf8ByteSize || p.segments.any (fun s => !FileSystem.isName s)
  then .tooLong else .missing

def openAs (mode : FileMode) (target : Target) : Run Nat :=
  let reads := mode = .read || mode = .both
  newOpenFile ⟨target, 0, mode = .append, reads, mode ≠ .read, 0⟩

/-- Opens what is at a place. `protect` keeps files from being replaced. -/
def openAt (place : Location) (mode : FileMode) (protect : Bool) : Run (Except OpenFault Nat) := do
  let s ← get
  let replaces := mode = .write || mode = .replace
  match s.files.node? place with
  | some .directory =>
    if mode = .read then pure (.ok (← openAs mode .directory)) else pure (.error .directory)
  | some .void => pure (.ok (← openAs mode .void))
  | some (.file _ executable) =>
    if mode = .write && protect then pure (.error .existing)
    else
      if replaces then
        modify fun s => { s with files := s.files.set place (.file .empty executable) }
      pure (.ok (← openAs mode (.file place)))
  | none =>
    if mode = .read then pure (.error .missing)
    else
      modify fun s => { s with files := s.files.set place (.file .empty false) }
      pure (.ok (← openAs mode (.file place)))

def openPath (p : Path) (mode : FileMode) (protect : Bool) : Run (Except OpenFault Nat) := do
  match namedDescriptor? p with
  | some d =>
    match ← openFile? d with
    | none => pure (.error .missing)
    | some (i, f) =>
      match f.target with
      | .file place => openAt place mode protect
      | .memory _ | .pipe _ => pure (.ok i)
      | target => pure (.ok (← openAs mode target))
  | none =>
    match (← get).files.locate p with
    | .ok place => openAt place mode protect
    | .error _ => pure (.error (locateFault p))

def connect (descriptor i : Nat) : Run Unit :=
  changeShell fun sh => { sh with
    descriptors := (descriptor, i) :: sh.descriptors.filter fun d => d.1 ≠ descriptor }

def disconnect (descriptor : Nat) : Run Unit :=
  changeShell fun sh => { sh with
    descriptors := sh.descriptors.filter fun d => d.1 ≠ descriptor }

def newMemory (content : ByteArray) : Run Nat := do
  newOpenFile ⟨.memory content, 0, true, true, false, 0⟩

def newPipe : Run (Nat × Nat) := do
  let outlet ← newMemory .empty
  pure (outlet, ← newOpenFile ⟨.pipe outlet, 0, true, false, true, 0⟩)

end Run

end PoolCheck.Script

import PoolCheck.Script.Job
import PoolCheck.Script.Redirection

/-!
# Builtin commands that run others

Running texts and files, taking the place of the shell, waiting, and telling what a name stands
for.
-/

set_option autoImplicit false

namespace PoolCheck.Script

open Run

section

variable (self : Task → Run Unit)

def dot (tested : Bool) : Builtin.Behaviour := fun args => do
  match ← Builtin.operands args with
  | [] => setStatus 0
  | name :: _ =>
    let sh ← shell
    let s ← get
    let path ←
      if name.contains '/' then pure name
      else
        let dirs := Text.split ':' ((sh.value? "PATH").getD [])
        let paths := dirs.map fun d => if d = [] then name else d ++ '/' :: name
        match paths.find? fun p => s.files.isFile (Chars.text p) with
        | some p => pure p
        | none => fault (name ++ ": not found".toList)
    match ← sourceText? path with
    | none => fault ("cannot open ".toList ++ path ++ ": No such file".toList)
    | some cs =>
      changeShell fun sh => { sh with caller := some path }
      match ← attempt (self (.text tested .file cs)) with
      | .error (.back n) => setStatus (n.getD (← status))
      | r => resume r

def evalWords (tested : Bool) : Builtin.Behaviour := fun args =>
  self (.text tested .words (Text.join [' '] args))

def locateCommand (dirs : Option Chars) (name : Chars) : Run (Except ExecutionFault Chars) := do
  if name.contains '/' then pure (.ok name)
  else
    let s ← get
    let key := String.ofList name
    match dirs, s.shell.located.lookup key with
    | none, some path => pure (.ok path)
    | none, none =>
      let found := searchPath s.installed s.files ((s.shell.value? "PATH").getD []) name
      if let .ok path := found then
        changeShell fun sh => { sh with located := (key, path) :: sh.located }
      pure found
    | some dirs, _ => pure (searchPath s.installed s.files dirs name)

/-- Starts a command that is no builtin one. A file in no known form is taken for a script. -/
def execute (dirs : Option Chars) (name : Chars) (args : List Chars) :
    Run (Except ExecutionFault Finish) := do
  match ← locateCommand dirs name with
  | .error e => pure (.error e)
  | .ok path =>
    let s ← get
    let env := s.shell.environment
    match start s.installed s.files env path name args with
    | .ok st => pure (.ok (← runStart self st))
    | .error .unknownForm =>
      pure (.ok (← runStart self ⟨.shell, ['s', 'h'], path :: args, env⟩))
    | .error e => pure (.error e)

def exec : Builtin.Behaviour := fun args => do
  match args with
  | [] => setStatus 0
  | name :: rest =>
    match ← execute self none name rest with
    | .error e =>
      complain (name ++ ": ".toList ++ e.text.toList)
      throw (.exit (some e.status))
    | .ok f =>
      changeShell fun sh => { sh with traps := [] }
      match f with
      | .exited n => throw (.exit (some n))
      | .killed n => throw (.killed (← shell).process n)

def awaited? (word : Chars) : Run (Option Child) := do
  if word.head? = some '%' then pure (some (← Builtin.childOf (some word)))
  else
    let n ← number word
    pure ((← shell).children.find? fun c => c.process = n)

def cutShort : Run Nat := do
  let s ← get
  let mine (m : Message) : Bool := m.process = s.shell.process && m.arrival ≤ s.now
  pure (128 + (((s.signals.filter mine).map Message.signal).min?.getD 0))

/-- Waits for the end of a job and takes over its status. The end is told of if it is news. The
result tells whether nothing came between. -/
def waitFor (c : Child) : Run Bool := do
  let f ← match c.finish with
    | some f => do
      setStatus f.status
      pure (some f)
    | none => do
      let f ← awaitChild c
      f.forM takeOver
      pure f
  if f.isSome then
    changeShell fun sh => { sh with
      children := sh.children.map fun d =>
        if d.number = c.number then { d with waited := true } else d }
  else setStatus (← cutShort)
  pure f.isSome

def waitForAll {α : Type} (step : α → Run Bool) : List α → Run Bool
  | [] => pure true
  | a :: rest => do
    let goesOn ← step a
    if goesOn then waitForAll step rest else pure false

def wait : Builtin.Behaviour := fun args => do
  match ← Builtin.operands args with
  | [] =>
    let all ← waitForAll (fun c => do
      if c.finish.isSome then pure true
      else
        let f ← awaitChild c
        if f.isNone then setStatus (← cutShort)
        pure f.isSome) (← shell).children
    if all then
      changeShell fun sh => { sh with
        children := sh.children.map fun c => { c with waited := true } }
      setStatus 0
  | words =>
    let _ ← waitForAll (fun word => do
      match ← awaited? word with
      | some c => waitFor c
      | none =>
        setStatus 127
        pure true) words

/-- What a name stands for as a command. The short form can be used as a command again. -/
def describe (verbose : Bool) (dirs : Option Chars) (name : Chars) : Run (Option Chars) := do
  let sh ← shell
  let key := String.ofList name
  let say (text : String) : Option Chars := some (if verbose then name ++ text.toList else name)
  let isBuiltin := specialNames.contains key || (Builtin.entries.map (·.name)).contains key ||
    ["command", "hash", "type", "wait"].contains key
  if keywords.contains key then pure (say " is a shell keyword")
  else
    match sh.aliases.lookup key with
    | some value =>
      pure (some (if verbose then name ++ " is an alias for ".toList ++ value
        else "alias ".toList ++ name ++ '=' :: Builtin.quoted value))
    | none =>
      if (sh.functions.lookup key).isSome then pure (say " is a shell function")
      else if specialNames.contains key then pure (say " is a special shell builtin")
      else if isBuiltin then pure (say " is a shell builtin")
      else
        match ← locateCommand dirs name with
        | .error _ => pure none
        | .ok path =>
          let s ← get
          let relation := if (sh.located.lookup key).isSome then " is a tracked alias for "
            else " is "
          if (Executable.atPath s.installed s.files path).toOption.isNone then pure none
          else pure (some (if verbose then name ++ relation.toList ++ path else path))

def describeAll (verbose : Bool) (dirs : Option Chars) (names : List Chars) : Run Unit := do
  setStatus 0
  names.forM fun name => do
    match ← describe verbose dirs name with
    | some cs =>
      let _ ← writeChars 1 (cs ++ ['\n'])
    | none =>
      if verbose then
        let _ ← writeChars 1 (name ++ ": not found\n".toList)
      setStatus 127

def typeOf : Builtin.Behaviour := fun args => describeAll true none args

def describing : Builtin.Behaviour := fun args => do
  let (given, names) ← Builtin.options "pvV" "" args
  let dirs := if given.any fun g => g.1 = 'p' then some standardPath else none
  let verbose := given.any fun g => g.1 = 'V'
  if given.any fun g => g.1 = 'v' || g.1 = 'V' then describeAll verbose dirs (names.take 1)
  else setStatus 0

def hash : Builtin.Behaviour := fun args => do
  let (given, names) ← Builtin.options "r" "" args
  let names := if given = [] then names else []
  if given ≠ [] then changeShell fun sh => { sh with located := [] }
  else if names = [] then
    let known := Builtin.listed 31 (← shell).located
    Builtin.give (known.flatMap fun (_, path) => path ++ ['\n']) 0
  setStatus 0
  names.forM fun name => do
    if (← describe false none name).isNone then
      complain (name ++ ": not found".toList)
      setStatus 1

def builtins (tested : Bool) : List Builtin.Entry :=
  [⟨"eval", true, false, evalWords self tested⟩, ⟨".", true, false, dot self tested⟩,
    ⟨"exec", true, false, exec self⟩, ⟨"command", false, false, describing⟩,
    ⟨"wait", false, false, wait⟩, ⟨"type", false, false, typeOf⟩,
    ⟨"hash", false, false, hash⟩] ++ Builtin.entries

end

end PoolCheck.Script

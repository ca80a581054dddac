import PoolCheck.Script.Builtin.Basic

/-!
# Variables and aliases

Giving variables to programs, protecting and removing them, keeping them local to a function, and
names for pieces of text.
-/

set_option autoImplicit false

namespace PoolCheck.Script.Builtin

open Run

def checkName (name : Chars) : Run Unit := do
  if !isName name then fault (name ++ chars ": bad variable name")

/-- Gives a variable a value under a name that somebody has made up. The name ends before an equals
sign. -/
def setChecked (name value : Chars) (exported : Bool) : Run Unit := do
  let name := name.takeWhile (· ≠ '=')
  checkName name
  assign (String.ofList name) value exported

def splitAssignment (arg : Chars) : Chars × Option Chars :=
  let name := arg.takeWhile (· ≠ '=')
  (name, if name.length < arg.length then some (arg.drop (name.length + 1)) else none)

def listVariables (label : String) (keep : Variable → Bool) : Run Unit := do
  let found := (← shell).bindings.filter fun v => keep v.2
  let sorted := found.mergeSort fun v w => !Chars.isLess (chars w.1) (chars v.1)
  give (sorted.flatMap fun (name, v) =>
    chars label ++ chars name ++ (match v.value with
      | some value => '=' :: quoted value
      | none => []) ++ ['\n']) 0

def markVariable (name : Chars) (f : Variable → Variable) : Run Unit := do
  let key := String.ofList name
  let old := (← shell).stored? key
  if old.isNone then checkName name
  changeShell fun sh => sh.setVariable key
    (f (old.getD ⟨none, sh.hasOption 'a', false, false⟩))

def marking (label : String) (keep : Variable → Bool) (f : Variable → Variable) : Behaviour :=
  fun args => do
    let (given, names) ← firstOption "p" args
    if names = [] || given.isSome then listVariables label keep
    else
      names.forM fun arg => do
        let (name, value) := splitAssignment arg
        match value with
        | some value => setChecked name value false
        | none => pure ()
        markVariable name f
      setStatus 0

def exporting : Behaviour :=
  marking "export " Variable.exported fun v => { v with exported := true }

def protecting : Behaviour :=
  marking "readonly " Variable.readOnly fun v => { v with readOnly := true }

def unset : Behaviour := fun args => do
  let (given, names) ← options "vf" "" args
  let ofFunctions := (given.head?.map Prod.fst) = some 'f'
  names.forM fun arg => do
    let name := (splitAssignment arg).1
    let key := String.ofList name
    if ofFunctions then
      changeShell fun sh => { sh with functions := sh.functions.filter fun f => f.1 ≠ key }
    else
      checkName name
      unsetVariable key
  setStatus 0

def localize : Behaviour := fun args => do
  if (← shell).locals.isEmpty then faultText "not in a function"
  args.forM fun arg => do
    if arg = ['-'] then
      changeShell fun sh => { sh with
        locals := sh.locals.modifyHead (Outside.options sh.options :: ·) }
    else
      let (name, value) := splitAssignment arg
      makeLocal name value false
  setStatus 0

/-! ## Aliases -/

def aliasLine (name : String) (value : Chars) : Chars := chars name ++ '=' :: quoted value ++ ['\n']

def setAlias (arg : Chars) : Run Unit := do
  let (rest, value) := splitAssignment (arg.drop 1)
  let name := arg.take 1 ++ rest
  let key := String.ofList name
  match value with
  | some value =>
    changeShell fun sh => { sh with
      aliases := (key, value) :: sh.aliases.filter fun a => a.1 ≠ key }
  | none =>
    match (← shell).aliases.lookup key with
    | some value => let _ ← writeChars 1 (aliasLine key value)
    | none =>
      let _ ← writeChars 2 (chars "alias: " ++ name ++ chars " not found\n")
      setStatus 1

def aliasing : Behaviour := fun args => do
  setStatus 0
  if args = [] then
    let known := listed 39 (← shell).aliases
    give (known.flatMap fun (name, value) => aliasLine name value) 0
  else args.forM setAlias

def unaliasing : Behaviour := fun args => do
  let (given, names) ← firstOption "a" args
  if given.isSome then changeShell fun sh => { sh with aliases := [] }
  setStatus 0
  if given.isNone then names.forM fun name => do
    let known := (← shell).aliases
    let key := String.ofList name
    if (known.lookup key).isNone then
      let _ ← writeChars 2 (chars "unalias: " ++ name ++ chars " not found\n")
      setStatus 1
    changeShell fun sh => { sh with aliases := known.filter fun a => a.1 ≠ key }

end PoolCheck.Script.Builtin

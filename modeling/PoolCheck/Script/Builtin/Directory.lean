import PoolCheck.Script.Builtin.Basic

/-!
# Directories
-/

set_option autoImplicit false

namespace PoolCheck.Script.Builtin

open Run

/-- Whether a path begins with two slashes and no third one, which are kept. -/
def isDoubled : Chars → Bool
  | '/' :: '/' :: rest => rest.head? ≠ some '/'
  | _ => false

def canonical (current dest : Chars) : Chars :=
  let isFull := dest.head? = some '/'
  let segments := (if isFull then [] else Text.split '/' current) ++ Text.split '/' dest
  let kept := segments.foldl (fun (acc : List Chars) s =>
    if s = [] || s = ['.'] then acc
    else if s = ['.', '.'] then acc.tail
    else s :: acc) []
  (if isDoubled (if isFull then dest else current) then ['/', '/'] else ['/']) ++
    Text.join ['/'] kept.reverse

def directory : Run Chars := do pure (Chars.ofString (← get).files.current)

def physical (fs : FileSystem) (path : Chars) : Chars :=
  match fs.locate (Chars.text path) with
  | .ok place => '/' :: Text.join ['/'] (place.map Chars.ofString)
  | .error _ => path

/-- Goes to a directory, if there is one. Dots are worked off before anything is looked up. -/
def enter? (isPhysical : Bool) (dest : Chars) : Run Bool := do
  let current ← directory
  let fs := (← get).files
  let path := if isPhysical then physical fs dest else canonical current dest
  if fs.isDirectory (Chars.text path) then
    modify fun s => { s with files := { s.files with current := Chars.text path } }
    assign "OLDPWD" current true
    assign "PWD" path true
    pure true
  else pure false

def isDotted (dest : Chars) : Bool :=
  dest.head? = some '/' || ["."  , ".."].any fun d =>
    dest = d.toList || (d.toList ++ ['/']).isPrefixOf dest

def cd : Behaviour := fun args => do
  let (given, rest) ← options "LP" "" args
  let sh ← shell
  let (dest, prints) := match rest with
    | [] => ((sh.value? "HOME").getD [], false)
    | arg :: _ => if arg = ['-'] then ((sh.value? "OLDPWD").getD [], true) else (arg, false)
  let dest' := if dest = [] then ['.'] else dest
  let fronts : List Chars := if isDotted dest' then []
    else
      match sh.value? "CDPATH" with
      | some dirs => Text.split ':' dirs
      | none => []
  let fs := (← get).files
  let found := fronts.find? fun front =>
    fs.isDirectory (Chars.text (if front = [] then dest' else Program.below front dest'))
  let (target, prints) := match found with
    | some [] | none => (dest', prints)
    | some front => (Program.below front dest', true)
  if ← enter? (given.head?.any fun g => g.1 = 'P') target then
    if prints then giveLine (← directory) else setStatus 0
  else fault (chars "can't cd to " ++ dest)

def pwd : Behaviour := fun args => do
  let (given, _) ← options "LP" "" args
  let path ← directory
  let fs := (← get).files
  let isPhysical := given.head?.any fun g => g.1 = 'P'
  if isPhysical && !fs.isDirectory (Chars.text path) then
    complain (chars "getcwd() failed: No such file or directory")
    giveLine []
  else giveLine (if isPhysical then physical fs path else path)

end PoolCheck.Script.Builtin
